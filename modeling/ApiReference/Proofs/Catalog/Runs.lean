import ApiReference.Proofs.Catalog.Insertions

/-!
# Catalogs over Whole Runs

A run begins with a catalog and offers documents to it, some of which it refuses.  The same run can
be made on an index, which stores documents under keys and is changed in place.  In both, what is
there after any run are the documents that were taken, in order.
-/

namespace ApiReference.Catalog

/-! ## Indexes -/

/-- Documents stored under keys, in the order in which the keys came in. -/
structure Index where
  entries : List (String × Document)

/-- What is done to an index.  If it breaks off, the changes made until then stay. -/
abbrev Action : Type → Type :=
  ExceptT DocumentError (StateM Index)

/-- The result of an action, and the index after it. -/
def Action.on {α : Type} (action : Action α) (index : Index) : Except DocumentError α × Index :=
  action.run.run index

namespace Index

def get? (index : Index) (key : String) : Option Document :=
  index.entries.lookup key

/-- The index with a document under a key: in the place of what was there, or else at the end. -/
def store (index : Index) (key : String) (document : Document) : Index :=
  if (index.get? key).isSome then
    ⟨index.entries.map fun entry ↦ if entry.1 = key then (key, document) else entry⟩
  else ⟨index.entries ++ [(key, document)]⟩

def put (document : Document) : Action Unit :=
  modify fun index ↦ index.store document.name document

/-- Stores a document under its name, unless it is refused. -/
def push (document : Document) : Action Unit := do
  if Text.isBlank document.name then throw (.blankName document.name)
  else if Text.isBlank document.url then throw (.blankUrl document.name)
  else if ((← get).get? document.name).isSome then throw (.duplicateName document.name)
  else put document

end Index

/-- A catalog as an index: every document is stored under its name. -/
def index (catalog : Catalog) : Index :=
  ⟨catalog.documents.map fun document ↦ (document.name, document)⟩

/-- The index finds by name what the catalog finds. -/
theorem get?_index (catalog : Catalog) (name : String) :
    catalog.index.get? name = catalog.get? name := by
  rw [Index.get?, index, get?]
  induction catalog.documents with
  | nil => rfl
  | cons document rest ih =>
    rw [List.map_cons, List.lookup_cons, List.find?_cons, ih, Bool.beq_comm]

/-- A document with a new name comes last in the index as well. -/
theorem store_index {catalog : Catalog} {document : Document}
    (h : document.name ∉ namesOf catalog.documents) :
    catalog.index.store document.name document = index ⟨catalog.documents ++ [document]⟩ := by
  have habsent : ¬(catalog.index.get? document.name).isSome = true := by
    rwa [get?_index, get?_isSome_iff]
  rw [Index.store, if_neg habsent, index, index, List.map_append, List.map_singleton]

theorem on_unless (test : Index → Bool) (error : DocumentError) (action : Action Unit)
    (index : Index) : Action.on (do if test (← get) then throw error else action) index =
      if test index then (.error error, index) else action.on index := by
  change Action.on (if test index then throw error else action) index = _
  split <;> rfl

/-- A document is pushed into an index as it is into the catalog, and one that is refused leaves no
trace. -/
theorem on_push (catalog : Catalog) (document : Document) :
    (Index.push document).on catalog.index =
      match catalog.push document with
      | .ok next => (.ok (), next.index)
      | .error error => (.error error, catalog.index) := by
  unfold Index.push push
  by_cases hname : Text.isBlank document.name = true
  · rw [if_pos hname, if_pos hname]
    rfl
  rw [if_neg hname, if_neg hname]
  by_cases hurl : Text.isBlank document.url = true
  · rw [if_pos hurl, if_pos hurl]
    rfl
  rw [if_neg hurl, if_neg hurl, on_unless fun index ↦ (index.get? document.name).isSome, get?_index]
  by_cases htaken : (catalog.get? document.name).isSome = true
  · rw [if_pos htaken, if_pos htaken]
  rw [if_neg htaken, if_neg htaken]
  exact congrArg (Prod.mk _) (store_index (mt (get?_isSome_iff _ _).mpr htaken))

/-! ## Runs -/

/-- What is said of a document that is offered to a catalog, and the catalog after it. -/
def offer (catalog : Catalog) (document : Document) : Except DocumentError Unit × Catalog :=
  match catalog.push document with
  | .ok next => (.ok (), next)
  | .error error => (.error error, catalog)

/-- What is said of a document that is offered to an index, and the index after it. -/
def Index.offer (index : Index) (document : Document) : Except DocumentError Unit × Index :=
  (push document).on index

/-- What is said of each of some documents that are offered in order, and the state after them. -/
def offerAll {σ : Type} (offer : σ → Document → Except DocumentError Unit × σ) (state : σ) :
    List Document → List (Except DocumentError Unit) × σ
  | [] => ([], state)
  | document :: rest =>
    let step := offer state document
    let run := offerAll offer step.2 rest
    (step.1 :: run.1, run.2)

/-- The documents of a run that were taken. -/
def taken (offered : List Document) (outcomes : List (Except DocumentError Unit)) :
    List Document :=
  ((offered.zip outcomes).filter fun entry ↦ entry.2.isOk).map Prod.fst

theorem taken_cons (document : Document) (offered : List Document)
    (outcome : Except DocumentError Unit) (outcomes : List (Except DocumentError Unit)) :
    taken (document :: offered) (outcome :: outcomes) =
      taken [document] [outcome] ++ taken offered outcomes := by
  rw [taken, List.zip_cons_cons, ← List.singleton_append, List.filter_append, List.map_append]
  rfl

theorem offer_of_fits {catalog : Catalog} {document : Document}
    (h : Fits (namesOf catalog.documents) document) :
    catalog.offer document = (.ok (), ⟨catalog.documents ++ [document]⟩) := by
  rw [offer, push_of_fits h]

/-- A refused document leaves the catalog as it is. -/
theorem offer_of_refused {catalog : Catalog} {document : Document} {error : DocumentError}
    (h : Refused (namesOf catalog.documents) document error) :
    catalog.offer document = (.error error, catalog) := by
  rw [offer, push_of_refused h]

/-- What is offered to a catalog leaves it sound, and with what was taken at its end. -/
theorem offer_keeps {catalog : Catalog} (h : Sound catalog.documents) (document : Document) :
    Sound (catalog.offer document).2.documents ∧ (catalog.offer document).2.documents =
      catalog.documents ++ taken [document] [(catalog.offer document).1] := by
  rcases fits_or_refused (namesOf catalog.documents) document with hfits | ⟨error, hrefused⟩
  · rw [offer_of_fits hfits]
    exact ⟨sound_append_singleton.mpr ⟨h, hfits⟩, rfl⟩
  · rw [offer_of_refused hrefused]
    exact ⟨h, (List.append_nil _).symm⟩

/-- Offers keep a catalog sound, and only add to it what was taken. -/
theorem offerAll_keeps {catalog : Catalog} (h : Sound catalog.documents)
    (offered : List Document) :
    Sound (offerAll offer catalog offered).2.documents ∧
      (offerAll offer catalog offered).2.documents =
        catalog.documents ++ taken offered (offerAll offer catalog offered).1 := by
  induction offered generalizing catalog with
  | nil => exact ⟨h, (List.append_nil _).symm⟩
  | cons document rest ih =>
    obtain ⟨hnext, hstep⟩ := offer_keeps h document
    obtain ⟨hlast, hrest⟩ := ih hnext
    refine ⟨hlast, hrest.trans ?_⟩
    rw [hstep, List.append_assoc, ← taken_cons]
    rfl

/-- The index takes and refuses what the catalog does. -/
theorem offer_index (catalog : Catalog) (document : Document) :
    catalog.index.offer document =
      ((catalog.offer document).1, (catalog.offer document).2.index) := by
  rw [Index.offer, on_push, offer]
  cases catalog.push document <;> rfl

/-- A run on the index of a catalog says the same as on the catalog, and ends with its index. -/
theorem offerAll_index (catalog : Catalog) (offered : List Document) :
    offerAll Index.offer catalog.index offered =
      ((offerAll offer catalog offered).1, (offerAll offer catalog offered).2.index) := by
  induction offered generalizing catalog with
  | nil => rfl
  | cons document rest ih => simp only [offerAll, offer_index, ih]

/-! ## Beginnings -/

/-- How a run begins. -/
inductive Beginning where
  | empty
  | platform
  | listed (documents : List Document)

namespace Beginning

/-- The documents that are there at the beginning. -/
def inserted : Beginning → List Document
  | .empty => []
  | .platform => Catalog.platform.documents
  | .listed documents => documents

/-- The catalog at the beginning, if its documents form one. -/
def catalog : Beginning → Except DocumentError Catalog
  | .empty => .ok .empty
  | .platform => .ok .platform
  | .listed documents => ofDocuments documents

/-- How the index at the beginning is made from one that is empty.  The documents of the platform
are stored without being checked. -/
def fill : Beginning → Action Unit
  | .empty => pure ()
  | .platform => Catalog.platform.documents.forM Index.put
  | .listed documents => documents.forM Index.push

end Beginning

theorem sound_platform : Sound Catalog.platform.documents := by
  constructor <;> decide

theorem on_bind_of_ok {α β : Type} {action : Action α} {index next : Index} {a : α}
    (h : action.on index = (.ok a, next)) (rest : α → Action β) :
    (action >>= rest).on index = (rest a).on next := by
  unfold Action.on at h ⊢
  simp only [ExceptT.run_bind, StateT.run_bind, h]
  rfl

/-- The keyed index takes what the catalog takes, and finds the same. -/
theorem on_forM_push {documents : List Document} {start catalog : Catalog}
    (h : documents.foldlM push start = .ok catalog) :
    Action.on (documents.forM Index.push) start.index = (.ok (), catalog.index) := by
  induction documents generalizing start with
  | nil =>
    cases h
    rfl
  | cons document rest ih =>
    rw [List.foldlM_cons] at h
    have hpush := on_push start document
    cases hnext : start.push document with
    | error error =>
      rw [hnext] at h
      cases h
    | ok next =>
      rw [hnext] at h hpush
      exact (on_bind_of_ok hpush fun _ ↦ rest.forM Index.push).trans (ih h)

namespace Beginning

/-- The index at the beginning is that of the catalog at the beginning. -/
theorem on_fill {beginning : Beginning} {start : Catalog} (h : beginning.catalog = .ok start) :
    beginning.fill.on ⟨[]⟩ = (.ok (), start.index) := by
  cases beginning with
  | empty =>
    cases h
    rfl
  | platform =>
    cases h
    rfl
  | listed documents => exact on_forM_push h

theorem sound_inserted {beginning : Beginning} {start : Catalog}
    (h : beginning.catalog = .ok start) :
    Sound beginning.inserted ∧ start.documents = beginning.inserted := by
  cases beginning with
  | empty =>
    cases h
    exact ⟨sound_nil, rfl⟩
  | platform =>
    cases h
    exact ⟨sound_platform, rfl⟩
  | listed documents =>
    obtain ⟨hsound, rfl⟩ := ofDocuments_eq_ok_iff.mp h
    exact ⟨hsound, rfl⟩

end Beginning

/-! ## What holds after a run -/

/-- A catalog holds documents in order.  It takes what fits them and is otherwise left as it is, and
by names and addresses it finds them and nothing else. -/
structure Holds (catalog : Catalog) (inserted : List Document) : Prop where
  order : catalog.documents = inserted
  sound : Sound inserted
  takes : ∀ document, catalog.offer document = (.ok (), ⟨inserted ++ [document]⟩) ↔
    Fits (namesOf inserted) document
  refuses : ∀ document error, catalog.offer document = (.error error, catalog) ↔
    Refused (namesOf inserted) document error
  finds : ∀ name document, catalog.get? name = some document ↔
    document ∈ inserted ∧ document.name = name
  findsUrl : ∀ url document, catalog.findUrl? url = some document ↔ ∃ before after,
    inserted = before ++ document :: after ∧ document.url = url ∧
      ∀ earlier ∈ before, earlier.url ≠ url

/-- A sound catalog holds its own documents. -/
theorem holds_of_sound {catalog : Catalog} (h : Sound catalog.documents) :
    Holds catalog catalog.documents where
  order := rfl
  sound := h
  takes document := by
    refine ⟨fun hoffer ↦ ?_, offer_of_fits⟩
    rcases fits_or_refused (namesOf catalog.documents) document with hfits | ⟨error, hrefused⟩
    · exact hfits
    · rw [offer_of_refused hrefused] at hoffer
      cases hoffer
  refuses document error := by
    refine ⟨fun hoffer ↦ ?_, offer_of_refused⟩
    rcases fits_or_refused (namesOf catalog.documents) document with hfits | ⟨cause, hrefused⟩
    · rw [offer_of_fits hfits] at hoffer
      cases hoffer
    · rw [offer_of_refused hrefused] at hoffer
      cases hoffer
      exact hrefused
  finds name document := get?_eq_some_iff h
  findsUrl url document := findUrl?_eq_some_iff

/-- An index stores documents under their names in order, and is left as it is when one is
refused. -/
structure Index.Stores (index : Index) (inserted : List Document) : Prop where
  keyed : index.entries = inserted.map fun document ↦ (document.name, document)
  finds : ∀ name document, index.get? name = some document ↔
    document ∈ inserted ∧ document.name = name
  refuses : ∀ document error, index.offer document = (.error error, index) ↔
    Refused (namesOf inserted) document error

/-- The index of a catalog stores what the catalog holds. -/
theorem Holds.stores_index {catalog : Catalog} {inserted : List Document}
    (h : Holds catalog inserted) : catalog.index.Stores inserted where
  keyed := by rw [index, h.order]
  finds name document := by rw [get?_index, h.finds]
  refuses document error := by
    rw [← h.refuses, offer_index, offer]
    cases catalog.push document <;> simp

/-- After any run a catalog holds the documents that were there at the beginning and those that it
took since, in this order, and the same run on an index says the same of each document and stores
the same ones under their names.  Where documents form no catalog, the cause is the first
offence. -/
theorem run_holds_inserted (beginning : Beginning) {start : Catalog}
    (hstart : beginning.catalog = .ok start) (offered : List Document) :
    let run := offerAll offer start offered
    let inserted := beginning.inserted ++ taken offered run.1
    Holds run.2 inserted ∧
    (∃ begun ended : Index, beginning.fill.on ⟨[]⟩ = (.ok (), begun) ∧
      offerAll Index.offer begun offered = (run.1, ended) ∧ ended.Stores inserted) ∧
    ∀ documents error, ofDocuments documents = .error error ↔ FirstOffence documents error := by
  intro run inserted
  obtain ⟨hbegun, hstarted⟩ := Beginning.sound_inserted hstart
  rw [← hstarted] at hbegun
  obtain ⟨hsound, hdocuments⟩ := offerAll_keeps hbegun offered
  have hholds := holds_of_sound hsound
  rw [hdocuments, hstarted] at hholds
  exact ⟨hholds, ⟨start.index, run.2.index, Beginning.on_fill hstart,
    offerAll_index start offered, hholds.stores_index⟩, fun _ _ ↦ ofDocuments_eq_error_iff⟩

/-- A blank name and a name that is taken are refused, and the address of another document is
not. -/
theorem run_refuses_blank_and_taken :
    Beginning.catalog (.listed [⟨"A", "/a"⟩, ⟨"B", "/b"⟩]) = .ok ⟨[⟨"A", "/a"⟩, ⟨"B", "/b"⟩]⟩ ∧
    Holds (offerAll offer ⟨[⟨"A", "/a"⟩, ⟨"B", "/b"⟩]⟩
      [⟨"\u2003", "/c"⟩, ⟨"A", "/c"⟩, ⟨"C", "/a"⟩]).2
      [⟨"A", "/a"⟩, ⟨"B", "/b"⟩, ⟨"C", "/a"⟩] := by
  have hstart : Beginning.catalog (.listed [⟨"A", "/a"⟩, ⟨"B", "/b"⟩]) =
      .ok ⟨[⟨"A", "/a"⟩, ⟨"B", "/b"⟩]⟩ := by
    decide +kernel
  refine ⟨hstart, ?_⟩
  have hrun := (run_holds_inserted _ hstart [⟨"\u2003", "/c"⟩, ⟨"A", "/c"⟩, ⟨"C", "/a"⟩]).1
  have htaken : taken [⟨"\u2003", "/c"⟩, ⟨"A", "/c"⟩, ⟨"C", "/a"⟩] (offerAll offer
      ⟨[⟨"A", "/a"⟩, ⟨"B", "/b"⟩]⟩ [⟨"\u2003", "/c"⟩, ⟨"A", "/c"⟩, ⟨"C", "/a"⟩]).1 =
      [⟨"C", "/a"⟩] := by
    decide +kernel
  rw [htaken] at hrun
  exact hrun

end ApiReference.Catalog
