import ApiReference.Proofs.Catalog.Runs
import ApiReference.Proofs.Json.Records
import ApiReference.Proofs.Json.Refusal
import ApiReference.Proofs.Json.RoundTrip

/-!
# Catalogs in JSON Text

A text is read as a catalog just when it spells a list of documents that form one, and the catalog
has these documents in their order.  What a catalog is printed as spells its documents, so it is
read back, whatever characters stand in names and addresses.
-/

namespace ApiReference

open Json Json.Reader

/-! ## How documents are spelled -/

/-- The tokens of a document: an object of its two members in either order, or a list of its name
and its address. -/
inductive Document.Spells (document : Document) : List (List Char) → Prop
  | object {nameKey name urlKey url : List Char} (hnameKey : IsQuoted nameKey "name")
    (hname : IsQuoted name document.name) (hurlKey : IsQuoted urlKey "url")
    (hurl : IsQuoted url document.url) : Document.Spells document
      [['\x7b'], nameKey, [':'], name, [','], urlKey, [':'], url, ['\x7d']]
  | reversed {nameKey name urlKey url : List Char} (hnameKey : IsQuoted nameKey "name")
    (hname : IsQuoted name document.name) (hurlKey : IsQuoted urlKey "url")
    (hurl : IsQuoted url document.url) : Document.Spells document
      [['\x7b'], urlKey, [':'], url, [','], nameKey, [':'], name, ['\x7d']]
  | listed {name url : List Char} (hname : IsQuoted name document.name)
    (hurl : IsQuoted url document.url) :
    Document.Spells document [['['], name, [','], url, [']']]

/-- A text that spells a list of documents, with blanks wherever there may be some. -/
def Document.SpellsAll (text : String) (documents : List Document) : Prop :=
  ∃ tokens trailing, SpellsList Document.Spells documents tokens ∧
    Spaced tokens text.toList trailing ∧ Blanks trailing

def Document.readList (text : String) : Except Fault (List Document) :=
  readAll (Reader.list (Reader.record Document.shape)) text.toList

namespace Document

def set (key content : String) (document : Document) : Document :=
  if key = "name" then { document with name := content } else { document with url := content }

/-- The tokens of the value of a member: a string. -/
def SpellsValue (key : String) (update : Document → Document) (tokens : List (List Char)) : Prop :=
  ∃ token content, IsQuoted token content ∧ update = set key content ∧ tokens = [token]

theorem accepts_value (key : String) :
    Accepts (set key <$> Reader.string "a string") (SpellsValue key) where
  on_iff text rest update := by
    rw [on_map_eq_ok_iff]
    constructor
    · rintro ⟨content, hstring, rfl⟩
      obtain ⟨token, htoken, hspaced⟩ := on_string_eq_ok_iff.mp hstring
      exact ⟨[token], ⟨token, content, htoken, rfl, rfl⟩, hspaced⟩
    · rintro ⟨_, ⟨token, content, htoken, rfl, rfl⟩, hspaced⟩
      exact ⟨content, on_string_eq_ok_iff.mpr ⟨token, htoken, hspaced⟩, rfl⟩
  begins update tokens := by
    rintro ⟨_, content, ⟨body, -, rfl⟩, -, rfl⟩
    exact ⟨'"', _, _, rfl, by decide, by decide⟩

/-- A document is read from a name and a url, both texts. -/
theorem readsMembers_shape : ReadsMembers Document.shape SpellsValue := by
  have hname : (fun name document ↦ { document with name }) = set "name" :=
    funext fun content ↦ funext fun document ↦ (if_pos rfl).symm
  have hurl : (fun url document ↦ { document with url }) = set "url" :=
    funext fun content ↦ funext fun document ↦ (if_neg (by decide)).symm
  intro member hmember
  rw [Document.shape, hname, hurl, List.mem_cons, List.mem_singleton] at hmember
  rcases hmember with rfl | rfl
  · exact accepts_value "name"
  · exact accepts_value "url"

theorem hasRequired_shape_iff {keys : List String} :
    HasRequired Document.shape keys ↔ "name" ∈ keys ∧ "url" ∈ keys := by
  constructor
  · intro h
    exact ⟨h _ List.mem_cons_self rfl, h _ (List.mem_cons_of_mem _ List.mem_cons_self) rfl⟩
  · rintro ⟨hname, hurl⟩ member hmember -
    have hkey : member.key ∈ ["name", "url"] := List.mem_map_of_mem hmember
    rw [List.mem_cons, List.mem_singleton] at hkey
    rcases hkey with hkey | hkey
    · rwa [hkey]
    · rwa [hkey]

/-- Keys of documents, none twice and none missing, are the two keys in one order or the other. -/
theorem keys_cases {keys : List String} (hdistinct : keys.Nodup)
    (hknown : ∀ key ∈ keys, key ∈ ["name", "url"]) (hrequired : "name" ∈ keys ∧ "url" ∈ keys) :
    keys = ["name", "url"] ∨ keys = ["url", "name"] := by
  obtain ⟨hname, hurl⟩ := hrequired
  have hperm : keys.Perm ["name", "url"] := by
    apply (List.perm_ext_iff_of_nodup hdistinct (by decide)).mpr
    intro key
    constructor
    · exact hknown key
    · intro hkey
      rw [List.mem_cons, List.mem_singleton] at hkey
      rcases hkey with rfl | rfl
      · exact hname
      · exact hurl
  obtain ⟨first, second, rfl⟩ := List.length_eq_two.mp hperm.length_eq
  simp only [List.mem_cons, List.not_mem_nil, or_false] at hname hurl
  rcases hname with rfl | rfl
  · left
    rw [hurl.resolve_left (by decide)]
  · right
    rw [hurl.resolve_right (by decide)]

theorem exists_pair_of_map_fst {members : List (String × (Document → Document))} {a b : String}
    (h : members.map Prod.fst = [a, b]) : ∃ f g, members = [(a, f), (b, g)] := by
  obtain ⟨⟨_, f⟩, rest, rfl, rfl, hrest⟩ := List.map_eq_cons_iff.mp h
  obtain ⟨⟨_, g⟩, last, rfl, rfl, hlast⟩ := List.map_eq_cons_iff.mp hrest
  exact ⟨f, g, by rw [List.map_eq_nil_iff.mp hlast]⟩

/-- The tokens of two members with the separator between them. -/
theorem spells_pair {a b : String} {f g : Document → Document} {inner : List (List Char)}
    (h : Separated (SpellsMember Document.shape SpellsValue) true [(a, f), (b, g)] inner) :
    ∃ aKey aToken bKey bToken aContent bContent, IsQuoted aKey a ∧ IsQuoted aToken aContent ∧
      IsQuoted bKey b ∧ IsQuoted bToken bContent ∧ f = set a aContent ∧ g = set b bContent ∧
      inner = [aKey, [':'], aToken, [','], bKey, [':'], bToken] := by
  cases h with
  | cons hfirst hrest =>
    cases hrest with
    | cons hsecond hnil =>
      cases hnil
      cases hfirst with
      | intro _ haKey ha =>
        cases hsecond with
        | intro _ hbKey hb =>
          obtain ⟨aToken, aContent, haToken, rfl, rfl⟩ := ha
          obtain ⟨bToken, bContent, hbToken, rfl, rfl⟩ := hb
          exact ⟨_, aToken, _, bToken, aContent, bContent, haKey, haToken, hbKey, hbToken, rfl,
            rfl, rfl⟩

/-- Members that complete a document are its name and its url, in either order. -/
theorem spells_of_completes {document : Document} {members : List (String × (Document → Document))}
    (hcompletes : Completes Document.shape members document) {inner : List (List Char)}
    (hmembers : Separated (SpellsMember Document.shape SpellsValue) true members inner) :
    document.Spells (['\x7b'] :: (inner ++ [['\x7d']])) := by
  have hknown : ∀ key ∈ members.map Prod.fst, key ∈ ["name", "url"] := by
    intro key hkey
    obtain ⟨member, hmember, rfl⟩ := List.mem_map.mp hkey
    obtain ⟨_, hknown, -, -⟩ := hmembers.exists_tokens hmember
    exact hknown
  have hrequired := hasRequired_shape_iff.mp hcompletes.required
  rw [← hcompletes.result]
  rcases keys_cases hcompletes.distinct hknown hrequired with hkeys | hkeys
  · obtain ⟨f, g, rfl⟩ := exists_pair_of_map_fst hkeys
    obtain ⟨nameKey, nameToken, urlKey, urlToken, name, url, hnameKey, hname, hurlKey, hurl, rfl,
      rfl, rfl⟩ := spells_pair hmembers
    exact .object hnameKey hname hurlKey hurl
  · obtain ⟨f, g, rfl⟩ := exists_pair_of_map_fst hkeys
    obtain ⟨urlKey, urlToken, nameKey, nameToken, url, name, hurlKey, hurl, hnameKey, hname, rfl,
      rfl, rfl⟩ := spells_pair hmembers
    exact .reversed hnameKey hname hurlKey hurl

/-- The two ways to spell a document are those to spell a record of its shape. -/
theorem spells_iff {document : Document} {tokens : List (List Char)} :
    document.Spells tokens ↔ SpellsRecord Document.shape SpellsValue document tokens := by
  constructor
  · intro h
    cases h with
    | object hnameKey hname hurlKey hurl =>
      refine .inl ⟨[("name", set "name" document.name), ("url", set "url" document.url)], _, ?_,
        .cons (.intro (by decide) hnameKey ⟨_, _, hname, rfl, rfl⟩)
          (.cons (.intro (by decide) hurlKey ⟨_, _, hurl, rfl, rfl⟩) (.nil false)), rfl⟩
      exact ⟨by simp, hasRequired_shape_iff.mpr (by simp), rfl⟩
    | reversed hnameKey hname hurlKey hurl =>
      refine .inl ⟨[("url", set "url" document.url), ("name", set "name" document.name)], _, ?_,
        .cons (.intro (by decide) hurlKey ⟨_, _, hurl, rfl, rfl⟩)
          (.cons (.intro (by decide) hnameKey ⟨_, _, hname, rfl, rfl⟩) (.nil false)), rfl⟩
      exact ⟨by simp, hasRequired_shape_iff.mpr (by simp), rfl⟩
    | listed hname hurl =>
      exact .inr ⟨[set "name" document.name, set "url" document.url], _,
        .cons ⟨_, _, hname, rfl, rfl⟩ (.cons ⟨_, _, hurl, rfl, rfl⟩ (.done false (by simp))),
        rfl, rfl⟩
  · rintro (⟨members, inner, hcompletes, hmembers, rfl⟩ | ⟨updates, inner, hvalues, rfl, rfl⟩)
    · exact spells_of_completes hcompletes hmembers
    · cases hvalues with
      | done _ hleft => exact absurd (hleft _ List.mem_cons_self) (by decide)
      | cons hname hvalues =>
        cases hvalues with
        | done _ hleft => exact absurd (hleft _ List.mem_cons_self) (by decide)
        | cons hurl hvalues =>
          cases hvalues
          obtain ⟨name, nameContent, hname, rfl, rfl⟩ := hname
          obtain ⟨url, urlContent, hurl, rfl, rfl⟩ := hurl
          exact .listed hname hurl

/-- Lists of documents are accepted just where they are spelled. -/
theorem accepts_list_record :
    Accepts (Reader.list (Reader.record Document.shape)) (SpellsList Document.Spells) := by
  have hspells : Document.Spells = SpellsRecord Document.shape SpellsValue :=
    funext fun _ ↦ funext fun _ ↦ propext spells_iff
  rw [hspells]
  exact accepts_list (accepts_record rfl readsMembers_shape)

/-- A list of documents is read just from the texts that spell it. -/
theorem readList_eq_ok_iff {text : String} {documents : List Document} :
    Document.readList text = .ok documents ↔ Document.SpellsAll text documents := by
  rw [Document.readList, readAll_eq_ok_iff]
  constructor
  · rintro ⟨rest, hread, hblanks⟩
    obtain ⟨tokens, hlist, hspaced⟩ := (accepts_list_record.on_iff _ _ _).mp hread
    exact ⟨tokens, rest, hlist, hspaced, hblanks⟩
  · rintro ⟨tokens, rest, hlist, hspaced, hblanks⟩
    exact ⟨rest, (accepts_list_record.on_iff _ _ _).mpr ⟨tokens, hlist, hspaced⟩, hblanks⟩

/-- A printed document is spelled without blanks. -/
theorem exists_spells_print (document : Document) :
    ∃ tokens, document.Spells tokens ∧ tokens.flatten = document.toJson.print := by
  refine ⟨_, .object (isQuoted_stringText "name") (isQuoted_stringText document.name)
    (isQuoted_stringText "url") (isQuoted_stringText document.url), ?_⟩
  simp [toJson, Value.print, printMembers]

/-- A printed list of documents spells them. -/
theorem spellsAll_print (documents : List Document) :
    SpellsAll (Value.array (documents.map toJson)).toText documents := by
  obtain ⟨⟨inner, hinner, hflatten⟩, -⟩ :=
    exists_separated (fun document ↦ document.toJson.print) exists_spells_print documents
  refine ⟨_, [], ⟨inner, hinner, rfl⟩, ?_, by simp [Blanks]⟩
  have hprint : (['['] :: (inner ++ [[']']])).flatten =
      (Value.array (documents.map toJson)).toText.toList := by
    rw [Value.toText, String.toList_ofList, Value.print, printItems_eq_separated, List.map_map]
    simp [hflatten, Function.comp_def]
  rw [← hprint, ← List.append_nil (List.flatten _)]
  exact Spaced.flatten _ []

end Document

/-! ## Catalogs -/

namespace Catalog

variable {text : String} {catalog : Catalog} {documents : List Document}

theorem exists_stops_refuse {α : Type} (message : String) (text : List Char) :
    ∃ what, Stops (refuse message : Reader α) text what := by
  unfold refuse
  cases Json.statedPlace? message.toList with
  | none => exact ⟨_, _, _, rfl⟩
  | some stated => exact ⟨_, _, _, rfl⟩

/-- A catalog is read where a list of documents is read that makes a catalog. -/
theorem on_reader_eq_ok_iff {text rest : List Char} :
    reader.on text = (.ok catalog, rest) ↔ ∃ documents,
      (Reader.list (Reader.record Document.shape)).on text = (.ok documents, rest) ∧
        ofDocuments documents = .ok catalog := by
  rw [reader, on_bind_eq_ok_iff]
  constructor
  · rintro ⟨documents, mid, hlist, hread⟩
    cases hof : ofDocuments documents with
    | error error =>
      rw [hof] at hread
      obtain ⟨what, mark, last, hstop⟩ := exists_stops_refuse (α := Catalog) error.message mid
      dsimp only at hread
      rw [hstop] at hread
      cases hread
    | ok made =>
      rw [hof] at hread
      cases hread
      exact ⟨documents, hlist, hof⟩
  · rintro ⟨documents, hlist, hof⟩
    refine ⟨documents, rest, hlist, ?_⟩
    rw [hof]
    rfl

/-- A text is read as a catalog just when it is read as a list of documents that form the
catalog. -/
theorem read_eq_ok_iff : Catalog.read text = .ok catalog ↔
    ∃ documents, Document.readList text = .ok documents ∧ ofDocuments documents = .ok catalog := by
  rw [Catalog.read, readAll_eq_ok_iff]
  constructor
  · rintro ⟨rest, hread, hblanks⟩
    obtain ⟨documents, hlist, hof⟩ := on_reader_eq_ok_iff.mp hread
    exact ⟨documents, readAll_eq_ok_iff.mpr ⟨rest, hlist, hblanks⟩, hof⟩
  · rintro ⟨documents, hread, hof⟩
    obtain ⟨rest, hlist, hblanks⟩ := readAll_eq_ok_iff.mp hread
    exact ⟨rest, on_reader_eq_ok_iff.mpr ⟨documents, hlist, hof⟩, hblanks⟩

/-- Documents that form no catalog are refused as data, with the message of the first offence. -/
theorem read_of_offence {error : DocumentError} (hread : Document.readList text = .ok documents)
    (hoffence : FirstOffence documents error) :
    ∃ fault, Catalog.read text = .error fault ∧ fault.sort = .data ∧
      (Json.statedPlace? error.message.toList = none →
        fault = ⟨.mismatch (.other error.message), none⟩) := by
  obtain ⟨rest, hlist, -⟩ := readAll_eq_ok_iff.mp hread
  have hreader : reader.on text.toList = (refuse error.message : Reader Catalog).on rest := by
    rw [reader, Reader.on_bind_of_ok hlist, ofDocuments_of_offence hoffence]
  obtain ⟨what, mark, last, hstop⟩ := exists_stops_refuse (α := Catalog) error.message rest
  refine ⟨_, readAll_of_error (hreader.trans hstop), rfl, ?_⟩
  intro hstated
  have hplain : (refuse error.message : Reader Catalog) = mismatch (.other error.message) := by
    rw [refuse, hstated]
  rw [hplain] at hstop
  cases hstop
  rfl

/-- What was made of a catalog that was read: its documents were pushed into an index in order. -/
theorem on_forM_push_of_read (h : Catalog.read text = .ok catalog) :
    Document.readList text = .ok catalog.documents ∧
      Action.on (catalog.documents.forM Index.push) ⟨[]⟩ = (.ok (), catalog.index) := by
  obtain ⟨documents, hlist, hof⟩ := read_eq_ok_iff.mp h
  obtain ⟨-, rfl⟩ := ofDocuments_eq_ok_iff.mp hof
  have hpushed : documents.foldlM push empty = .ok ⟨documents⟩ := hof
  exact ⟨hlist, on_forM_push hpushed⟩

/-- A sound catalog is read back from its text. -/
theorem read_toText_of_sound (h : Sound catalog.documents) :
    Catalog.read catalog.toJson.toText = .ok catalog :=
  read_eq_ok_iff.mpr ⟨catalog.documents,
    Document.readList_eq_ok_iff.mpr (Document.spellsAll_print catalog.documents),
    ofDocuments_of_sound h⟩

/-- A catalog that public operations lead to: one of the beginnings, what offering a document
leaves, and what a text is read as. -/
inductive Reachable : Catalog → Prop
  | begun {beginning : Beginning} {start : Catalog} (h : beginning.catalog = .ok start) :
    Reachable start
  | offered {catalog : Catalog} (h : Reachable catalog) (document : Document) :
    Reachable (catalog.offer document).2
  | read {text : String} {catalog : Catalog} (h : Catalog.read text = .ok catalog) :
    Reachable catalog

/-- Public operations lead to sound catalogs only. -/
theorem Reachable.sound {catalog : Catalog} (h : Reachable catalog) : Sound catalog.documents := by
  induction h with
  | begun h =>
    obtain ⟨hsound, hdocuments⟩ := Beginning.sound_inserted h
    rw [hdocuments]
    exact hsound
  | offered _ document ih => exact (offer_keeps ih document).1
  | read h =>
    obtain ⟨documents, -, hof⟩ := read_eq_ok_iff.mp h
    obtain ⟨hsound, rfl⟩ := ofDocuments_eq_ok_iff.mp hof
    exact hsound

/-- How a text is read as a catalog. -/
structure Decodes (text : String) : Prop where
  /-- A text is read as a list of documents just when it spells them. -/
  list : ∀ documents, Document.readList text = .ok documents ↔ Document.SpellsAll text documents
  /-- It is read as a catalog just when these form one. -/
  catalog : ∀ catalog, Catalog.read text = .ok catalog ↔
    ∃ documents, Document.readList text = .ok documents ∧ ofDocuments documents = .ok catalog
  /-- The catalog has the documents of the list in their order, each stored under its name. -/
  order : ∀ catalog, Catalog.read text = .ok catalog →
    Document.readList text = .ok catalog.documents ∧
      Action.on (catalog.documents.forM Index.push) ⟨[]⟩ = (.ok (), catalog.index)
  /-- There is a fault just when the text spells no list or one with an offence. -/
  fault : (∃ fault, Catalog.read text = .error fault) ↔
    ∀ documents, Document.SpellsAll text documents → ∃ error, FirstOffence documents error
  /-- An offence is reported as one. -/
  offence : ∀ documents error, Document.readList text = .ok documents →
    FirstOffence documents error → ∃ fault, Catalog.read text = .error fault ∧ fault.sort = .data ∧
      (Json.statedPlace? error.message.toList = none →
        fault = ⟨.mismatch (.other error.message), none⟩)

/-- A text is refused just when no documents that it spells form a catalog. -/
theorem exists_fault_iff : (∃ fault, Catalog.read text = .error fault) ↔
    ∀ documents, Document.SpellsAll text documents → ∃ error, FirstOffence documents error := by
  constructor
  · rintro ⟨fault, hfault⟩ documents hspells
    rcases sound_or_offence documents with hsound | hoffence
    · have hread : Catalog.read text = .ok ⟨documents⟩ := read_eq_ok_iff.mpr
        ⟨documents, Document.readList_eq_ok_iff.mpr hspells, ofDocuments_of_sound hsound⟩
      rw [hread] at hfault
      cases hfault
    · exact hoffence
  · intro hoffends
    cases hread : Catalog.read text with
    | error fault => exact ⟨fault, rfl⟩
    | ok catalog =>
      obtain ⟨documents, hlist, hof⟩ := read_eq_ok_iff.mp hread
      obtain ⟨error, hoffence⟩ := hoffends documents (Document.readList_eq_ok_iff.mp hlist)
      rw [ofDocuments_of_offence hoffence] at hof
      cases hof

theorem decodes (text : String) : Decodes text where
  list _ := Document.readList_eq_ok_iff
  catalog _ := read_eq_ok_iff
  order _ := on_forM_push_of_read
  fault := exists_fault_iff
  offence _ _ := read_of_offence

/-- Every text is read as the catalog of the documents that it spells, if they form one.  Every
catalog that operations lead to is printed as the list of the documents that its index stores, and
is read back from what it is printed as. -/
theorem decodes_and_read_toText : (∀ text, Decodes text) ∧
    ∀ catalog, Reachable catalog →
      catalog.toJson = .array (catalog.index.entries.map fun entry ↦ entry.2.toJson) ∧
        Catalog.read catalog.toJson.toText = .ok catalog := by
  refine ⟨decodes, fun catalog hreachable ↦ ⟨?_, read_toText_of_sound hreachable.sound⟩⟩
  rw [index, List.map_map]
  rfl

/-- Quotes, control characters and characters of every length in the names of documents. -/
theorem read_toText_strange :
    let begun : Catalog := ⟨[⟨"\"\\\n\u0001", "/é"⟩]⟩
    Beginning.catalog (.listed begun.documents) = .ok begun ∧
      (begun.offer ⟨"😀\u2028", "/\t"⟩).2 =
        ⟨[⟨"\"\\\n\u0001", "/é"⟩, ⟨"😀\u2028", "/\t"⟩]⟩ ∧
      Catalog.read (begun.offer ⟨"😀\u2028", "/\t"⟩).2.toJson.toText =
        .ok ⟨[⟨"\"\\\n\u0001", "/é"⟩, ⟨"😀\u2028", "/\t"⟩]⟩ := by
  intro begun
  have hbegun : Beginning.catalog (.listed begun.documents) = .ok begun := by
    decide
  have hoffered : (begun.offer ⟨"😀\u2028", "/\t"⟩).2 =
      ⟨[⟨"\"\\\n\u0001", "/é"⟩, ⟨"😀\u2028", "/\t"⟩]⟩ := by
    decide
  have hread := (decodes_and_read_toText.2 _
    (.offered (.begun hbegun) ⟨"😀\u2028", "/\t"⟩)).2
  refine ⟨hbegun, hoffered, hread.trans ?_⟩
  rw [hoffered]

end Catalog

end ApiReference
