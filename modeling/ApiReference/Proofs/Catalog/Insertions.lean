import ApiReference.Catalog
import Mathlib

/-!
# Insertions into Catalogs

A catalog takes a document or says why not.  Documents form a catalog just when nothing about them
is blank and no name stands for two of them, and otherwise the first of them that breaks this is the
one that is reported.
-/

namespace ApiReference

namespace Text

theorem trim_eq_nil_iff (cs : List Char) : trim cs = [] ↔ ∀ c ∈ cs, isBlankChar c = true := by
  unfold trim trimEnd trimStart
  rw [List.reverse_eq_nil_iff, List.dropWhile_eq_nil_iff]
  simp only [List.mem_reverse]
  constructor
  · intro h c hc
    rw [← List.takeWhile_append_dropWhile (p := isBlankChar) (l := cs), List.mem_append] at hc
    rcases hc with hc | hc
    · exact List.mem_takeWhile_imp hc
    · exact h c hc
  · intro h c hc
    exact h c ((List.dropWhile_sublist isBlankChar).mem hc)

/-- A text is blank when trimming leaves nothing of it. -/
theorem isBlank_iff (text : String) : isBlank text = true ↔ trim text.toList = [] := by
  rw [isBlank, List.all_eq_true, trim_eq_nil_iff]

end Text

namespace Catalog

open Text

def namesOf (documents : List Document) : List String :=
  documents.map Document.name

/-! ## What a catalog takes -/

/-- A document may follow documents with some names. -/
structure Fits (names : List String) (document : Document) : Prop where
  named : trim document.name.toList ≠ []
  addressed : trim document.url.toList ≠ []
  fresh : document.name ∉ names

/-- Why a document may not follow documents with some names.  A blank name is reported before a
blank address, and both are reported before a name that is taken. -/
inductive Refused (names : List String) (document : Document) : DocumentError → Prop where
  | blankName (hname : trim document.name.toList = []) :
    Refused names document (.blankName document.name)
  | blankUrl (hname : trim document.name.toList ≠ []) (hurl : trim document.url.toList = []) :
    Refused names document (.blankUrl document.name)
  | duplicateName (hname : trim document.name.toList ≠ []) (hurl : trim document.url.toList ≠ [])
    (htaken : document.name ∈ names) : Refused names document (.duplicateName document.name)

/-- Every document either fits or is refused for a reason. -/
theorem fits_or_refused (names : List String) (document : Document) :
    Fits names document ∨ ∃ error, Refused names document error := by
  by_cases hname : trim document.name.toList = []
  · exact .inr ⟨_, .blankName hname⟩
  by_cases hurl : trim document.url.toList = []
  · exact .inr ⟨_, .blankUrl hname hurl⟩
  by_cases htaken : document.name ∈ names
  · exact .inr ⟨_, .duplicateName hname hurl htaken⟩
  · exact .inl ⟨hname, hurl, htaken⟩

/-- A document is found by a name just if the name is listed. -/
theorem get?_isSome_iff (catalog : Catalog) (name : String) :
    (catalog.get? name).isSome = true ↔ name ∈ namesOf catalog.documents := by
  simp [get?, namesOf]

/-- What fits is put at the end. -/
theorem push_of_fits {catalog : Catalog} {document : Document}
    (h : Fits (namesOf catalog.documents) document) :
    catalog.push document = .ok ⟨catalog.documents ++ [document]⟩ := by
  have hname : ¬isBlank document.name = true := mt (isBlank_iff _).mp h.named
  have hurl : ¬isBlank document.url = true := mt (isBlank_iff _).mp h.addressed
  have hfresh : ¬(catalog.get? document.name).isSome = true := mt (get?_isSome_iff _ _).mp h.fresh
  rw [push, if_neg hname, if_neg hurl, if_neg hfresh]

/-- What is refused is reported with the reason that comes first. -/
theorem push_of_refused {catalog : Catalog} {document : Document} {error : DocumentError}
    (h : Refused (namesOf catalog.documents) document error) :
    catalog.push document = .error error := by
  rw [push]
  cases h with
  | blankName hname => rw [if_pos ((isBlank_iff _).mpr hname)]
  | blankUrl hname hurl =>
    rw [if_neg (mt (isBlank_iff _).mp hname), if_pos ((isBlank_iff _).mpr hurl)]
  | duplicateName hname hurl htaken =>
    rw [if_neg (mt (isBlank_iff _).mp hname), if_neg (mt (isBlank_iff _).mp hurl),
      if_pos ((get?_isSome_iff _ _).mpr htaken)]

/-! ## Sound documents -/

/-- Nothing about any document is blank, and the documents have different names. -/
structure Sound (documents : List Document) : Prop where
  named : ∀ document ∈ documents, trim document.name.toList ≠ []
  addressed : ∀ document ∈ documents, trim document.url.toList ≠ []
  distinct : (namesOf documents).Nodup

theorem sound_nil : Sound [] :=
  ⟨by simp, by simp, List.nodup_nil⟩

/-- Documents are sound one after another, each with regard to the names before it. -/
theorem sound_append_singleton {documents : List Document} {document : Document} :
    Sound (documents ++ [document]) ↔ Sound documents ∧ Fits (namesOf documents) document := by
  have hnames : (namesOf (documents ++ [document])).Nodup ↔
      document.name ∉ namesOf documents ∧ (namesOf documents).Nodup := by
    rw [namesOf, List.map_append, List.map_singleton, ← List.concat_eq_append, List.nodup_concat]
    rfl
  constructor
  · rintro ⟨hnamed, haddressed, hdistinct⟩
    rw [List.forall_mem_append, List.forall_mem_singleton] at hnamed haddressed
    obtain ⟨hfresh, hdistinct⟩ := hnames.mp hdistinct
    exact ⟨⟨hnamed.1, haddressed.1, hdistinct⟩, hnamed.2, haddressed.2, hfresh⟩
  · rintro ⟨⟨hnamed, haddressed, hdistinct⟩, hname, hurl, hfresh⟩
    refine ⟨?_, ?_, hnames.mpr ⟨hfresh, hdistinct⟩⟩
    · rw [List.forall_mem_append, List.forall_mem_singleton]
      exact ⟨hnamed, hname⟩
    · rw [List.forall_mem_append, List.forall_mem_singleton]
      exact ⟨haddressed, hurl⟩

/-- The first of some documents that may not follow those before it, and why. -/
def FirstOffence (documents : List Document) (error : DocumentError) : Prop :=
  ∃ before document after, documents = before ++ document :: after ∧ Sound before ∧
    Refused (namesOf before) document error

/-- Documents that are not sound have a first offence. -/
theorem sound_or_offence (documents : List Document) :
    Sound documents ∨ ∃ error, FirstOffence documents error := by
  induction documents using List.reverseRecOn with
  | nil => exact .inl sound_nil
  | append_singleton documents document ih =>
    -- An offence among the first documents stays the first one, whatever follows.
    rcases ih with hsound | ⟨error, before, offender, after, rfl, hbefore, hrefused⟩
    · rcases fits_or_refused (namesOf documents) document with hfits | ⟨error, hrefused⟩
      · exact .inl (sound_append_singleton.mpr ⟨hsound, hfits⟩)
      · exact .inr ⟨error, documents, document, [], rfl, hsound, hrefused⟩
    · exact .inr ⟨error, before, offender, after ++ [document], by simp, hbefore, hrefused⟩

/-! ## Many documents at once -/

theorem ofDocuments_append (documents rest : List Document) :
    ofDocuments (documents ++ rest) =
      ofDocuments documents >>= fun catalog ↦ rest.foldlM push catalog :=
  List.foldlM_append

/-- Sound documents are all taken, in their order. -/
theorem ofDocuments_of_sound {documents : List Document} (h : Sound documents) :
    ofDocuments documents = .ok ⟨documents⟩ := by
  induction documents using List.reverseRecOn with
  | nil => rfl
  | append_singleton documents document ih =>
    obtain ⟨hsound, hfits⟩ := sound_append_singleton.mp h
    have hpush : push ⟨documents⟩ document = .ok ⟨documents ++ [document]⟩ := push_of_fits hfits
    rw [ofDocuments_append, ih hsound]
    exact congrArg (· >>= pure) hpush

/-- The catalog is refused for the first offence, whatever follows it. -/
theorem ofDocuments_of_offence {documents : List Document} {error : DocumentError}
    (h : FirstOffence documents error) : ofDocuments documents = .error error := by
  obtain ⟨before, document, after, rfl, hsound, hrefused⟩ := h
  have hpush : push ⟨before⟩ document = .error error := push_of_refused hrefused
  rw [ofDocuments_append, ofDocuments_of_sound hsound]
  exact congrArg (· >>= fun next ↦ after.foldlM push next) hpush

/-- Documents form a catalog just when they are sound. -/
theorem ofDocuments_eq_ok_iff {documents : List Document} {catalog : Catalog} :
    ofDocuments documents = .ok catalog ↔ Sound documents ∧ catalog = ⟨documents⟩ := by
  constructor
  · intro hok
    rcases sound_or_offence documents with hsound | ⟨error, hoffence⟩
    · rw [ofDocuments_of_sound hsound] at hok
      exact ⟨hsound, (Except.ok.inj hok).symm⟩
    · rw [ofDocuments_of_offence hoffence] at hok
      cases hok
  · rintro ⟨hsound, rfl⟩
    exact ofDocuments_of_sound hsound

/-- Documents form no catalog because of the first of them that may not follow those before it. -/
theorem ofDocuments_eq_error_iff {documents : List Document} {error : DocumentError} :
    ofDocuments documents = .error error ↔ FirstOffence documents error := by
  refine ⟨fun herror ↦ ?_, ofDocuments_of_offence⟩
  rcases sound_or_offence documents with hsound | ⟨cause, hoffence⟩
  · rw [ofDocuments_of_sound hsound] at herror
    cases herror
  · rw [ofDocuments_of_offence hoffence] at herror
    exact Except.error.inj herror ▸ hoffence

/-! ## Finding documents -/

/-- By a name the one document of that name is found. -/
theorem get?_eq_some_iff {catalog : Catalog} (h : Sound catalog.documents) {name : String}
    {document : Document} :
    catalog.get? name = some document ↔ document ∈ catalog.documents ∧ document.name = name := by
  constructor
  · intro hget
    exact ⟨List.mem_of_find?_eq_some hget, by simpa using List.find?_some hget⟩
  · rintro ⟨hdocument, rfl⟩
    have hsome : (catalog.get? document.name).isSome = true :=
      (get?_isSome_iff _ _).mpr (List.mem_map_of_mem hdocument)
    obtain ⟨found, hfound⟩ := Option.isSome_iff_exists.mp hsome
    have hname : found.name = document.name := by simpa using List.find?_some hfound
    rw [hfound, List.inj_on_of_nodup_map h.distinct (List.mem_of_find?_eq_some hfound) hdocument
      hname]

/-- By an address the first document with that address is found. -/
theorem findUrl?_eq_some_iff {catalog : Catalog} {url : String} {document : Document} :
    catalog.findUrl? url = some document ↔ ∃ before after,
      catalog.documents = before ++ document :: after ∧ document.url = url ∧
        ∀ earlier ∈ before, earlier.url ≠ url := by
  rw [findUrl?, List.find?_eq_some_iff_append]
  simp only [beq_iff_eq, Bool.not_eq_true', beq_eq_false_iff_ne]
  tauto

end Catalog

end ApiReference
