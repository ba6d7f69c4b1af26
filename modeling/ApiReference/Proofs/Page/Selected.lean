import ApiReference.Proofs.Catalog.Runs
import ApiReference.Proofs.Page.Options
import ApiReference.Selector

/-!
# What a Page Load Tells the Viewer

The options of a page load are an object with the address that is asked for, the documents of the
catalog in their order, and what the selector says of the viewer.  Only the address following the
operation and the standalone layout are not up to the selector.  The name of a document is among the
options exactly if its address is the one that is asked for, and then it is the name of the first
such document.
-/

namespace ApiReference

open Json

/-! ## Catalogs -/

namespace Catalog

/-- A catalog comes about from one of its beginnings and the documents that are offered to it. -/
def Built (catalog : Catalog) : Prop :=
  ∃ beginning : Beginning, ∃ start offered, beginning.catalog = .ok start ∧
    (offerAll offer start offered).2 = catalog

/-- A catalog that was built is sound. -/
theorem Built.sound {catalog : Catalog} (h : catalog.Built) : Sound catalog.documents := by
  obtain ⟨beginning, start, offered, hstart, rfl⟩ := h
  obtain ⟨hbegun, hdocuments⟩ := Beginning.sound_inserted hstart
  rw [← hdocuments] at hbegun
  exact (offerAll_keeps hbegun offered).1

end Catalog

/-! ## The name of the selected document -/

/-- The member of the options that names the document with an address: there is none if no document
has the address, and else it names the first that has it. -/
inductive NamesFirst (documents : List Document) (url : String) : List (String × Value) → Prop
  | absent (hurl : ∀ document ∈ documents, document.url ≠ url) : NamesFirst documents url []
  | present {before after : List Document} {document : Document}
    (hdocuments : documents = before ++ document :: after) (hurl : document.url = url)
    (hfirst : ∀ earlier ∈ before, earlier.url ≠ url) :
    NamesFirst documents url [("urls.primaryName", .text document.name)]

theorem namesFirst_findUrl? (catalog : Catalog) (url : String) :
    NamesFirst catalog.documents url (((catalog.findUrl? url).map Document.name).toList.map
      fun name ↦ ("urls.primaryName", .text name)) := by
  cases hfound : catalog.findUrl? url with
  | none =>
    refine .absent fun document hdocument ↦ ?_
    simpa using List.find?_eq_none.mp hfound document hdocument
  | some document =>
    obtain ⟨before, after, hdocuments, hurl, hfirst⟩ := Catalog.findUrl?_eq_some_iff.mp hfound
    exact .present hdocuments hurl hfirst

namespace Selector

/-- What the viewer is told on any page load with an address, apart from the name of the document
that has it. -/
def members (selector : Selector) (url : String) : List (String × Value) :=
  [("url", .text url),
    ("urls", .array (selector.catalog.documents.map fun document ↦
      .object [("name", .text document.name), ("url", .text document.url)])),
    ("dom_id", .text ("#" ++ selector.target)), ("deepLinking", .flag true),
    ("layout", .text "StandaloneLayout"), ("docExpansion", .text selector.behavior.expansion.name),
    ("displayRequestDuration", .flag selector.behavior.showDuration)]

/-- The options of a page load are JSON text for an object with exactly these members, whatever
texts are in them.  The document that they name is the one that the catalog has under that name. -/
theorem options_described {selector : Selector} (hcatalog : selector.catalog.Built)
    (query : Query) :
    ∃ primary, NamesFirst selector.catalog.documents (selectUrl query selector.defaultUrl) primary ∧
      Value.read (selector.options query).toJson.toText =
        .ok (.object (selector.members (selectUrl query selector.defaultUrl) ++ primary)) ∧
      (selector.options query).domSelector = "#" ++ selector.target ∧
      ∀ name, primary = [("urls.primaryName", .text name)] → ∃ document,
        selector.catalog.get? name = some document ∧
          document.url = selectUrl query selector.defaultUrl := by
  have hnames := namesFirst_findUrl? selector.catalog (selectUrl query selector.defaultUrl)
  refine ⟨_, hnames, (selector.options query).read_toText, rfl, fun name hname ↦ ?_⟩
  rw [hname] at hnames
  cases hnames with
  | @present before after document hdocuments hurl hfirst =>
    have hmem : document ∈ selector.catalog.documents := by
      rw [hdocuments]
      exact List.mem_append_right before List.mem_cons_self
    exact ⟨document, (Catalog.get?_eq_some_iff hcatalog.sound).mpr ⟨hmem, rfl⟩, hurl⟩

/-- A selector with two documents of one address, which asks for the other layout and for no address
following the operation. -/
def repeating : Selector where
  defaultUrl := "/b"
  catalog := ⟨[⟨"A\"", "/a"⟩, ⟨"Ä", "/a"⟩]⟩
  target := "\u2028"
  behavior := { deepLinking := false, layout := .base, expansion := .full }

/-- Of two documents with one address the first is named. -/
theorem options_described_repeating : repeating.catalog.Built ∧
    Value.read (repeating.options ⟨[("x", ""), ("url", "/a")]⟩).toJson.toText =
      .ok (.object (repeating.members "/a" ++ [("urls.primaryName", .text "A\"")])) := by
  have hcatalog : repeating.catalog.Built :=
    ⟨.listed [⟨"A\"", "/a"⟩], ⟨[⟨"A\"", "/a"⟩]⟩, [⟨"Ä", "/a"⟩], by decide +kernel,
      by decide +kernel⟩
  have hurl : selectUrl ⟨[("x", ""), ("url", "/a")]⟩ repeating.defaultUrl = "/a" := by
    decide
  obtain ⟨primary, hnames, hread, -, -⟩ :=
    options_described hcatalog ⟨[("x", ""), ("url", "/a")]⟩
  rw [hurl] at hnames hread
  refine ⟨hcatalog, hread.trans ?_⟩
  cases hnames with
  | absent habsent => exact absurd rfl (habsent _ List.mem_cons_self)
  | @present before after document hdocuments _ hfirst =>
    -- the first document has the address, so that none stands before it
    cases before with
    | nil =>
      cases hdocuments
      rfl
    | cons earlier before =>
      have hearlier := (List.cons.inj hdocuments).1
      exact absurd (congrArg Document.url hearlier).symm (hfirst earlier List.mem_cons_self)

end Selector

end ApiReference
