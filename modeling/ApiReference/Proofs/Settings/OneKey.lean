import ApiReference.Proofs.Settings.Loading
import ApiReference.Proofs.Settings.Overrides
import ApiReference.Proofs.Toml.Numbers

/-!
# Layers of One Key

A layer that names one scalar and a variable that overrides it are two ways to the same settings.
Whatever the layer may say, the variable may say as well, and then both set the same scalar and
nothing else.
-/

namespace ApiReference

open Decimal Decode Text Toml

/-! ## Texts of values -/

/-- The text that a value has in a variable.  What is made of other values has none, and neither
does a double, which no scalar holds. -/
def Toml.Value.spelling? : Value → Option String
  | .text value => some value
  | .integer value => some (toString value)
  | .flag value => some (toString value)
  | .datetime value => some value.text
  | .double _ | .array _ | .table _ => none

namespace Settings

/-! ## What variables make of the texts -/

section

variable {value : Value} {text : String}

theorem eq_of_text (htext : value.spelling? = some text) {content : String}
    (hread : FromTree.text value = .ok content) : text = content := by
  cases value with
  | text | datetime =>
    cases htext
    exact Except.ok.inj hread
  | _ => cases hread

theorem parseFlag_of_flag (htext : value.spelling? = some text) {content : Bool}
    (hread : FromTree.flag value = .ok content) : parseFlag text = .ok content := by
  cases value with
  | flag value =>
    cases htext
    cases hread
    cases content <;> decide +kernel
  | _ => cases hread

/-- A natural number that fits is read back from its digits. -/
theorem parseCount_toString {n : Nat} (h : n < Word.limit) :
    parseCount (toString n) = .ok n.toUInt64 := by
  rw [parseCount, Nat.toString_eq_repr, Nat.toList_repr, decimal?_toDigits]
  exact if_pos h

theorem parseCount_of_count (htext : value.spelling? = some text) {content : UInt64}
    (hread : FromTree.count value = .ok content) : parseCount text = .ok content := by
  cases value with
  | integer value =>
    cases htext
    unfold FromTree.count at hread
    simp only [DataTree.view, Value.view] at hread
    split at hread
    case isTrue hrange =>
      cases hread
      obtain ⟨n, rfl⟩ := Int.eq_ofNat_of_zero_le hrange.1
      exact parseCount_toString (Int.ofNat_lt.mp hrange.2)
    case isFalse => cases hread
  | _ => cases hread

theorem lookup_of_choice {α : Type} {options : List (String × α)}
    (htext : value.spelling? = some text) {content : α}
    (hread : Value.choice options value = .ok content) : options.lookup text = some content := by
  cases value with
  | text value =>
    cases htext
    have hchosen : choose options text = .ok content := eq_ok_of_mapError_eq_ok hread
    unfold choose at hchosen
    split at hchosen
    case h_1 found hfound =>
      cases hchosen
      exact hfound
    case h_2 => cases hchosen
  | table => cases htext
  | _ => cases hread

/-- A name that is in lower case is found where its lower case is looked for. -/
theorem lookup_lower {α : Type} {options : List (String × α)}
    (hlower : ∀ entry ∈ options, lower entry.1 = entry.1) {content : α}
    (h : options.lookup text = some content) : options.lookup (lower text) = some content := by
  rw [hlower _ (Table.mem_of_get? h)]
  exact h

theorem ofText_of_choice (htext : value.spelling? = some text) {content : Expansion}
    (hread : Value.choice Expansion.options value = .ok content) :
    Expansion.ofText text = .ok content := by
  have hlower : ∀ entry ∈ Expansion.options, lower entry.1 = entry.1 := by
    decide +kernel
  rw [Expansion.ofText, lookup_lower hlower (lookup_of_choice htext hread)]

theorem parseFormat_of_choice (htext : value.spelling? = some text) {content : LogFormat}
    (hread : Value.choice LogFormat.options value = .ok content) :
    parseFormat text = .ok content := by
  have hlower : ∀ entry ∈ LogFormat.options, lower entry.1 = entry.1 := by
    decide +kernel
  rw [parseFormat, lookup_lower hlower (lookup_of_choice htext hread)]

/-- A variable cannot give a base that is empty: its empty text stands for no base. -/
theorem parseBase_of_optional (htext : value.spelling? = some text) (hne : text ≠ "")
    {content : Option String} (hread : FromTree.optional FromTree.text value = .ok content) :
    parseBase text = content := by
  have hsome : FromTree.text value = .ok text ∧ content = some text := by
    cases value with
    | text | datetime =>
      cases htext
      cases hread
      exact ⟨rfl, rfl⟩
    | _ => cases hread
  rw [parseBase, if_neg (by simpa using hne), hsome.2]

end

/-- No text gives the empty base, which a layer may give. -/
theorem parseBase_ne_empty (text : String) : parseBase text ≠ some "" := by
  unfold parseBase
  split
  case isTrue => simp
  case isFalse hne => simpa using hne

/-- A scalar's variable gives what the scalar's field reads from a value, if the variable holds the
text of the value. -/
theorem parse_of_read : ∀ scalar ∈ scalars, ∀ {value : Value} {text : String},
    value.spelling? = some text → (scalar.field.key = "asset_base_url" → text ≠ "") →
    ∀ content, scalar.field.read value = .ok content → scalar.parse text = .ok content := by
  have htext {value : Value} {text content : String} (h : value.spelling? = some text)
      (hread : FromTree.text value = .ok content) :
      (pure text : Except String String) = .ok content :=
    congrArg Except.ok (eq_of_text h hread)
  simp only [scalars, List.forall_mem_cons]
  exact ⟨fun h _ _ ↦ htext h, fun h _ _ ↦ parseCount_of_count h, fun h _ _ ↦ parseCount_of_count h,
    fun h _ _ ↦ htext h, fun h _ _ ↦ htext h, fun h _ _ ↦ htext h, fun h _ _ ↦ ofText_of_choice h,
    fun h _ _ ↦ parseFlag_of_flag h, fun h _ _ ↦ htext h,
    fun h hne _ hread ↦ congrArg Except.ok (parseBase_of_optional h (hne trivial) hread),
    fun h _ _ ↦ parseFlag_of_flag h, fun h _ _ ↦ htext h, fun h _ _ ↦ parseFormat_of_choice h,
    fun h _ _ ↦ parseFlag_of_flag h, fun h _ _ ↦ parseFlag_of_flag h, by simp⟩

/-! ## Layers -/

/-- The layer that gives one value to one key of one section. -/
def oneKey (name key : String) (value : Value) : Table Value :=
  [(name, .table [(key, value)])]

section

variable {part : Part Value} (hpart : part ∈ parts) {field : Field Value part.Record}
  (hfield : field ∈ part.fields) {value : Value}

theorem sectioned_oneKey (name key : String) (value : Value) :
    Sectioned (oneKey name key value) := by
  intro part _ found hfound
  have hentry := Table.mem_of_get? hfound
  rw [oneKey, List.mem_singleton] at hentry
  cases hentry
  exact ⟨_, rfl⟩

theorem wellFormed_oneKey (name key : String) (hvalue : value.WellFormed) :
    (Value.table (oneKey name key value)).WellFormed := by
  refine .table (by simp [oneKey, Table.Ascending]) fun entry hentry ↦ ?_
  rw [oneKey, List.mem_singleton] at hentry
  rw [hentry]
  refine .table (by simp [Table.Ascending]) fun member hmember ↦ ?_
  rw [List.mem_singleton] at hmember
  rwa [hmember]

include hpart hfield

/-- A layer of one key fits if its value is one that the field reads. -/
theorem fits_oneKey_iff :
    Fits (oneKey part.name field.key value) ↔ ∃ content, field.read value = .ok content := by
  constructor
  · intro hfits
    obtain ⟨other, hother, hname, hmembers⟩ := hfits _ List.mem_cons_self
    obtain rfl : other = part := Part.eq_of_name_eq hother hpart hname
    obtain ⟨otherField, hotherField, hkey, hread⟩ := hmembers _ rfl _ List.mem_cons_self
    obtain rfl := (parts_consist _ hpart).eq_of_key_eq hotherField hfield hkey
    exact hread
  · intro hread entry hentry
    rw [oneKey, List.mem_singleton] at hentry
    cases hentry
    refine ⟨part, hpart, rfl, fun inner hinner member hmember ↦ ?_⟩
    cases hinner
    rw [List.mem_singleton] at hmember
    rw [hmember]
    exact ⟨field, hfield, rfl, hread⟩

/-- A layer of one key sets the field with that key. -/
theorem layered_oneKey {content : field.Kind} (hread : field.read value = .ok content)
    (settings : Settings) : Layered (oneKey part.name field.key value) settings
      (part.set (field.set content (part.get settings)) settings) := by
  intro other hother otherField hotherField
  by_cases hname : other.name = part.name
  · obtain rfl : other = part := Part.eq_of_name_eq hother hpart hname
    have hsection : sectionOf (oneKey other.name field.key value) other.name =
        [(field.key, value)] := by
      simp [sectionOf, oneKey, Table.get?]
    rw [Part.get_set hpart, hsection]
    by_cases hkey : otherField.key = field.key
    · obtain rfl := (parts_consist _ hpart).eq_of_key_eq hotherField hfield hkey
      have hget := (parts_consist _ hpart).get_set _ hfield content (other.get settings)
      simpa [Field.Follows, Table.get?, hget] using hread
    · rw [Table.get?_cons, if_neg hkey, Table.get?_nil]
      exact (parts_consist _ hpart).get_set_of_ne _ hotherField _ hfield hkey content _
  · have hsection : sectionOf (oneKey part.name field.key value) other.name = [] := by
      rw [sectionOf, oneKey, Table.get?_cons, if_neg hname, Table.get?_nil]
    rw [Part.get_set_of_ne hother hpart hname, hsection]
    exact rfl

/-- Every field is a scalar, but for the list of documents. -/
theorem exists_scalar (hkey : field.key ≠ "documents") :
    ∃ name parse option, Scalar.mk part field name parse option ∈ scalars := by
  obtain ⟨scalar, hscalar, hname, hkey⟩ := mem_scalars part hpart field hfield hkey
  obtain ⟨hscalarPart, hscalarField⟩ := scalars_mem_parts scalar hscalar
  obtain ⟨other, otherField, name, parse, option⟩ := scalar
  obtain rfl : other = part := Part.eq_of_name_eq hscalarPart hpart hname
  obtain rfl : otherField = field :=
    (parts_consist _ hpart).eq_of_key_eq hscalarField hfield hkey
  exact ⟨name, parse, option, hscalar⟩

end

/-! ## Values of scalars -/

/-- What the values of a scalar are. -/
inductive ScalarKind where
  | text
  | count
  | flag
  | expansion
  | format

namespace ScalarKind

def ofKey (key : String) : ScalarKind :=
  if key ∈ ["shutdown_timeout_secs", "request_timeout_ms"] then .count
  else if key ∈ ["display_request_duration", "enabled", "ansi_enabled", "include_location"] then
    .flag
  else if key = "doc_expansion" then .expansion
  else if key = "format" then .format
  else .text

/-- The values of a kind that have a text. -/
inductive Admits : ScalarKind → Value → Prop where
  | text (value : String) : Admits .text (.text value)
  | datetime (value : Datetime) : Admits .text (.datetime value)
  | count {value : Nat} (h : value < Word.signedLimit) : Admits .count (.integer value)
  | flag (value : Bool) : Admits .flag (.flag value)
  | expansion (value : Expansion) : Admits .expansion (.text value.name)
  | format (value : LogFormat) : Admits .format (.text value.name)

section

variable {value : Value}

theorem admits_text_iff :
    (∃ content, FromTree.text value = .ok content) ↔ ScalarKind.text.Admits value := by
  constructor
  · rintro ⟨content, hread⟩
    cases value with
    | text => exact .text _
    | datetime => exact .datetime _
    | _ => cases hread
  · rintro (_ | _)
    all_goals exact ⟨_, rfl⟩

theorem admits_base_iff :
    (∃ content, FromTree.optional FromTree.text value = .ok content) ↔
      ScalarKind.text.Admits value := by
  rw [← admits_text_iff]
  cases value with
  | text | datetime => exact ⟨fun _ ↦ ⟨_, rfl⟩, fun _ ↦ ⟨_, rfl⟩⟩
  | _ =>
    constructor
    all_goals
      rintro ⟨_, hread⟩
      cases hread

theorem admits_flag_iff :
    (∃ content, FromTree.flag value = .ok content) ↔ ScalarKind.flag.Admits value := by
  constructor
  · rintro ⟨content, hread⟩
    cases value with
    | flag => exact .flag _
    | _ => cases hread
  · rintro (_ | _)
    exact ⟨_, rfl⟩

/-- A value is read as a count if it is a natural number. -/
theorem admits_count_iff (hvalue : value.WellFormed) :
    (∃ content, FromTree.count value = .ok content) ↔ ScalarKind.count.Admits value := by
  constructor
  · rintro ⟨content, hread⟩
    cases hvalue with
    | integer hlimit =>
      unfold FromTree.count at hread
      simp only [DataTree.view, Value.view] at hread
      split at hread
      case isTrue hrange =>
        obtain ⟨n, rfl⟩ := Int.eq_ofNat_of_zero_le hrange.1
        exact .count (Int.ofNat_lt.mp hlimit)
      case isFalse => cases hread
    | _ => cases hread
  · intro hadmits
    cases hadmits with
    | @count n hlimit =>
      have hword : n < 2 ^ 64 := hlimit.trans (by decide)
      have hread := count_integer (UInt64.ofNat n)
      rw [UInt64.toNat_ofNat_of_lt' hword] at hread
      exact ⟨_, hread⟩

/-- A choice may also be made by a table, which has no text. -/
theorem admits_choice {α : Type} {options : List (String × α)} {text : String}
    (htext : value.spelling? = some text) {content : α}
    (hread : Value.choice options value = .ok content) :
    value = .text text ∧ (text, content) ∈ options := by
  refine ⟨?_, Table.mem_of_get? (lookup_of_choice htext hread)⟩
  cases value with
  | text =>
    cases htext
    rfl
  | table => cases htext
  | _ => cases hread

theorem admits_expansion_iff {text : String} (htext : value.spelling? = some text) :
    (∃ content, Value.choice Expansion.options value = .ok content) ↔
      ScalarKind.expansion.Admits value := by
  constructor
  · rintro ⟨content, hread⟩
    obtain ⟨rfl, hoption⟩ := admits_choice htext hread
    have hname : ∀ entry ∈ Expansion.options, entry.1 = entry.2.name := by
      decide
    rw [show text = content.name from hname _ hoption]
    exact .expansion content
  · rintro (_ | _)
    exact ⟨_, choice_expansion _⟩

theorem admits_format_iff {text : String} (htext : value.spelling? = some text) :
    (∃ content, Value.choice LogFormat.options value = .ok content) ↔
      ScalarKind.format.Admits value := by
  constructor
  · rintro ⟨content, hread⟩
    obtain ⟨rfl, hoption⟩ := admits_choice htext hread
    have hname : ∀ entry ∈ LogFormat.options, entry.1 = entry.2.name := by
      decide
    rw [show text = content.name from hname _ hoption]
    exact .format content
  · rintro (_ | _)
    exact ⟨_, choice_format _⟩

/-- A field reads the values of its kind, and no others that have a text. -/
theorem admits_iff (hvalue : value.WellFormed) {text : String}
    (htext : value.spelling? = some text) : ∀ scalar ∈ scalars,
    (∃ content, scalar.field.read value = .ok content) ↔
      (ScalarKind.ofKey scalar.field.key).Admits value := by
  have hcount := admits_count_iff hvalue
  have hexpansion := admits_expansion_iff htext
  have hformat := admits_format_iff htext
  simp only [scalars, List.forall_mem_cons]
  exact ⟨admits_text_iff, hcount, hcount, admits_text_iff, admits_text_iff, admits_text_iff,
    hexpansion, admits_flag_iff, admits_text_iff, admits_base_iff, admits_flag_iff, admits_text_iff,
    hformat, admits_flag_iff, admits_flag_iff, by simp⟩

end

end ScalarKind

/-! ## One variable and one key -/

/-- The name of the variable for a key of a section. -/
def variableOf (beginning name key : String) : String :=
  beginning ++ "__" ++ upper name ++ "__" ++ upper key

theorem Scalar.variableName_eq {scalar : Scalar} (hscalar : scalar ∈ scalars) (beginning : String) :
    scalar.variableName beginning =
      variableOf beginning scalar.part.name scalar.field.key := by
  rw [variableName, name_eq scalar hscalar, variableOf]
  simp only [String.append_assoc]

namespace Loader

/-- Every scalar may be given any value of its kind, by a layer that names its key alone.  The
variable of the scalar gives the same settings, if it holds the text of the value, whatever was
loaded before.  Only the empty base is given by no variable. -/
theorem withEnvironment_eq_overlay_oneKey {loader : Loader} (hloader : loader.Reachable)
    {part : Part Value} (hpart : part ∈ parts) {field : Field Value part.Record}
    (hfield : field ∈ part.fields) (hkey : field.key ≠ "documents") {value : Value}
    (hvalue : value.WellFormed) {text : String} (htext : value.spelling? = some text)
    (hbase : field.key = "asset_base_url" → text ≠ "") (beginning : String) :
    ((∃ after, loader.settings.overlay (.table (oneKey part.name field.key value)) = .ok after) ↔
      (ScalarKind.ofKey field.key).Admits value) ∧
    ∀ after, loader.settings.overlay (.table (oneKey part.name field.key value)) = .ok after →
      withEnvironment beginning loader.settings
        [(variableOf beginning part.name field.key, text)] = .ok after := by
  obtain ⟨name, parse, option, hscalar⟩ := exists_scalar hpart hfield hkey
  have hsections := sectioned_oneKey part.name field.key value
  have hwell := wellFormed_oneKey part.name field.key hvalue
  have hread : (∃ content, field.read value = .ok content) ↔
      (ScalarKind.ofKey field.key).Admits value :=
    ScalarKind.admits_iff hvalue htext _ hscalar
  refine ⟨?_, fun after hafter ↦ ?_⟩
  · rw [exists_overlay_iff_fits hloader.bounded hsections hwell, fits_oneKey_iff hpart hfield,
      hread]
  · obtain ⟨hfits, hlayered⟩ :=
      (overlay_ok_iff hloader.bounded hsections hwell).mp hafter
    obtain ⟨content, hcontent⟩ := (fits_oneKey_iff hpart hfield).mp hfits
    have hparse : parse text = .ok content :=
      parse_of_read _ hscalar htext hbase content hcontent
    rw [← Scalar.variableName_eq hscalar, withEnvironment_cons_of_mem hscalar]
    rw [show (Scalar.mk part field name parse option).parse text = .ok content from hparse]
    exact congrArg Except.ok ((layered_oneKey hpart hfield hcontent _).unique hlayered)

/-- The longest time that a layer can give to a request. -/
theorem withEnvironment_requestMillis_production :
    ∃ after, production.overlay
        (.table (oneKey "server" "request_timeout_ms" (.integer 9223372036854775807))) = .ok after ∧
      withEnvironment "IAM_DOCS" production
        [("IAM_DOCS__SERVER__REQUEST_TIMEOUT_MS", "9223372036854775807")] = .ok after := by
  have hrun : run {} ({}, []) .production = .ok ({ settings := production }, []) := rfl
  have hloader : Reachable { settings := production } := .step .start hrun
  have htext : (Value.integer 9223372036854775807).spelling? = some "9223372036854775807" := rfl
  have hname : variableOf "IAM_DOCS" "server" "request_timeout_ms" =
      "IAM_DOCS__SERVER__REQUEST_TIMEOUT_MS" := by
    decide +kernel
  have hpart : serverPart ∈ parts (V := Value) := by
    simp [parts]
  have hfield : Server.requestMillisField ∈ serverPart.fields (V := Value) := by
    simp [Server.fields]
  obtain ⟨hgiven, hsame⟩ :=
    withEnvironment_eq_overlay_oneKey hloader hpart hfield (by decide) (.integer (by decide)) htext
      (by decide) "IAM_DOCS"
  obtain ⟨after, hafter⟩ := hgiven.mpr (.count (by decide))
  exact ⟨after, hafter, hname ▸ hsame after hafter⟩

end Loader

end Settings

end ApiReference
