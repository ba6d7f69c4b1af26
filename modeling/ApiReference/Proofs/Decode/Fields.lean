import ApiReference.Decode.Tree
import Mathlib

/-!
# Fields of Records

A record is read member by member.  Whether a member is refused does not depend on what was read
before, and what is read into one field leaves the others as they are.
-/

namespace ApiReference.Decode

/-! ## Results -/

theorem exists_of_bind_eq_ok {ε α β : Type} {first : Except ε α} {next : α → Except ε β} {b : β}
    (h : first >>= next = .ok b) : ∃ a, first = .ok a ∧ next a = .ok b := by
  cases first with
  | ok a => exact ⟨a, rfl, h⟩
  | error error => cases h

theorem exists_of_map_eq_ok {ε α β : Type} {result : Except ε α} {f : α → β} {b : β}
    (h : result.map f = .ok b) : ∃ a, result = .ok a ∧ f a = b := by
  cases result with
  | ok a => exact ⟨a, rfl, Except.ok.inj h⟩
  | error error => cases h

theorem eq_ok_of_mapError_eq_ok {ε δ α : Type} {result : Except ε α} {f : ε → δ} {a : α}
    (h : result.mapError f = .ok a) : result = .ok a := by
  cases result with
  | ok b =>
    cases h
    rfl
  | error error => cases h

/-! ## Fields -/

/-- One value of a record: its key, how it is read, and how it is got and set. -/
structure Field (V ρ : Type) where
  Kind : Type
  key : String
  read : FromTree V Kind
  get : ρ → Kind
  set : Kind → ρ → ρ

/-- Why a result is no value. -/
def refusal? {α : Type} : Except Refusal α → Option Refusal
  | .ok _ => none
  | .error refusal => some refusal

theorem refusal?_eq_none_iff {α : Type} {result : Except Refusal α} :
    refusal? result = none ↔ ∃ a, result = .ok a := by
  cases result <;> simp [refusal?]

theorem refusal?_eq_some_iff {α : Type} {result : Except Refusal α} {refusal : Refusal} :
    refusal? result = some refusal ↔ result = .error refusal := by
  cases result <;> simp [refusal?]

variable {V ρ : Type}

namespace Field

section

variable [DataTree V]

/-- The member of a shape that reads a field. -/
def member (field : Field V ρ) : Member (FromTree V) ρ :=
  defaulted field.key field.read field.set

end

/-- A field is what a value is read as, or stays as it was where there is no value. -/
def Follows (field : Field V ρ) (value? : Option V) (before after : ρ) : Prop :=
  match value? with
  | some value => field.read value = .ok (field.get after)
  | none => field.get after = field.get before

/-- What a field holds after it is read is settled by the value and what it held before. -/
theorem Follows.unique {field : Field V ρ} {value? : Option V} {before after other : ρ}
    (hafter : field.Follows value? before after) (hother : field.Follows value? before other) :
    field.get after = field.get other := by
  cases value? with
  | none => exact hafter.trans hother.symm
  | some value => exact Except.ok.inj (hafter.symm.trans hother)

theorem Follows.get_eq_iff {field : Field V ρ} {value? : Option V} {before after other : ρ}
    (hafter : field.Follows value? before after) :
    field.get after = field.get other ↔ field.Follows value? before other := by
  refine ⟨fun hsame ↦ ?_, hafter.unique⟩
  unfold Follows at hafter ⊢
  rw [← hsame]
  exact hafter

end Field

/-! ## Refused members -/

/-- Why the value of a key is refused, whatever was read before. -/
def Shape.memberRefusal? (shape : Shape (FromTree V) ρ) (key : String) (value : V) :
    Option Refusal :=
  refusal? (FromTree.recordMember shape shape.initial (key, value))

namespace FromTree

/-- Whether a member is refused does not depend on the members before it. -/
theorem refusal?_recordMember (shape : Shape (FromTree V) ρ) (record other : ρ)
    (entry : String × V) :
    refusal? (recordMember shape record entry) = refusal? (recordMember shape other entry) := by
  unfold recordMember
  split
  · split <;> rfl
  · split <;> rfl

/-- Members are refused for the first of them that is refused. -/
theorem refusal?_foldlM_recordMember (shape : Shape (FromTree V) ρ) (members : List (String × V))
    (record : ρ) : refusal? (members.foldlM (recordMember shape) record) =
      members.findSome? fun entry ↦ shape.memberRefusal? entry.1 entry.2 := by
  induction members generalizing record with
  | nil => rfl
  | cons entry rest ih =>
    rw [List.findSome?_cons, List.foldlM_cons, Shape.memberRefusal?,
      refusal?_recordMember shape shape.initial record entry]
    cases hentry : recordMember shape record entry with
    | ok next => exact ih next
    | error refusal => rfl

end FromTree

/-! ## Records of fields -/

variable [DataTree V]

/-- A record type that consists of fields: nothing else is read, and none disturbs another. -/
structure Shape.Consists (shape : Shape (FromTree V) ρ) (fields : List (Field V ρ)) : Prop where
  members : shape.members = fields.map Field.member
  strict : shape.strict = true
  distinct : (fields.map Field.key).Nodup
  get_set : ∀ field ∈ fields, ∀ value record, field.get (field.set value record) = value
  get_set_of_ne : ∀ field ∈ fields, ∀ other ∈ fields, field.key ≠ other.key →
    ∀ value record, field.get (other.set value record) = field.get record
  complete : ∀ record other, (∀ field ∈ fields, field.get record = field.get other) →
    record = other

/-- The members that a record is read from.  The items of a list have the keys of the record. -/
def Shape.named (shape : Shape (FromTree V) ρ) (tree : V) : List (String × V) :=
  match DataTree.view tree with
  | .table members => members
  | .list items => shape.keys.zip items
  | _ => []

namespace Shape.Consists

open FromTree

variable {shape : Shape (FromTree V) ρ} {fields : List (Field V ρ)}

theorem keys_eq (h : shape.Consists fields) : shape.keys = fields.map Field.key := by
  rw [Shape.keys, h.members, List.map_map]
  rfl

theorem nodup_keys (h : shape.Consists fields) : shape.keys.Nodup :=
  h.keys_eq ▸ h.distinct

theorem eq_of_key_eq (h : shape.Consists fields) {field other : Field V ρ} (hfield : field ∈ fields)
    (hother : other ∈ fields) (hkey : field.key = other.key) : field = other :=
  List.inj_on_of_nodup_map h.distinct hfield hother hkey

theorem missing?_eq_none (h : shape.Consists fields) (seen : List String) :
    shape.missing? seen = none := by
  rw [Shape.missing?, h.members, Option.map_eq_none_iff, List.find?_eq_none]
  intro member hmember
  obtain ⟨field, -, rfl⟩ := List.mem_map.mp hmember
  simp [Field.member, defaulted]

theorem member?_of_mem (h : shape.Consists fields) {field : Field V ρ} (hfield : field ∈ fields) :
    shape.member? field.key = some field.member := by
  have hsome : ((fields.map Field.member).find? fun member ↦ member.key == field.key).isSome := by
    rw [List.find?_isSome]
    exact ⟨field.member, List.mem_map_of_mem hfield, beq_self_eq_true field.key⟩
  obtain ⟨member, hmember⟩ := Option.isSome_iff_exists.mp hsome
  have hkey : member.key = field.key := by
    simpa using List.find?_some hmember
  obtain ⟨other, hother, rfl⟩ := List.mem_map.mp (List.mem_of_find?_eq_some hmember)
  rw [Shape.member?, h.members, hmember, h.eq_of_key_eq hother hfield hkey]

theorem member?_of_ne (h : shape.Consists fields) {key : String}
    (hkey : ∀ field ∈ fields, field.key ≠ key) : shape.member? key = none := by
  rw [Shape.member?, h.members, List.find?_eq_none]
  intro member hmember
  obtain ⟨field, hfield, rfl⟩ := List.mem_map.mp hmember
  rw [beq_iff_eq]
  exact hkey field hfield

/-- A known member is read by its field. -/
theorem recordMember_of_mem (h : shape.Consists fields) {field : Field V ρ}
    (hfield : field ∈ fields) (record : ρ) (value : V) :
    recordMember shape record (field.key, value) =
      match field.read value with
      | .ok content => .ok (field.set content record)
      | .error refusal => .error (refusal.under field.key) := by
  unfold recordMember
  simp only [h.member?_of_mem hfield]
  have hupdate : field.member.update value = (field.read value).map field.set := rfl
  rw [hupdate]
  cases field.read value <;> rfl

/-- A member of no field is refused as unknown. -/
theorem recordMember_of_ne (h : shape.Consists fields) {key : String}
    (hkey : ∀ field ∈ fields, field.key ≠ key) (record : ρ) (value : V) :
    recordMember shape record (key, value) = .error (.here (.unknownField key shape.keys)) := by
  unfold recordMember
  simp only [h.member?_of_ne hkey, h.strict, if_true]

theorem memberRefusal?_of_mem (h : shape.Consists fields) {field : Field V ρ}
    (hfield : field ∈ fields) (value : V) : shape.memberRefusal? field.key value =
      (refusal? (field.read value)).map (Refusal.under field.key) := by
  rw [Shape.memberRefusal?, h.recordMember_of_mem hfield]
  cases field.read value <;> rfl

theorem memberRefusal?_of_ne (h : shape.Consists fields) {key : String}
    (hkey : ∀ field ∈ fields, field.key ≠ key) (value : V) :
    shape.memberRefusal? key value = some (.here (.unknownField key shape.keys)) := by
  rw [Shape.memberRefusal?, h.recordMember_of_ne hkey]
  rfl

/-- What is accepted has the key of a field, which is then set. -/
theorem of_recordMember (h : shape.Consists fields) {record after : ρ} {entry : String × V}
    (hok : recordMember shape record entry = .ok after) :
    ∃ field ∈ fields, field.key = entry.1 ∧ ∃ content, field.read entry.2 = .ok content ∧
      after = field.set content record := by
  obtain ⟨key, value⟩ := entry
  by_cases hkey : ∃ field ∈ fields, field.key = key
  · obtain ⟨field, hfield, rfl⟩ := hkey
    rw [h.recordMember_of_mem hfield] at hok
    cases hread : field.read value with
    | ok content =>
      rw [hread] at hok
      cases hok
      exact ⟨field, hfield, rfl, content, hread, rfl⟩
    | error refusal =>
      rw [hread] at hok
      cases hok
  · rw [h.recordMember_of_ne fun field hfield heq ↦ hkey ⟨field, hfield, heq⟩] at hok
    cases hok

/-! ## What is read -/

/-- Each field holds what its member gives, if the names of the members are distinct. -/
theorem follows_of_foldlM (h : shape.Consists fields) {members : List (String × V)}
    (hmembers : (members.map Prod.fst).Nodup) {record after : ρ}
    (hok : members.foldlM (recordMember shape) record = .ok after) {field : Field V ρ}
    (hfield : field ∈ fields) : field.Follows (members.lookup field.key) record after := by
  induction members generalizing record with
  | nil =>
    cases hok
    exact rfl
  | cons entry rest ih =>
    obtain ⟨hentry, hrest⟩ := List.nodup_cons.mp hmembers
    rw [List.foldlM_cons] at hok
    cases hfirst : recordMember shape record entry with
    | error refusal =>
      rw [hfirst] at hok
      cases hok
    | ok next =>
      rw [hfirst] at hok
      have hlater := ih hrest hok
      obtain ⟨other, hother, hkey, content, hread, rfl⟩ := h.of_recordMember hfirst
      obtain ⟨key, value⟩ := entry
      rw [List.lookup_cons]
      by_cases hsame : field.key = key
      · -- no later member has the key, so the field stays as it was read here
        have habsent : rest.lookup field.key = none := by
          refine List.lookup_eq_none_iff.mpr fun member hmember ↦ ?_
          rw [bne_iff_ne, hsame]
          exact fun heq ↦ hentry (List.mem_map.mpr ⟨member, hmember, heq.symm⟩)
        rw [habsent] at hlater
        rw [beq_iff_eq.mpr hsame]
        cases h.eq_of_key_eq hfield hother (hsame.trans hkey.symm)
        have hget : field.get after = content := by
          rw [← h.get_set field hfield content record]
          exact hlater
        exact hread.trans (congrArg Except.ok hget.symm)
      · have hne : field.key ≠ other.key := fun heq ↦ hsame (heq.trans hkey)
        have hbefore : field.get (other.set content record) = field.get record :=
          h.get_set_of_ne field hfield other hother hne content record
        rw [beq_eq_false_iff_ne.mpr hsame]
        unfold Field.Follows at hlater ⊢
        rw [hbefore] at hlater
        exact hlater

/-- Members are read one after the other, as no field of the shape is required. -/
theorem recordMembers_eq (h : shape.Consists fields) (members : List (String × V)) :
    recordMembers shape members = members.foldlM (recordMember shape) shape.initial := by
  unfold recordMembers
  rw [h.missing?_eq_none]
  exact bind_pure _

/-- The items of a list are read as the members with the keys of the record in order. -/
theorem foldlM_of_recordItems (h : shape.Consists fields) {total index : Nat}
    {unread : List (Field V ρ)} (hunread : ∀ field ∈ unread, field ∈ fields) {items : List V}
    {record after : ρ}
    (hok : recordItems shape total (unread.map Field.member) index items record = .ok after) :
    ((unread.map Field.key).zip items).foldlM (recordMember shape) record = .ok after := by
  induction unread generalizing index items record with
  | nil =>
    rw [List.map_nil, recordItems] at hok
    split at hok
    · exact hok
    · cases hok
  | cons field unread ih =>
    obtain ⟨hfield, hunread⟩ := List.forall_mem_cons.mp hunread
    cases items with
    | nil =>
      have hrequired : ((field :: unread).map Field.member).findIdx? Member.required = none := by
        rw [List.findIdx?_eq_none_iff]
        intro member hmember
        obtain ⟨other, -, rfl⟩ := List.mem_map.mp hmember
        rfl
      rw [List.map_cons] at hok hrequired
      unfold recordItems at hok
      simp only [hrequired] at hok
      exact hok
    | cons item items =>
      have hupdate : field.member.update item = (field.read item).map field.set := rfl
      rw [List.map_cons, recordItems, hupdate] at hok
      rw [List.map_cons, List.zip_cons_cons, List.foldlM_cons, h.recordMember_of_mem hfield]
      cases hread : field.read item with
      | error refusal =>
        rw [hread] at hok
        cases hok
      | ok content =>
        rw [hread] at hok
        exact ih hunread hok

/-- Each field of a record follows the member of its name, in a list or a table. -/
theorem follows_of_record (h : shape.Consists fields) {tree : V} {after : ρ}
    (hnamed : ((shape.named tree).map Prod.fst).Nodup) (hok : record shape tree = .ok after)
    {field : Field V ρ} (hfield : field ∈ fields) :
    field.Follows ((shape.named tree).lookup field.key) shape.initial after := by
  refine h.follows_of_foldlM hnamed ?_ hfield
  unfold FromTree.record at hok
  unfold Shape.named
  cases hview : DataTree.view tree with
  | list items =>
    simp only [hview, h.members] at hok
    rw [h.keys_eq]
    exact h.foldlM_of_recordItems (fun _ hmem ↦ hmem) hok
  | table members =>
    simp only [hview] at hok
    rw [← h.recordMembers_eq]
    exact hok
  | _ =>
    simp only [hview] at hok
    cases hok

end Shape.Consists

end ApiReference.Decode
