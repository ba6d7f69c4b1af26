import ApiReference.Decimal.Word
import ApiReference.Decode.Mismatch
import ApiReference.Decode.Source

/-!
# Typed Data from Trees

JSON and TOML values that were read before are trees: scalars, lists, and tables in the order of
their keys.  A refusal names the keys that lead to the refused value.
-/

namespace ApiReference.Decode

open Decimal

/-- The outermost layer of a value of type `V`. -/
inductive View (V : Type) where
  | nothing
  | flag (value : Bool)
  | integer (value : Int)
  | double (value : Double)
  | text (value : String)
  | list (items : List V)
  | table (members : List (String × V))

/-- A view as it is named in a mismatch. -/
def View.found {V : Type} : View V → Found
  | .nothing => .nothing
  | .flag value => .flag value
  | .integer value => .integer value
  | .double value => .double value
  | .text value => .text value
  | .list _ => .list
  | .table _ => .table

/-- A mismatch and the keys that lead to it. -/
structure Refusal where
  what : Mismatch
  path : List String
  deriving Repr, DecidableEq

/-- A refusal of the value itself. -/
def Refusal.here (what : Mismatch) : Refusal :=
  ⟨what, []⟩

def Refusal.under (key : String) (refusal : Refusal) : Refusal :=
  ⟨refusal.what, key :: refusal.path⟩

/-- Types of trees. -/
class DataTree (V : Type) where
  /-- The outermost layer. -/
  view : V → View V
  /-- The one of some choices that a tree names. -/
  choice {α : Type} (options : List (String × α)) : V → Except Refusal α
  /-- Whether a list in place of a record may not hold more items than the record has members. -/
  closed : Bool

/-- Readers of a tree. -/
def FromTree (V : Type) (α : Type) : Type :=
  V → Except Refusal α

namespace FromTree

variable {V : Type} [DataTree V] {α ρ : Type}

instance : Functor (FromTree V) where
  map f read tree := f <$> read tree

/-- Refuses a value for its type. -/
def wrongType (expected : String) (view : View V) : Except Refusal α :=
  .error (.here (.type view.found expected))

def text : FromTree V String := fun tree ↦
  match DataTree.view tree with
  | .text value => .ok value
  | view => wrongType "a string" view

def flag : FromTree V Bool := fun tree ↦
  match DataTree.view tree with
  | .flag value => .ok value
  | view => wrongType "a boolean" view

def count : FromTree V UInt64 := fun tree ↦
  match DataTree.view tree with
  | .integer value =>
    if 0 ≤ value ∧ value < Word.limit then .ok value.toNat.toUInt64
    else .error (.here (.value (.integer value) "u64"))
  | view => wrongType "u64" view

/-- Reads nothing as no value. -/
def optional (read : FromTree V α) : FromTree V (Option α) := fun tree ↦
  match DataTree.view tree with
  | .nothing => .ok none
  | _ => some <$> read tree

def list (item : FromTree V α) : FromTree V (List α) := fun tree ↦
  match DataTree.view tree with
  | .list items => items.mapM item
  | view => wrongType "a sequence" view

/-- Reads a record from a list of `total` items.  Members that are left over keep their default,
unless one of them is required. -/
def recordItems (shape : Shape (FromTree V) ρ) (total : Nat) :
    List (Member (FromTree V) ρ) → Nat → List V → ρ → Except Refusal ρ
  | [], _, items, record =>
    if items.isEmpty || !DataTree.closed V then .ok record
    else .error (.here (.length total "fewer elements in array"))
  | member :: members, index, [], record =>
    match (member :: members).findIdx? Member.required with
    | some offset => .error (.here (.length (index + offset) shape.lengthText))
    | none => .ok record
  | member :: members, index, item :: items, record => do
    let update ← member.update item
    recordItems shape total members (index + 1) items (update record)

def recordMember (shape : Shape (FromTree V) ρ) (record : ρ) (entry : String × V) :
    Except Refusal ρ :=
  match shape.member? entry.1 with
  | none =>
    if shape.strict then .error (.here (.unknownField entry.1 shape.keys)) else .ok record
  | some member =>
    match member.update entry.2 with
    | .ok update => .ok (update record)
    | .error refusal => .error (refusal.under entry.1)

def recordMembers (shape : Shape (FromTree V) ρ) (members : List (String × V)) :
    Except Refusal ρ := do
  let record ← members.foldlM (recordMember shape) shape.initial
  match shape.missing? (members.map Prod.fst) with
  | some key => .error (.here (.missingField key))
  | none => .ok record

def record (shape : Shape (FromTree V) ρ) : FromTree V ρ := fun tree ↦
  match DataTree.view tree with
  | .list items => recordItems shape items.length shape.members 0 items shape.initial
  | .table members => recordMembers shape members
  | view => wrongType ("struct " ++ shape.title) view

end FromTree

instance {V : Type} [DataTree V] : Source (FromTree V) where
  text := FromTree.text
  flag := FromTree.flag
  count := FromTree.count
  choice := DataTree.choice
  optional := FromTree.optional
  list := FromTree.list
  record := FromTree.record

end ApiReference.Decode
