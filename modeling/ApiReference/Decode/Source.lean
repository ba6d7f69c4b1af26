/-!
# Sources of Structured Data

A source reads texts, flags, counts, choices, lists and records.  A type says once how it is read
from any source; JSON text, JSON values, TOML values and TOML documents are the sources.
-/

namespace ApiReference.Decode

/-- One member of a record `ρ`: its key, whether it has to be present, and how its value changes
the record. -/
structure Member (m : Type → Type) (ρ : Type) where
  key : String
  required : Bool
  update : m (ρ → ρ)

/-- A record type: the members in order, whether other keys are refused, and the record that holds
the default of every member. -/
structure Shape (m : Type → Type) (ρ : Type) where
  title : String
  members : List (Member m ρ)
  strict : Bool
  initial : ρ

namespace Shape

variable {m : Type → Type} {ρ : Type}

def keys (shape : Shape m ρ) : List String :=
  shape.members.map Member.key

def member? (shape : Shape m ρ) (key : String) : Option (Member m ρ) :=
  shape.members.find? fun member ↦ member.key == key

/-- The first required member whose key was not seen. -/
def missing? (shape : Shape m ρ) (seen : List String) : Option String :=
  (shape.members.find? fun member ↦ member.required && !seen.contains member.key).map Member.key

/-- What a list in place of the record should have been. -/
def lengthText (shape : Shape m ρ) : String :=
  "struct " ++ shape.title ++ " with " ++ toString shape.members.length ++
    (if shape.members.length = 1 then " element" else " elements")

end Shape

/-- Readers of structured data. -/
class Source (m : Type → Type) extends Functor m where
  /-- Reads a text. -/
  text : m String
  /-- Reads a truth value. -/
  flag : m Bool
  /-- Reads a natural number below `2^64`. -/
  count : m UInt64
  /-- Reads one of some names. -/
  choice {α : Type} (options : List (String × α)) : m α
  /-- Reads a value that may be absent. -/
  optional {α : Type} (value : m α) : m (Option α)
  /-- Reads a list. -/
  list {α : Type} (item : m α) : m (List α)
  /-- Reads a record. -/
  record {ρ : Type} (shape : Shape m ρ) : m ρ

variable {m : Type → Type} [Source m] {ρ α : Type}

/-- A member that has to be present. -/
def required (key : String) (value : m α) (set : α → ρ → ρ) : Member m ρ :=
  ⟨key, true, set <$> value⟩

/-- A member that keeps its default when it is absent. -/
def defaulted (key : String) (value : m α) (set : α → ρ → ρ) : Member m ρ :=
  ⟨key, false, set <$> value⟩

end ApiReference.Decode
