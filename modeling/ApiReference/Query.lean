import ApiReference.Text.Form

/-!
# Query Parameters

The parameters of one request in the order of the query, repeated names included.
-/

namespace ApiReference

/-- The parameters of a query, in order. -/
structure Query where
  pairs : List (String × String)
  deriving Repr, DecidableEq

namespace Query

def empty : Query := ⟨[]⟩

/-- The text without the question mark that may begin it. -/
def withoutMark (text : String) : String :=
  match text.toList with
  | '?' :: rest => String.ofList rest
  | _ => text

/-- The parameters that a query text spells, with or without its question mark. -/
def parse (text : String) : Query :=
  ⟨Text.Form.decode (withoutMark text)⟩

/-- The parameters of a query that may be missing. -/
def ofText? (text? : Option String) : Query :=
  text?.elim empty parse

/-- The first value of a name. -/
def get? (query : Query) (name : String) : Option String :=
  query.pairs.lookup name

def size (query : Query) : Nat :=
  query.pairs.length

def isEmpty (query : Query) : Bool :=
  query.pairs.isEmpty

end Query

end ApiReference
