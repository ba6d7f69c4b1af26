import ApiReference.Toml.DatetimeReader
import ApiReference.Toml.Value

/-!
# TOML Documents

A document is a list of sections: the pairs before the first header, and the pairs under each
header.  Putting the sections together makes one tree of entries in the order of the text.  How a
table came about decides what may still be added to it.
-/

namespace ApiReference.Toml

/-- How a table came about: in braces, by its own header, by a dotted key, or as a step of the
header of another table. -/
inductive Origin where
  | braces
  | header
  | dotted
  | implied
  deriving Repr, DecidableEq

/-- A part of a document. -/
inductive Item where
  | scalar (value : Value)
  | array (items : List Item)
  | table (origin : Origin) (entries : List (String × Item))
  | tables (items : List (List (String × Item)))
  deriving Repr

/-- Entries in the order of the text. -/
abbrev Entries := List (String × Item)

/-- A key and its value, the key being a path. -/
structure Pair where
  path : List String
  key : String
  item : Item
  deriving Repr

/-- The pairs under one header.  A repeated header adds a table to a list of tables, and the path is
empty before the first header. -/
structure Section where
  path : List String
  repeated : Bool
  pairs : List Pair
  deriving Repr

namespace Entries

/-- The entries with one of them changed, if it is there and the change is allowed. -/
def modify? (key : String) (change : Item → Option Item) : Entries → Option Entries
  | [] => none
  | entry :: rest =>
    if entry.1 = key then (change entry.2).map fun item ↦ (key, item) :: rest
    else (modify? key change rest).map (entry :: ·)

/-- The entries with a change inside the table of a key.  Without the key `fresh` is the table that
the change is made in. -/
def inside (key : String) (fresh : Origin) (change : Entries → Option Entries)
    (admits : Origin → Bool) (admitsList : Bool) (entries : Entries) : Option Entries :=
  match entries.lookup key with
  | none => (change []).map fun inner ↦ entries ++ [(key, .table fresh inner)]
  | some _ => modify? key (fun
    | .table origin inner => if admits origin then (change inner).map (.table origin) else none
    | .tables items =>
      if admitsList then
        match items.getLast? with
        | some last => (change last).map fun inner ↦ .tables (items.dropLast ++ [inner])
        | none => none
      else none
    | _ => none) entries

/-- The entries with a pair added.  A dotted key goes through tables of dotted keys, and through
those that only a header of another table implies, but does not end in one of the latter. -/
def addPair (key : String) (item : Item) : List String → Entries → Option Entries
  | [], entries =>
    if (entries.lookup key).isSome then none else some (entries ++ [(key, item)])
  | step :: path, entries =>
    inside step .dotted (addPair key item path)
      (fun origin ↦ origin = .dotted || (origin = .implied && !path.isEmpty))
      (!path.isEmpty) entries

def addPairs (entries : Entries) (pairs : List Pair) : Option Entries :=
  pairs.foldlM (fun entries pair ↦ addPair pair.key pair.item pair.path entries) entries

/-- The entries with a change at the end of a header's path. -/
def atHeader (change : Entries → Option Entries) : List String → Entries → Option Entries
  | [], entries => change entries
  | step :: path, entries =>
    inside step .implied (atHeader change path) (· != .braces) true entries

/-- The entries with the table of a header added.  A table that was only implied is taken up. -/
def addTable (key : String) (pairs : List Pair) (entries : Entries) : Option Entries :=
  match entries.lookup key with
  | none => (addPairs [] pairs).map fun inner ↦ entries ++ [(key, .table .header inner)]
  | some (.table .implied inner) => (addPairs inner pairs).map fun inner ↦
    (entries.filter fun entry ↦ entry.1 != key) ++ [(key, .table .header inner)]
  | some _ => none

/-- The entries with the table of a repeated header added to its list. -/
def addRepeated (key : String) (pairs : List Pair) (entries : Entries) : Option Entries := do
  let inner ← addPairs [] pairs
  match entries.lookup key with
  | none => some (entries ++ [(key, .tables [inner])])
  | some _ => modify? key (fun
    | .tables items => some (.tables (items ++ [inner]))
    | _ => none) entries

def addSection (entries : Entries) (part : Section) : Option Entries :=
  match part.path.getLast? with
  | none => addPairs entries part.pairs
  | some key =>
    atHeader (if part.repeated then addRepeated key part.pairs
      else addTable key part.pairs) part.path.dropLast entries

/-- The entries of a document. -/
def ofSections (sections : List Section) : Option Entries :=
  sections.foldlM addSection []

end Entries

/-- The key that marks a table as a datetime when it comes first. -/
def datetimeKey : String := "$__toml_private_datetime"

mutual

def Item.toValue? : Item → Option Value
  | .scalar value => some value
  | .array items => (itemValues? items).map .array
  | .table _ entries => tableValue? entries
  | .tables items => (tableValues? items).map .array

def itemValues? : List Item → Option (List Value)
  | [] => some []
  | item :: rest => do
    let value ← item.toValue?
    return value :: (← itemValues? rest)

def tableValues? : List (List (String × Item)) → Option (List Value)
  | [] => some []
  | entries :: rest => do
    let value ← tableValue? entries
    return value :: (← tableValues? rest)

/-- The value of a table, which is a datetime if its first key says so. -/
def tableValue? : List (String × Item) → Option Value
  | [] => some (.table [])
  | (key, item) :: rest => do
    if key = datetimeKey then
      match item with
      | .scalar (.text text) => (Datetime.ofText text).toOption.map .datetime
      | _ => none
    else
      let value ← item.toValue?
      return .table (Table.insert key value (← entryValues? rest))

/-- The values of some entries, sorted by key. -/
def entryValues? : List (String × Item) → Option (Table Value)
  | [] => some []
  | (key, item) :: rest => do
    let value ← item.toValue?
    return Table.insert key value (← entryValues? rest)

end

end ApiReference.Toml
