import ApiReference.Json.Value
import ApiReference.Logging.Directive

/-!
# Filters

A filter is a list of directives.  Of those that speak of events and that an event matches, the most
specific decides: the one with the longest target, then with the most fields, then with the field
names that come last.  Without any, no event passes.
-/

namespace ApiReference.Logging

open Text

/-- An event: its level, where it comes from, its message and its fields. -/
structure Event where
  level : Level
  target : String
  message : String
  fields : List (String × Json.Value)
  deriving Repr

def Event.hasField (event : Event) (name : String) : Bool :=
  name == "message" || (event.fields.lookup name).isSome

namespace Directive

/-- Whether the directive speaks of an event. -/
def matchesEvent (directive : Directive) (event : Event) : Bool :=
  directive.isStatic &&
    (directive.target.all fun target ↦
      target.toList.isPrefixOf event.target.toList) &&
    directive.fields.all fun field ↦ event.hasField field.name

/-- The length of the target, counted from one. -/
def targetLength (directive : Directive) : Nat :=
  directive.target.elim 0 fun target ↦ Utf8.length target.toList + 1

def fieldNames (directive : Directive) : List String :=
  directive.fields.map FieldMatch.name

/-- Whether a directive that an event matches is at least as specific as another. -/
def isAsSpecific (directive other : Directive) : Bool :=
  if directive.targetLength ≠ other.targetLength then other.targetLength < directive.targetLength
  else if directive.fields.length ≠ other.fields.length then
    other.fields.length < directive.fields.length
  else !decide (directive.fieldNames < other.fieldNames)

end Directive

/-- Directives in the order in which they were given. -/
structure Filter where
  directives : List Directive
  deriving Repr, DecidableEq

namespace Filter

/-- The filter that a text of directives with commas between them spells. -/
def parse (text : String) : Except DirectiveError Filter := do
  let pieces := (splitAll ',' text.toList).filter fun piece ↦ !piece.isEmpty
  return ⟨← pieces.mapM Directive.parse⟩

/-- The directive that decides on an event, if one does.  Of two that are equally specific the later
one decides. -/
def deciding? (filter : Filter) (event : Event) : Option Directive :=
  filter.directives.foldl
    (fun best? directive ↦
      if directive.matchesEvent event && best?.all directive.isAsSpecific then some directive
      else best?)
    none

def admits (filter : Filter) (event : Event) : Bool :=
  (filter.deciding? event).any fun directive ↦ directive.threshold.admits event.level

end Filter

end ApiReference.Logging
