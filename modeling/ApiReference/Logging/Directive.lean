import ApiReference.Logging.FieldMatch
import ApiReference.Logging.Level
import ApiReference.Text.Utf8

/-!
# Filter Directives

A directive gives a threshold to events, all of them or those of a target, and may be bound to a
span and to fields: `target[span\{field=value\}]=level`.  A text without `=` is a level or a target.
-/

namespace ApiReference.Logging

open Text

/-- A directive. -/
structure Directive where
  threshold : Threshold := .all
  target : Option String := none
  span : Option String := none
  fields : List FieldMatch := []
  deriving Repr, DecidableEq

/-- Why a directive is refused. -/
inductive DirectiveError where
  | malformed
  | unknownLevel
  | field (reason : PatternError)
  | splitCharacter
  deriving Repr, DecidableEq

def DirectiveError.message : DirectiveError → String
  | .malformed => "invalid filter directive"
  | .unknownLevel =>
    "error parsing level filter: expected one of \"off\", \"error\", \"warn\", \"info\", " ++
      "\"debug\", \"trace\", or a number 0-5"
  | .field reason => "invalid field filter: " ++ reason.message
  | .splitCharacter => "a part of a filter directive begins or ends inside a character"

namespace Directive

/-- Where the reader of a directive stands.  A number is the byte at which the part that is being
read begins. -/
inductive Stage where
  | start
  | word (begin : Nat)
  | span (begin : Nat)
  | field (begin : Nat)
  | fields
  | target
  | level (begin : Nat)
  deriving Repr, DecidableEq

/-- The part of a text from one byte up to another, if no character lies across these places. -/
def slice (text : List Char) (first last : Nat) : Except DirectiveError (List Char) :=
  let bytes := Utf8.encode text
  match Utf8.decode? (bytes.take first), Utf8.decode? (bytes.take last) with
  | some before, some part => .ok (part.drop before.length)
  | _, _ => .error .splitCharacter

/-- Whether a directive may begin with a character other than a bracket. -/
def begins (c : Char) : Bool :=
  c == '-' || c == ':' || c == '_' || isAlphanumeric c

/-- The directive and the stage after one more character, which stands at a byte of the text.  The
parts are cut out of `text`. -/
def next (text : List Char) (position : Nat) (directive : Directive) (stage : Stage) (c : Char) :
    Except DirectiveError (Directive × Stage) :=
  let cut (first : Nat) := slice text first position
  match stage with
  | .start =>
    if c = '[' then .ok (directive, .span (position + 1))
    else if begins c then .ok (directive, .word position)
    else .error .malformed
  | .word first =>
    if c = '=' ∨ c = '[' then do
      let target := String.ofList (← cut first)
      return ({ directive with target := some target },
        if c = '=' then .level (position + 1) else .span (position + 1))
    else .ok (directive, stage)
  | .span first =>
    if c = ']' then do
      let span := String.ofList (← cut first)
      return ({ directive with span := some span }, .target)
    else if c = '\x7b' then do
      let span ← cut first
      return ({ directive with span := if span.isEmpty then none else some (String.ofList span) },
        .field (position + 1))
    else .ok (directive, stage)
  | .field first =>
    if c = '\x7d' ∨ c = ',' then do
      let text ← cut first
      if text.isEmpty then throw .malformed
      let field ← (FieldMatch.ofText text).mapError .field
      return ({ directive with fields := directive.fields ++ [field] },
        if c = ',' then .field (position + 1) else .fields)
    else .ok (directive, stage)
  | .fields => if c = ']' then .ok (directive, .target) else .error .malformed
  | .target => if c = '=' then .ok (directive, .level (position + 1)) else .error .malformed
  | .level _ => .ok (directive, stage)

/-- The directive that is read when the text ends at a stage. -/
def finish (text : List Char) (directive : Directive) (stage : Stage) :
    Except DirectiveError Directive := do
  let cut (first : Nat) := slice text first (Utf8.length text)
  match stage with
  | .word first =>
    let word ← cut first
    if word.isEmpty then .ok directive
    else match Threshold.ofText? word with
      | some threshold => .ok { directive with threshold, target := none }
      | none => .ok { directive with target := some (String.ofList word) }
  | .level first =>
    let word ← cut first
    if word.isEmpty then .ok directive
    else match Threshold.ofText? word with
      | some threshold => .ok { directive with threshold }
      | none => .error .unknownLevel
  | .target => .ok directive
  | _ => .error .malformed

/-- The directive that a text spells.  Blanks around it are passed over, but positions are counted
in the text with them. -/
def parse (text : List Char) : Except DirectiveError Directive := do
  let (directive, stage, _) ← (trim text).foldlM
    (fun (directive, stage, position) c ↦ do
      let (directive, stage) ← next text position directive stage c
      return (directive, stage, position + Utf8.length [c]))
    (({} : Directive), Stage.start, 0)
  finish text directive stage

/-- Whether the directive speaks of events alone, whatever spans they are in. -/
def isStatic (directive : Directive) : Bool :=
  directive.span.isNone && directive.fields.all fun field ↦ field.value.isNone

end Directive

end ApiReference.Logging
