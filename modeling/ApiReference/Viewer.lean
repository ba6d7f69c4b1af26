import ApiReference.Catalog
import ApiReference.Text.Case

/-!
# Viewer Options

The option object of one page load: the document shown first, the documents to choose from, the
element that the viewer fills, and how it behaves.
-/

namespace ApiReference

open Json Decode

/-- The component that frames the viewer. -/
inductive Layout where
  | standalone
  | base
  deriving Repr, DecidableEq

def Layout.name : Layout → String
  | .standalone => "StandaloneLayout"
  | .base => "BaseLayout"

def Layout.options : List (String × Layout) :=
  [("StandaloneLayout", .standalone), ("BaseLayout", .base)]

/-- How far the operations of a document are unfolded at first. -/
inductive Expansion where
  | none
  | list
  | full
  deriving Repr, DecidableEq

def Expansion.name : Expansion → String
  | .none => "none"
  | .list => "list"
  | .full => "full"

def Expansion.options : List (String × Expansion) :=
  [("none", .none), ("list", .list), ("full", .full)]

/-- The expansion with a name in any case, or what is said of a name that there is not. -/
def Expansion.ofText (text : String) : Except String Expansion :=
  match Expansion.options.lookup (Text.lower text) with
  | some expansion => .ok expansion
  | Option.none => .error ("unknown doc expansion '" ++ Text.lower text ++ "'")

/-- How the viewer behaves. -/
structure Behavior where
  deepLinking : Bool := true
  layout : Layout := .standalone
  expansion : Expansion := .list
  showDuration : Bool := false
  deriving Repr, DecidableEq

/-- The behavior with the address following the operation and the standalone layout. -/
def Behavior.pinned (behavior : Behavior) : Behavior :=
  { behavior with deepLinking := true, layout := .standalone }

def Behavior.members (behavior : Behavior) : List (String × Value) :=
  [("deepLinking", .flag behavior.deepLinking), ("layout", .text behavior.layout.name),
    ("docExpansion", .text behavior.expansion.name),
    ("displayRequestDuration", .flag behavior.showDuration)]

/-- A behavior from any source.  All members are required, and others are passed over. -/
def Behavior.shape {m : Type → Type} [Source m] : Shape m Behavior where
  title := "BehaviorFlags"
  members :=
    [required "deepLinking" Source.flag fun deepLinking behavior ↦ { behavior with deepLinking },
      required "layout" (Source.choice Layout.options)
        fun layout behavior ↦ { behavior with layout },
      required "docExpansion" (Source.choice Expansion.options)
        fun expansion behavior ↦ { behavior with expansion },
      required "displayRequestDuration" Source.flag
        fun showDuration behavior ↦ { behavior with showDuration }]
  strict := false
  initial := {}

/-- The options of one page load. -/
structure ViewerOptions where
  url : String
  catalog : Catalog
  target : String
  behavior : Behavior
  primaryName : Option String
  deriving Repr, DecidableEq

namespace ViewerOptions

/-- The id of the element that the viewer fills when none is set. -/
def defaultTarget : String := "swagger-ui"

/-- The selector of the element that the viewer fills. -/
def domSelector (options : ViewerOptions) : String :=
  "#" ++ options.target

def toJson (options : ViewerOptions) : Value :=
  .object ([("url", .text options.url), ("urls", options.catalog.toJson),
    ("dom_id", .text options.domSelector)] ++ options.behavior.members ++
    options.primaryName.toList.map fun name ↦ ("urls.primaryName", .text name))

end ViewerOptions

end ApiReference
