import ApiReference.Query
import ApiReference.Viewer

/-!
# Choosing the First Document

The parameter `url` names the document that is shown first.  Without it, or if it is empty, the
default document is shown.  The address need not belong to the catalog.
-/

namespace ApiReference

/-- The address that a query asks for, or the default one. -/
def selectUrl (query : Query) (defaultUrl : String) : String :=
  match query.get? "url" with
  | some url => if url.isEmpty then defaultUrl else url
  | none => defaultUrl

/-- What page loads have in common. -/
structure Selector where
  defaultUrl : String
  catalog : Catalog
  target : String := ViewerOptions.defaultTarget
  behavior : Behavior := {}
  deriving Repr, DecidableEq

namespace Selector

def platform : Selector where
  defaultUrl := Catalog.defaultUrl
  catalog := .platform

/-- The options of a page load with a query. -/
def options (selector : Selector) (query : Query) : ViewerOptions :=
  let url := selectUrl query selector.defaultUrl
  { url
    catalog := selector.catalog
    target := selector.target
    behavior := selector.behavior.pinned
    primaryName := (selector.catalog.findUrl? url).map Document.name }

/-- Starts a viewer, once, with the options of a page load. -/
def load {m : Type → Type} [Monad m] {α : Type} (selector : Selector)
    (start : ViewerOptions → m α) (query : Query) : m (ViewerOptions × α) := do
  let options := selector.options query
  return (options, ← start options)

end Selector

end ApiReference
