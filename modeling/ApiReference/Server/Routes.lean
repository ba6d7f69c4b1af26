import ApiReference.Http.Message
import ApiReference.Http.Uri
import ApiReference.Page
import ApiReference.Selector
import ApiReference.Server.Health
import ApiReference.Server.Readiness
import ApiReference.Settings.Basic

/-!
# Routes

Every page request runs the selector on its own query.  Only two methods are accepted, and the
documents themselves are served elsewhere.
-/

namespace ApiReference.Server

open Http

def serviceName : String := "iam-docs"

def serviceVersion : String := "0.1.0"

/-- What is served at a path. -/
inductive Route where
  | page
  | script
  | options
  | health
  | ready
  deriving Repr, DecidableEq

/-- The route of a path. -/
def Route.ofPath? (path : String) : Option Route :=
  [("/", Route.page), ("/index.html", .page), ("/swagger-initializer.js", .script),
    ("/swagger-config.json", .options), ("/health", .health), ("/ready", .ready)].lookup path

/-- What the routes answer from. -/
structure Site where
  selector : Selector
  frontend : Frontend
  readiness : Readiness
  deriving Repr, DecidableEq

namespace Site

/-- A site whose readiness depends on its catalog not being empty. -/
def of (selector : Selector) (frontend : Frontend) : Site where
  selector := selector
  frontend := frontend
  readiness := Readiness.addCheck {} ⟨"catalog", !selector.catalog.isEmpty⟩

def ofViewer (viewer : Settings.Viewer) : Except DocumentError Site := do
  return of (← viewer.selector) viewer.frontend

def setReady (site : Site) (ready : Bool) : Site :=
  { site with readiness := { site.readiness with flag := ready } }

/-- The response of a route, when the service has been running for some seconds. -/
def serve (site : Site) (uptimeSeconds : Nat) (query : Query) : Route → Response
  | .page => .content "text/html; charset=utf-8" (site.frontend.page (site.selector.options query))
  | .script =>
    .content "application/javascript; charset=utf-8" (Frontend.script (site.selector.options query))
  | .options => .content "application/json" (site.selector.options query).toJson.toText
  | .health => .json 200 (Health.mk serviceName serviceVersion uptimeSeconds).toJson
  | .ready =>
    let report := site.readiness.report
    .json (if report.ready then 200 else 503) report.toJson

def notFound (path : String) : Response :=
  .error 404 "NOT_FOUND" ("No route for " ++ path)

def notAllowed (method : Method) (path : String) : Response :=
  let response := Response.error 405 "METHOD_NOT_ALLOWED"
    (method.name ++ " is not allowed on " ++ path)
  { response with headers := response.headers ++ [("allow", "GET, HEAD")] }

/-- The response to a request. -/
def respond (site : Site) (uptimeSeconds : Nat) (method : Method) (uri : Uri) : Response :=
  match Route.ofPath? uri.path with
  | none => notFound uri.path
  | some route =>
    if method ≠ .get ∧ method ≠ .head then notAllowed method uri.path
    else
      let response := site.serve uptimeSeconds (Query.ofText? uri.query) route
      if method = .head then response.withoutBody else response

end Site

end ApiReference.Server
