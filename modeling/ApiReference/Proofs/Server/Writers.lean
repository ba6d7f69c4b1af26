import ApiReference.Proofs.Server.Queries

/-!
# Writers That May Fail

The options of a page load go through a writer of JSON, which may fail.  Then the page load is
answered as a failure of the server, and nothing else is.  With a writer that prints every value the
responses are those of a site whose options are printed at once.
-/

namespace ApiReference

open Json

namespace Frontend

def scriptOf (text : String) : String :=
  scriptStart ++ String.ofList (scriptSafe text.toList) ++ scriptEnd

/-- A piece with its hole filled, a script being there already. -/
def Piece.fillAround (frontend : Frontend) (options : ViewerOptions) (script : String) :
    Piece → String
  | .hole .script => script
  | piece => piece.fill frontend options

def pageAround (frontend : Frontend) (options : ViewerOptions) (script : String) : String :=
  String.join (template.map (Piece.fillAround frontend options script))

/-- With the printer as writer the script is what it is. -/
theorem scriptOf_toText (options : ViewerOptions) :
    scriptOf options.toJson.toText = script options := by
  rw [scriptOf, Value.toText, String.toList_ofList]
  rfl

theorem pageAround_script (frontend : Frontend) (options : ViewerOptions) :
    frontend.pageAround options (script options) = frontend.page options := by
  have hfill (piece : Piece) : piece.fillAround frontend options (script options) =
      piece.fill frontend options := by
    cases piece with
    | fixed text => rfl
    | hole place => cases place <;> rfl
  rw [pageAround, page, funext hfill]

end Frontend

namespace Server

open Http

/-- Writes values as JSON texts, or says why not. -/
abbrev Writer := Value → Except String String

def Route.pageLoads : List Route := [.page, .script, .options]

theorem Route.viewPaths_subset : Route.viewPaths ⊆ Route.paths := by
  decide

/-- The views are just the routes that load a page. -/
theorem Route.mem_viewPaths_iff {path : String} {route : Route}
    (h : Route.ofPath? path = some route) : path ∈ Route.viewPaths ↔ route ∈ Route.pageLoads := by
  have hserved : path ∈ Route.paths := by
    by_contra hpath
    rw [Route.ofPath?_eq_none_iff.mpr hpath] at h
    cases h
  simp only [Route.paths, List.mem_cons, List.not_mem_nil, or_false] at hserved
  rcases hserved with rfl | rfl | rfl | rfl | rfl | rfl <;> cases h <;> decide

namespace Site

/-- The response of a route, when the options are written by a writer. -/
def serveBy (write : Writer) (site : Site) (uptimeSeconds : Nat) (query : Query) :
    Route → Response
  | .page =>
    let options := site.selector.options query
    match write options.toJson with
    | .ok text => .content "text/html; charset=utf-8"
        (site.frontend.pageAround options (Frontend.scriptOf text))
    | .error reason => .error 500 "VIEWER_INIT_FAILED"
        ("Failed to serialize viewer configuration: " ++ reason)
  | .script =>
    match write (site.selector.options query).toJson with
    | .ok text => .content "application/javascript; charset=utf-8" (Frontend.scriptOf text)
    | .error reason => .error 500 "VIEWER_INIT_FAILED"
        ("Failed to serialize viewer configuration: " ++ reason)
  | .options =>
    match write (site.selector.options query).toJson with
    | .ok text => .content "application/json" text
    | .error reason => .error 500 "SERIALIZATION_FAILED" reason
  | route => site.serve uptimeSeconds query route

/-- The response to a request, when the options are written by a writer. -/
def respondBy (write : Writer) (site : Site) (uptimeSeconds : Nat) (method : Method) (uri : Uri) :
    Response :=
  match Route.ofPath? uri.path with
  | none => notFound uri.path
  | some route =>
    if method ≠ .get ∧ method ≠ .head then notAllowed method uri.path
    else
      let response := site.serveBy write uptimeSeconds (Query.ofText? uri.query) route
      if method = .head then response.withoutBody else response

variable {write : Writer} (site : Site) (uptimeSeconds : Nat)

theorem serveBy_of_ok {query : Query}
    (h : write (site.selector.options query).toJson =
      .ok (site.selector.options query).toJson.toText) (route : Route) :
    site.serveBy write uptimeSeconds query route = site.serve uptimeSeconds query route := by
  cases route with
  | page => simp only [serveBy, h, Frontend.scriptOf_toText, Frontend.pageAround_script, serve]
  | script => simp only [serveBy, h, Frontend.scriptOf_toText, serve]
  | options => simp only [serveBy, h, serve]
  | _ => rfl

/-- A writer that prints the options of a page load changes nothing about the response. -/
theorem respondBy_of_ok {uri : Uri}
    (h : write (site.viewed uri.query).toJson = .ok (site.viewed uri.query).toJson.toText)
    (method : Method) : site.respondBy write uptimeSeconds method uri =
      site.respond uptimeSeconds method uri := by
  unfold respondBy respond
  cases Route.ofPath? uri.path with
  | none => rfl
  | some route => simp only [serveBy_of_ok site uptimeSeconds h]

/-- A route fails just if it loads a page and the options cannot be written. -/
theorem status_serveBy_eq_iff (query : Query) (route : Route) :
    (site.serveBy write uptimeSeconds query route).status = 500 ↔
      route ∈ Route.pageLoads ∧
        ∃ reason, write (site.selector.options query).toJson = .error reason := by
  cases route with
  | page | script | options =>
    cases hwrite : write (site.selector.options query).toJson <;>
      simp [serveBy, hwrite, Route.pageLoads, Response.content, Response.error, Response.json]
  | health => simp [serveBy, serve, Route.pageLoads, Response.json]
  | ready => cases hready : site.readiness.report.ready <;>
      simp [serveBy, serve, Route.pageLoads, Response.json, hready]

/-- A request fails by the server exactly if it is a page load whose options are not written. -/
theorem status_respondBy_eq_iff (method : Method) (uri : Uri) :
    (site.respondBy write uptimeSeconds method uri).status = 500 ↔
      uri.path ∈ Route.viewPaths ∧ method ∈ [Method.get, Method.head] ∧
        ∃ reason, write (site.viewed uri.query).toJson = .error reason := by
  unfold respondBy
  cases hroute : Route.ofPath? uri.path with
  | none =>
    have hpath : uri.path ∉ Route.viewPaths :=
      mt (Route.viewPaths_subset ·) (Route.ofPath?_eq_none_iff.mp hroute)
    simp [hpath, notFound, Response.error, Response.json]
  | some route =>
    dsimp only
    rw [Route.mem_viewPaths_iff hroute]
    by_cases hmethod : method ≠ .get ∧ method ≠ .head
    · have hnotAccepted : method ∉ [Method.get, Method.head] := by simpa using hmethod
      rw [if_pos hmethod]
      simp [hnotAccepted, notAllowed, Response.error, Response.json]
    · have haccepted : method ∈ [Method.get, Method.head] := by
        simp only [List.mem_cons, List.not_mem_nil, or_false]
        tauto
      have hsame (response : Response) :
          (if method = .head then response.withoutBody else response).status =
            response.status := by
        split <;> rfl
      rw [if_neg hmethod, hsame, status_serveBy_eq_iff]
      exact and_congr_right fun _ ↦ (and_iff_right haccepted).symm

end Site

end Server

end ApiReference
