import ApiReference.Proofs.Text.Utf8
import ApiReference.Server.Routes

/-!
# Responses without Bodies

What HEAD is answered to a request should say how long the body is that GET is answered, and leave
the body out.  That is so at the paths that have a route, and nowhere else.
-/

namespace ApiReference

namespace Http.Response

/-- A response stands for another one without its body: it has the same status and headers and the
number of bytes of the other's body, which the other does not mention. -/
structure StandsFor (head full : Response) : Prop where
  status : head.status = full.status
  headers : head.headers = full.headers ++ [("content-length", toString full.body.utf8ByteSize)]
  unmentioned : "content-length" ∉ full.headers.map Prod.fst
  body : head.body = ""

/-- A response without its body stands for the response, unless it had a length already. -/
theorem withoutBody_standsFor {response : Response}
    (h : "content-length" ∉ response.headers.map Prod.fst) :
    response.withoutBody.StandsFor response where
  status := rfl
  headers := by rw [← Text.Utf8.length_toList]; rfl
  unmentioned := h
  body := rfl

/-- A response with a body does not stand for itself. -/
theorem not_standsFor_self {response : Response} (h : response.body ≠ "") :
    ¬response.StandsFor response :=
  fun hself ↦ h hself.body

theorem json_body_ne (status : Nat) (members : List (String × Json.Value)) :
    (json status (.object members)).body ≠ "" := by
  intro hempty
  have hlist := congrArg String.toList hempty
  rw [json, Json.Value.toText, Json.Value.print, String.toList_ofList] at hlist
  cases hlist

end Http.Response

namespace Server

open Http

/-- The paths at which something is served. -/
def Route.paths : List String :=
  ["/", "/index.html", "/swagger-initializer.js", "/swagger-config.json", "/health", "/ready"]

/-- There are routes for the served paths only. -/
theorem Route.ofPath?_eq_none_iff {path : String} :
    Route.ofPath? path = none ↔ path ∉ Route.paths := by
  simp [Route.ofPath?, Route.paths, List.lookup_eq_none_iff]

namespace Site

variable (site : Site) (uptimeSeconds : Nat)

/-- No route gives a length of its own. -/
theorem contentLength_notMem_serve (query : Query) (route : Route) :
    "content-length" ∉ (site.serve uptimeSeconds query route).headers.map Prod.fst := by
  cases route <;> simp [serve, Response.content, Response.json]

/-- A path that is not served is answered alike, whatever the method is. -/
theorem respond_of_notMem_paths {uri : Uri} (h : uri.path ∉ Route.paths) (method : Method) :
    site.respond uptimeSeconds method uri = notFound uri.path := by
  rw [respond, Route.ofPath?_eq_none_iff.mpr h]

theorem respond_get_of_route {uri : Uri} {route : Route} (h : Route.ofPath? uri.path = some route) :
    site.respond uptimeSeconds .get uri =
      site.serve uptimeSeconds (Query.ofText? uri.query) route := by
  rw [respond, h]
  rfl

/-- On a route that is served, HEAD has the headers of GET and no body. -/
theorem respond_head_of_route {uri : Uri} {route : Route}
    (h : Route.ofPath? uri.path = some route) : site.respond uptimeSeconds .head uri =
      (site.serve uptimeSeconds (Query.ofText? uri.query) route).withoutBody := by
  rw [respond, h]
  rfl

/-- HEAD is answered what stands for the answer to GET just at the paths that are served.  Elsewhere
both are answered the same, with a body. -/
theorem head_standsFor_get_iff (uri : Uri) :
    ((site.respond uptimeSeconds .head uri).StandsFor (site.respond uptimeSeconds .get uri) ↔
      uri.path ∈ Route.paths) ∧
    (uri.path ∉ Route.paths →
      site.respond uptimeSeconds .head uri = site.respond uptimeSeconds .get uri ∧
        (site.respond uptimeSeconds .head uri).body ≠ "") := by
  have hbody : (notFound uri.path).body ≠ "" := Response.json_body_ne 404 _
  by_cases hpath : uri.path ∈ Route.paths
  · obtain ⟨route, hroute⟩ := Option.ne_none_iff_exists'.mp
      (mt Route.ofPath?_eq_none_iff.mp (not_not.mpr hpath))
    rw [site.respond_head_of_route uptimeSeconds hroute,
      site.respond_get_of_route uptimeSeconds hroute]
    have hstands := Response.withoutBody_standsFor
      (site.contentLength_notMem_serve uptimeSeconds (Query.ofText? uri.query) route)
    exact ⟨iff_of_true hstands hpath, fun habsent ↦ absurd hpath habsent⟩
  · rw [site.respond_of_notMem_paths uptimeSeconds hpath,
      site.respond_of_notMem_paths uptimeSeconds hpath]
    exact ⟨iff_of_false (Response.not_standsFor_self hbody) hpath, fun _ ↦ ⟨rfl, hbody⟩⟩

/-- At a path without a route HEAD is answered with a body. -/
theorem head_of_unknown_path_has_body :
    ¬((of .platform {}).respond 0 .head ⟨"/x", none⟩).StandsFor
      ((of .platform {}).respond 0 .get ⟨"/x", none⟩) := by
  intro hstands
  have hbody : ((of .platform {}).respond 0 .head ⟨"/x", none⟩).body ≠ "" := by
    decide +kernel
  exact hbody hstands.body

end Site

end Server

end ApiReference
