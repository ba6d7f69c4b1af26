import ApiReference.Proofs.Server.Heads
import ApiReference.Proofs.Server.Views

/-!
# What Queries Change

A query changes a response through the address that is shown first, and through nothing else.  Two
page loads look the same exactly when they show the same address first, and no other path looks at
the query at all.
-/

namespace ApiReference

open Json

/-! ## What the options are told from -/

/-- The options as they are served tell which url is shown. -/
theorem ViewerOptions.url_eq_of_toJson_eq {options other : ViewerOptions}
    (h : options.toJson = other.toJson) : options.url = other.url := by
  have hmember : some (Value.text options.url) = some (Value.text other.url) :=
    congrArg (Value.get? · "url") h
  injection hmember with hvalue
  injection hvalue

theorem ViewerOptions.toJson_eq_of_toText_eq {options other : ViewerOptions}
    (h : options.toJson.toText = other.toJson.toText) : options.toJson = other.toJson := by
  have hread := options.read_toText
  rw [h, other.read_toText] at hread
  exact (Except.ok.inj hread).symm

namespace Frontend

/-- The script says which options it was made for. -/
theorem toJson_eq_of_script_eq {options other : ViewerOptions}
    (h : script options = script other) : options.toJson = other.toJson := by
  rw [script, script, String.append_left_inj, String.append_right_inj] at h
  have hread := read_optionsLiteral options
  rw [h, read_optionsLiteral other] at hread
  exact (Except.ok.inj hread).symm

/-- Around its script the page says nothing of the options but their target. -/
theorem Piece.fill_congr {options other : ViewerOptions} (htarget : options.target = other.target)
    (frontend : Frontend) {piece : Piece} (hpiece : piece ≠ .hole .script) :
    piece.fill frontend options = piece.fill frontend other := by
  cases piece with
  | fixed text => rfl
  | hole place =>
    cases place with
    | title | assets => rfl
    | target => exact congrArg Text.Html.escape htarget
    | script => exact absurd rfl hpiece

/-- The page says which script it was made for. -/
theorem script_eq_of_page_eq {frontend : Frontend} {options other : ViewerOptions}
    (htarget : options.target = other.target)
    (h : frontend.page options = frontend.page other) : script options = script other := by
  -- The script fills the last hole, and all that stands before it is the same for both.
  let start := template.take 11
  let rest := "    </script>\n</body>\n</html>"
  have htemplate : template = start ++ [Piece.hole .script, Piece.fixed rest] := rfl
  have hpage (options : ViewerOptions) : frontend.page options =
      String.join (start.map (Piece.fill frontend options)) ++ (script options ++ rest) := by
    rw [page, htemplate, List.map_append, String.join_append]
    simp only [List.map_cons, List.map_nil, Piece.fill, fill, String.join_cons, String.join_nil,
      String.append_empty]
  have hstart : start.map (Piece.fill frontend options) = start.map (Piece.fill frontend other) :=
    List.map_congr_left fun piece hpiece ↦
      Piece.fill_congr htarget frontend fun heq ↦ absurd (heq ▸ hpiece) (by decide)
  rw [hpage, hpage, hstart, String.append_right_inj, String.append_left_inj] at h
  exact h

end Frontend

namespace Server

/-- The paths at which page loads are answered. -/
def Route.viewPaths : List String :=
  ["/", "/index.html", "/swagger-initializer.js", "/swagger-config.json"]

namespace Site

variable (site : Site) (uptimeSeconds : Nat)

/-- The address that is shown first. -/
def selectedUrl (query : Option String) : String :=
  selectUrl (Query.ofText? query) site.selector.defaultUrl

/-- Of a query, the options depend on the selected url alone. -/
theorem viewed_eq_iff {query other : Option String} :
    site.viewed query = site.viewed other ↔ site.selectedUrl query = site.selectedUrl other := by
  refine ⟨congrArg ViewerOptions.url, fun h ↦ ?_⟩
  unfold selectedUrl at h
  unfold viewed Selector.options
  rw [h]

/-- Queries that select the same url get the same response. -/
theorem respond_congr {query other : Option String}
    (h : site.selectedUrl query = site.selectedUrl other) (method : Http.Method) (path : String) :
    site.respond uptimeSeconds method ⟨path, query⟩ =
      site.respond uptimeSeconds method ⟨path, other⟩ := by
  have hoptions : site.selector.options (Query.ofText? query) =
      site.selector.options (Query.ofText? other) := site.viewed_eq_iff.mpr h
  have hserve (route : Route) : site.serve uptimeSeconds (Query.ofText? query) route =
      site.serve uptimeSeconds (Query.ofText? other) route := by
    cases route <;> simp only [serve, hoptions]
  simp only [respond, hserve]

/-- Every view of a page load shows which url is selected. -/
theorem view_eq_iff {path : String} (hpath : path ∈ Route.viewPaths)
    {query other : Option String} :
    site.view uptimeSeconds query path = site.view uptimeSeconds other path ↔
      site.selectedUrl query = site.selectedUrl other := by
  have hpage (path : String) (hpath : path ∈ ["/", "/index.html"])
      (h : site.view uptimeSeconds query path = site.view uptimeSeconds other path) :
      (site.viewed query).toJson = (site.viewed other).toJson := by
    rw [site.view_page uptimeSeconds query hpath, site.view_page uptimeSeconds other hpath] at h
    exact Frontend.toJson_eq_of_script_eq (Frontend.script_eq_of_page_eq rfl h)
  constructor
  · intro h
    have hjson : (site.viewed query).toJson = (site.viewed other).toJson := by
      simp only [Route.viewPaths, List.mem_cons, List.not_mem_nil, or_false] at hpath
      rcases hpath with rfl | rfl | rfl | rfl
      · exact hpage "/" (by simp) h
      · exact hpage "/index.html" (by simp) h
      · exact Frontend.toJson_eq_of_script_eq h
      · exact ViewerOptions.toJson_eq_of_toText_eq h
    exact ViewerOptions.url_eq_of_toJson_eq hjson
  · intro h
    exact congrArg Http.Response.body (site.respond_congr uptimeSeconds h .get path)

/-- Elsewhere the query does not matter. -/
theorem respond_of_notMem_viewPaths {path : String} (hpath : path ∉ Route.viewPaths)
    (query other : Option String) (method : Http.Method) :
    site.respond uptimeSeconds method ⟨path, query⟩ =
      site.respond uptimeSeconds method ⟨path, other⟩ := by
  by_cases hserved : path ∈ Route.paths
  · simp only [Route.paths, Route.viewPaths, List.mem_cons, List.not_mem_nil, or_false] at *
    have hprobe : path = "/health" ∨ path = "/ready" := by tauto
    rcases hprobe with rfl | rfl <;> rfl
  · rw [site.respond_of_notMem_paths uptimeSeconds hserved,
      site.respond_of_notMem_paths uptimeSeconds hserved]

/-- The header that keeps page loads from being stored. -/
theorem cacheControl_of_mem_viewPaths {path : String} (hpath : path ∈ Route.viewPaths)
    (query : Option String) {method : Http.Method}
    (hmethod : method ∈ [Http.Method.get, Http.Method.head]) :
    (site.respond uptimeSeconds method ⟨path, query⟩).headers.filter
      (fun header ↦ header.1 == "cache-control") = [("cache-control", "no-store")] := by
  simp only [Route.viewPaths, List.mem_cons, List.not_mem_nil, or_false] at hpath hmethod
  rcases hmethod with rfl | rfl <;> rcases hpath with rfl | rfl | rfl | rfl <;> rfl

/-- A query matters through the address that is shown first.  Queries that agree on it are answered
alike, whatever the method and the path.  At the paths of page loads, whose responses are not to be
stored, the bodies tell any two addresses apart, and at all other paths no query matters. -/
theorem query_matters_by_url (query other : Option String) :
    (selectUrl (Query.ofText? query) site.selector.defaultUrl =
        selectUrl (Query.ofText? other) site.selector.defaultUrl →
      ∀ method path, site.respond uptimeSeconds method ⟨path, query⟩ =
        site.respond uptimeSeconds method ⟨path, other⟩) ∧
    (∀ path ∈ Route.viewPaths,
      (site.view uptimeSeconds query path = site.view uptimeSeconds other path ↔
        selectUrl (Query.ofText? query) site.selector.defaultUrl =
          selectUrl (Query.ofText? other) site.selector.defaultUrl) ∧
      ∀ method ∈ [Http.Method.get, Http.Method.head],
        (site.respond uptimeSeconds method ⟨path, query⟩).headers.filter
          (fun header ↦ header.1 == "cache-control") = [("cache-control", "no-store")]) ∧
    ∀ path ∉ Route.viewPaths, ∀ method, site.respond uptimeSeconds method ⟨path, query⟩ =
      site.respond uptimeSeconds method ⟨path, other⟩ := by
  refine ⟨fun h method path ↦ ?_, fun path hpath ↦ ⟨?_, fun method hmethod ↦ ?_⟩,
    fun path hpath method ↦ ?_⟩
  · exact site.respond_congr uptimeSeconds h method path
  · exact site.view_eq_iff uptimeSeconds hpath
  · exact site.cacheControl_of_mem_viewPaths uptimeSeconds hpath query hmethod
  · exact site.respond_of_notMem_viewPaths uptimeSeconds hpath query other method

/-- Another parameter and a second address make no difference to the page, a different first address
does, and the health of the server looks at neither. -/
theorem second_url_makes_no_difference :
    ∃ site : Site,
      selectUrl (Query.ofText? (some "url=/a")) site.selector.defaultUrl =
        selectUrl (Query.ofText? (some "layout=b&url=/a&url=/b")) site.selector.defaultUrl ∧
      (∀ method path, site.respond 0 method ⟨path, some "url=/a"⟩ =
        site.respond 0 method ⟨path, some "layout=b&url=/a&url=/b"⟩) ∧
      "/" ∈ Route.viewPaths ∧ site.view 0 (some "url=/a") "/" ≠ site.view 0 (some "url=/b") "/" ∧
      "/health" ∉ Route.viewPaths ∧
      ∀ method, site.respond 0 method ⟨"/health", some "url=/a"⟩ =
        site.respond 0 method ⟨"/health", some "url=/b"⟩ := by
  let site := of .platform {}
  have hsame : selectUrl (Query.ofText? (some "url=/a")) site.selector.defaultUrl =
      selectUrl (Query.ofText? (some "layout=b&url=/a&url=/b")) site.selector.defaultUrl := by
    decide +kernel
  have hother : ¬selectUrl (Query.ofText? (some "url=/a")) site.selector.defaultUrl =
      selectUrl (Query.ofText? (some "url=/b")) site.selector.defaultUrl := by
    decide +kernel
  have hpage : "/" ∈ Route.viewPaths := by decide
  have hhealth : "/health" ∉ Route.viewPaths := by decide
  obtain ⟨-, hview, hrest⟩ := site.query_matters_by_url 0 (some "url=/a") (some "url=/b")
  exact ⟨site, hsame, (site.query_matters_by_url 0 _ _).1 hsame, hpage,
    mt (hview "/" hpage).1.mp hother, hhealth, hrest "/health" hhealth⟩

end Site

end Server

end ApiReference
