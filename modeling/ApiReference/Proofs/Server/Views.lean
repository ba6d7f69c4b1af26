import ApiReference.Proofs.Page.Options
import ApiReference.Server.Routes

/-!
# The Views of a Page Load

Three routes show the options of a page load: as JSON, in a script, and in the page that holds the
script.  All of them show the same options.
-/

namespace ApiReference

open Json

namespace Frontend

/-! ## The script in the page -/

/-- The call that starts the viewer, with what it is given. -/
def startCall : String :=
  "SwaggerUIBundle(config)"

section

set_option maxRecDepth 4000

theorem occurrences_scriptStart :
    Text.occurrences "SwaggerUIBundle(".toList scriptStart.toList = 0 := by
  rw [show scriptStart.toList = _ from String.toList_ofList]
  decide

theorem occurrences_scriptEnd :
    Text.occurrences "SwaggerUIBundle(".toList scriptEnd.toList = 1 ∧
      Text.occurrences startCall.toList scriptEnd.toList = 1 := by
  rw [show scriptEnd.toList = _ from String.toList_ofList]
  decide

end

/-- Options that are an object are written between braces. -/
theorem exists_toList_optionsLiteral {options : ViewerOptions} {members : List (String × Value)}
    (h : options.toJson = .object members) :
    ∃ body, (optionsLiteral options).toList = '\x7b' :: body ++ ['\x7d'] := by
  use scriptSafe (printMembers members)
  rw [optionsLiteral, String.toList_ofList, h, Value.print]
  simp [scriptSafe, scriptSafeChar]

/-- The page holds the script as the content of an element. -/
theorem page_eq_script (frontend : Frontend) (options : ViewerOptions) :
    ∃ before after : String, frontend.page options =
      before ++ ("<script>\n" ++ script options ++ "    </script>") ++ after := by
  let start := template.take 10
  let loaded := "/swagger-ui-standalone-preset.js\" charset=\"UTF-8\"></script>\n    "
  let rest := "\n</body>\n</html>"
  have htemplate : template = start ++ [Piece.fixed (loaded ++ "<script>\n"),
      Piece.hole .script, Piece.fixed ("    </script>" ++ rest)] := rfl
  refine ⟨String.join (start.map (Piece.fill frontend options)) ++ loaded, rest, ?_⟩
  rw [page, htemplate, List.map_append, String.join_append]
  simp only [List.map_cons, List.map_nil, Piece.fill, fill, String.join_cons, String.join_nil,
    String.append_empty, String.append_assoc]

end Frontend

namespace Server

/-- The body of the response to a page load, when the service has been running for some seconds. -/
def Site.view (site : Site) (uptimeSeconds : Nat) (query : Option String) (path : String) :
    String :=
  (site.respond uptimeSeconds .get { path, query }).body

namespace Site

variable (site : Site) (uptimeSeconds : Nat) (query : Option String)

/-- The options of the page load. -/
def viewed : ViewerOptions :=
  site.selector.options (Query.ofText? query)

theorem view_script : site.view uptimeSeconds query "/swagger-initializer.js" =
    Frontend.script (site.viewed query) := by
  rfl

theorem view_options : site.view uptimeSeconds query "/swagger-config.json" =
    (site.viewed query).toJson.toText := by
  rfl

theorem view_page {path : String} (hpath : path ∈ ["/", "/index.html"]) :
    site.view uptimeSeconds query path = site.frontend.page (site.viewed query) := by
  simp only [List.mem_cons, List.not_mem_nil, or_false] at hpath
  rcases hpath with rfl | rfl <;> rfl

/-- The script is fixed text around an object literal, which is read as the same object as the
options that are served as JSON and has the selected url, and the only inline script of the page is
that script. -/
theorem views_agree : ∃ (literal : String) (members : List (String × Value)),
    (site.viewed query).toJson = .object members ∧
    members.lookup "url" =
      some (.text (selectUrl (Query.ofText? query) site.selector.defaultUrl)) ∧
    (∃ body, literal.toList = '\x7b' :: body ++ ['\x7d']) ∧
    site.view uptimeSeconds query "/swagger-initializer.js" =
      Frontend.scriptStart ++ literal ++ Frontend.scriptEnd ∧
    Value.read literal = .ok (.object members) ∧
    Value.read (site.view uptimeSeconds query "/swagger-config.json") = .ok (.object members) ∧
    (∀ c ∈ Frontend.scriptUnsafe, c ∉ literal.toList) ∧
    Text.occurrences "SwaggerUIBundle(".toList Frontend.scriptStart.toList = 0 ∧
    Text.occurrences "SwaggerUIBundle(".toList Frontend.scriptEnd.toList = 1 ∧
    Text.occurrences Frontend.startCall.toList Frontend.scriptEnd.toList = 1 ∧
    ∀ path ∈ ["/", "/index.html"],
      (∃ before after : String, site.view uptimeSeconds query path = before ++ ("<script>\n" ++
        site.view uptimeSeconds query "/swagger-initializer.js" ++ "    </script>") ++ after) ∧
      ∀ entry ∈ Frontend.scriptTags, Text.occurrences entry.1
        (Frontend.folded (site.view uptimeSeconds query path).toList) = entry.2 := by
  obtain ⟨members, hmembers, hurl⟩ : ∃ members, (site.viewed query).toJson = .object members ∧
      members.lookup "url" =
        some (.text (selectUrl (Query.ofText? query) site.selector.defaultUrl)) :=
    ⟨_, rfl, rfl⟩
  refine ⟨Frontend.optionsLiteral (site.viewed query), members, hmembers, hurl,
    Frontend.exists_toList_optionsLiteral hmembers, site.view_script .., ?_, ?_, ?_,
    Frontend.occurrences_scriptStart, Frontend.occurrences_scriptEnd.1,
    Frontend.occurrences_scriptEnd.2, fun path hpath ↦ ⟨?_, fun entry hentry ↦ ?_⟩⟩
  · rw [← hmembers]
    exact Frontend.read_optionsLiteral (site.viewed query)
  · rw [view_options, ← hmembers]
    exact (site.viewed query).read_toText
  · intro c hc
    exact Frontend.notMem_optionsLiteral hc (site.viewed query)
  · rw [site.view_page uptimeSeconds query hpath, view_script]
    exact Frontend.page_eq_script site.frontend (site.viewed query)
  · rw [site.view_page uptimeSeconds query hpath]
    exact Frontend.occurrences_page_of_mem site.frontend (site.viewed query) hentry

end Site

end Server

end ApiReference
