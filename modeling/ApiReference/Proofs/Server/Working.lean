import ApiReference.Proofs.Catalog.Insertions
import ApiReference.Proofs.Server.Writers
import ApiReference.Server.Config
import ApiReference.Settings.Validation

/-!
# Servers of Valid Settings

Settings are checked once, and used in several places later.  What the check accepts is refused
nowhere else: the server comes about, has an address to listen on, is ready, and has a document to
show first at every page load.
-/

namespace ApiReference

open Json

namespace Settings

/-- What validation asks of settings. -/
structure Valid (settings : Settings) : Prop where
  address : ∃ address, Net.SocketAddress.ofText? settings.server.address = some address
  requestMillis : settings.server.requestMillis ≠ 0
  shutdownSeconds : settings.server.shutdownSeconds ≠ 0
  defaultUrl : Text.trim settings.viewer.defaultUrl.toList ≠ []
  target : Text.trim settings.viewer.target.toList ≠ []
  documents : settings.viewer.documents ≠ []
  sound : Catalog.Sound settings.viewer.documents

theorem require_bind_eq_ok_iff {condition : Bool} {error : Error} {rest : Except Error Unit} :
    (do require condition error; rest) = .ok () ↔ condition = true ∧ rest = .ok () := by
  cases condition with
  | true => exact ⟨fun h ↦ ⟨rfl, h⟩, And.right⟩
  | false => exact ⟨fun h ↦ (nomatch h), fun h ↦ (nomatch h.1)⟩

theorem not_isBlank_iff (text : String) :
    (!Text.isBlank text) = true ↔ Text.trim text.toList ≠ [] := by
  rw [Bool.not_eq_true', ← Bool.not_eq_true, Text.isBlank_iff]

/-- The documents make a catalog if they are sound, and it has them in their order. -/
theorem catalog_eq_ok_iff {viewer : Viewer} {catalog : Catalog} :
    viewer.catalog = .ok catalog ↔ Catalog.Sound viewer.documents ∧ catalog = ⟨viewer.documents⟩ :=
  Catalog.ofDocuments_eq_ok_iff

/-- Validation accepts just the settings that are valid. -/
theorem validate_eq_ok_iff {settings : Settings} :
    settings.validate = .ok () ↔ settings.Valid := by
  unfold validate
  simp only [require_bind_eq_ok_iff, not_isBlank_iff]
  simp only [bne_iff_ne, Option.isSome_iff_exists, Bool.not_eq_true', List.isEmpty_eq_false_iff]
  -- The last check builds the catalog only to see whether that succeeds.
  cases hcatalog : settings.viewer.catalog with
  | ok catalog =>
    have hsound := (catalog_eq_ok_iff.mp hcatalog).1
    constructor
    · rintro ⟨haddress, hrequest, hshutdown, hurl, htarget, hdocuments, -⟩
      exact ⟨haddress, hrequest, hshutdown, hurl, htarget, hdocuments, hsound⟩
    · rintro ⟨haddress, hrequest, hshutdown, hurl, htarget, hdocuments, -⟩
      exact ⟨haddress, hrequest, hshutdown, hurl, htarget, hdocuments, rfl⟩
  | error error =>
    constructor
    · rintro ⟨-, -, -, -, -, -, hrefused⟩
      cases hrefused
    · rintro ⟨-, -, -, -, -, -, hsound⟩
      rw [catalog_eq_ok_iff.mpr ⟨hsound, rfl⟩] at hcatalog
      cases hcatalog

end Settings

/-- An empty value in a query selects nothing, so that the selected url is as good as the default.
-/
theorem selectUrl_ne_empty {defaultUrl : String} (h : defaultUrl ≠ "") (query : Query) :
    selectUrl query defaultUrl ≠ "" := by
  unfold selectUrl
  split
  case h_1 url hurl =>
    split
    case isTrue => exact h
    case isFalse hne => simpa using hne
  case h_2 => exact h

namespace Server

open Http

theorem ReadinessReport.read_toText {report : ReadinessReport}
    (h : (report.results.map Prod.fst).Nodup) :
    Value.read report.toJson.toText = .ok report.toJson := by
  have hchecks : (Value.object (report.results.map fun result ↦
      (result.1, Value.flag result.2))).Spellable 1 := by
    refine .object ?_ fun member hmember ↦ ?_
    · rw [List.map_map]
      exact h
    · obtain ⟨⟨name, passes⟩, -, rfl⟩ := List.mem_map.mp hmember
      exact .flag 0 passes
  have hreport : report.toJson.Spellable 2 := by
    refine .object (by simp) fun member hmember ↦ ?_
    simp only [List.mem_cons, List.not_mem_nil, or_false] at hmember
    rcases hmember with rfl | rfl
    · exact .flag 1 report.ready
    · exact hchecks
  exact Value.read_toText (hreport.mono (by decide))

namespace Site

/-- A new site is ready if its catalog holds a document. -/
theorem report_of (selector : Selector) (frontend : Frontend) :
    (of selector frontend).readiness.report =
      ⟨!selector.catalog.isEmpty, [("catalog", !selector.catalog.isEmpty)]⟩ := by
  unfold of
  cases selector.catalog.isEmpty <;> rfl

/-- Only the readiness route can answer that something is wrong. -/
theorem status_serve (site : Site) (uptimeSeconds : Nat) (query : Query) (route : Route) :
    (site.serve uptimeSeconds query route).status =
      if route = .ready ∧ site.readiness.report.ready = false then 503 else 200 := by
  cases route with
  | ready => cases hready : site.readiness.report.ready <;> simp [serve, Response.json, hready]
  | _ => rfl

/-- A served path is answered alike by status to both methods. -/
theorem status_respond (site : Site) (uptimeSeconds : Nat) {uri : Uri} {route : Route}
    (hroute : Route.ofPath? uri.path = some route) {method : Method}
    (hmethod : method ∈ [Method.get, Method.head]) :
    (site.respond uptimeSeconds method uri).status =
      (site.serve uptimeSeconds (Query.ofText? uri.query) route).status := by
  simp only [List.mem_cons, List.not_mem_nil, or_false] at hmethod
  rcases hmethod with rfl | rfl
  · rw [site.respond_get_of_route uptimeSeconds hroute]
  · rw [site.respond_head_of_route uptimeSeconds hroute]
    rfl

end Site

namespace Service

/-- A server does its work.  It has an address, so that listening fails for no other reason than
what becomes of it there; it is ready; it answers every page load, with an address to show first;
and with a writer that prints every value it answers nothing as a failure of its own. -/
structure Works (service : Service) : Prop where
  listens : ∃ address, service.config.socketAddress? = some address ∧
    ∀ binding, service.listen binding =
      match (binding address).reason? with
      | none => .ok address
      | some reason => .error (.bind address.text reason)
  ready : ∀ uptimeSeconds query,
    (service.site.respond uptimeSeconds .get ⟨"/ready", query⟩).status = 200 ∧
    ∃ answer, Value.read (service.site.view uptimeSeconds query "/ready") = .ok answer ∧
      answer.get? "ready" = some (.flag true)
  answers : ∀ uptimeSeconds query, ∀ path ∈ Route.viewPaths,
    ∀ method ∈ [Method.get, Method.head],
      (service.site.respond uptimeSeconds method ⟨path, query⟩).status = 200
  shows : ∀ uptimeSeconds query, ∃ answer url,
    Value.read (service.site.view uptimeSeconds query "/swagger-config.json") = .ok answer ∧
    answer.get? "url" = some (.text url) ∧
    url = selectUrl (Query.ofText? query) service.site.selector.defaultUrl ∧ url ≠ ""
  succeeds : ∀ write : Writer, (∀ value, write value = .ok value.toText) →
    ∀ uptimeSeconds method uri,
      service.site.respondBy write uptimeSeconds method uri =
        service.site.respond uptimeSeconds method uri ∧
      (service.site.respond uptimeSeconds method uri).status ≠ 500

/-- Sound documents make a server with the settings' selector. -/
theorem exists_ofSettings {settings : Settings} (h : Catalog.Sound settings.viewer.documents) :
    ∃ selector : Selector, selector.defaultUrl = settings.viewer.defaultUrl ∧
      selector.catalog = ⟨settings.viewer.documents⟩ ∧
      ofSettings settings =
        .ok ⟨.ofSection settings.server, .of selector settings.viewer.frontend⟩ := by
  let selector : Selector :=
    { defaultUrl := settings.viewer.defaultUrl
      catalog := ⟨settings.viewer.documents⟩
      target := settings.viewer.target
      behavior :=
        { expansion := settings.viewer.expansion, showDuration := settings.viewer.showDuration } }
  have hselector : settings.viewer.selector = .ok selector := by
    rw [Settings.Viewer.selector, Settings.catalog_eq_ok_iff.mpr ⟨h, rfl⟩]
    rfl
  refine ⟨selector, rfl, rfl, ?_⟩
  rw [ofSettings, Site.ofViewer, hselector]
  rfl

theorem listen_of_address {service : Service} {address : Net.SocketAddress}
    (h : service.config.socketAddress? = some address)
    (binding : Net.SocketAddress → Binding) : service.listen binding =
      match (binding address).reason? with
      | none => .ok address
      | some reason => .error (.bind address.text reason) := by
  unfold listen
  cases hreason : (binding address).reason? <;> simp only [h, hreason]

/-- A new server with an address, a document and a default address works. -/
theorem works_of {config : Config} {address : Net.SocketAddress}
    (haddress : config.socketAddress? = some address) {selector : Selector}
    (hcatalog : selector.catalog.documents ≠ []) (hurl : selector.defaultUrl ≠ "")
    (frontend : Frontend) : Works ⟨config, .of selector frontend⟩ where
  listens := ⟨address, haddress, listen_of_address haddress⟩
  ready uptimeSeconds query := by
    have hempty : selector.catalog.isEmpty = false := List.isEmpty_eq_false_iff.mpr hcatalog
    have hreport := Site.report_of selector frontend
    rw [hempty] at hreport
    have hresponse : (Site.of selector frontend).respond uptimeSeconds .get ⟨"/ready", query⟩ =
        .json 200 (ReadinessReport.toJson ⟨true, [("catalog", true)]⟩) := by
      rw [Site.respond_get_of_route _ _ rfl, Site.serve, hreport]
      rfl
    rw [Site.view, hresponse]
    exact ⟨rfl, _, ReadinessReport.read_toText (List.nodup_singleton _), rfl⟩
  answers uptimeSeconds query path hpath method hmethod := by
    obtain ⟨route, hroute, hready⟩ : ∃ route, Route.ofPath? path = some route ∧ route ≠ .ready := by
      simp only [Route.viewPaths, List.mem_cons, List.not_mem_nil, or_false] at hpath
      rcases hpath with rfl | rfl | rfl | rfl <;> exact ⟨_, rfl, by decide⟩
    rw [Site.status_respond _ uptimeSeconds hroute hmethod, Site.status_serve]
    simp [hready]
  shows uptimeSeconds query :=
    ⟨_, _, (Site.viewed _ query).read_toText, rfl, rfl, selectUrl_ne_empty hurl _⟩
  succeeds write hwrite uptimeSeconds method uri := by
    have hsame : (Site.of selector frontend).respondBy write uptimeSeconds method uri =
        (Site.of selector frontend).respond uptimeSeconds method uri :=
      Site.respondBy_of_ok _ uptimeSeconds (hwrite _) method
    refine ⟨hsame, fun hfails ↦ ?_⟩
    rw [← hsame, Site.status_respondBy_eq_iff, hwrite] at hfails
    obtain ⟨-, -, reason, hreason⟩ := hfails
    cases hreason

/-- Valid settings make a server that works, with their address, their documents and their default
url. -/
theorem works_of_valid {settings : Settings} (h : settings.validate = .ok ()) :
    ∃ service, ofSettings settings = .ok service ∧ service.Works ∧
      service.config = .ofSection settings.server ∧
      service.site.selector.catalog.documents = settings.viewer.documents ∧
      service.site.selector.defaultUrl = settings.viewer.defaultUrl := by
  have hvalid := Settings.validate_eq_ok_iff.mp h
  obtain ⟨selector, hurl, hcatalog, hservice⟩ := exists_ofSettings hvalid.sound
  obtain ⟨address, haddress⟩ := hvalid.address
  have haddress : (Config.ofSection settings.server).socketAddress? = some address := by
    rw [Config.socketAddress?, Config.ofSection, haddress]
  have hdocuments : selector.catalog.documents ≠ [] := by
    rw [hcatalog]
    exact hvalid.documents
  have hdefault : selector.defaultUrl ≠ "" := by
    rw [hurl]
    intro hempty
    exact hvalid.defaultUrl (by rw [hempty]; rfl)
  refine ⟨_, hservice, works_of haddress hdocuments hdefault settings.viewer.frontend, rfl, ?_,
    hurl⟩
  exact congrArg Catalog.documents hcatalog

/-- A server on a local address of the sixth version of the protocol, with one document. -/
theorem works_of_local_address :
    ∃ (settings : Settings) (service : Service), settings.server.address = "[::1]:8443" ∧
      settings.validate = .ok () ∧ ofSettings settings = .ok service ∧ service.Works ∧
      service.config.address = "[::1]:8443" := by
  let settings : Settings :=
    { server := { address := "[::1]:8443", shutdownSeconds := 1 }
      viewer := { defaultUrl := "/a", documents := [⟨"A", "/b"⟩] } }
  have hvalid : settings.validate = .ok () := by decide +kernel
  obtain ⟨service, hservice, hworks, hconfig, -, -⟩ := works_of_valid hvalid
  exact ⟨settings, service, rfl, hvalid, hservice, hworks, congrArg Config.address hconfig⟩

end Service

end Server

end ApiReference
