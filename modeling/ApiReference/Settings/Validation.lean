import ApiReference.Net.SocketAddress
import ApiReference.Settings.Basic
import ApiReference.Settings.Error

/-!
# Validation

Valid settings have an address to listen on, timeouts that are not zero, a default document and a
render target that are not blank, and documents that form a catalog.  The first of these that fails
is reported.
-/

namespace ApiReference.Settings

/-- Refuses a condition that does not hold. -/
def require (condition : Bool) (error : Error) : Except Error Unit :=
  if condition then .ok () else .error error

/-- Accepts valid settings. -/
def validate (settings : Settings) : Except Error Unit := do
  let server := settings.server
  let viewer := settings.viewer
  require (Net.SocketAddress.ofText? server.address).isSome
    (.invalidValue "server.http_addr" ("invalid socket address: " ++ server.address))
  require (server.requestMillis != 0)
    (.invalidValue "server.request_timeout_ms" "must be greater than zero")
  require (server.shutdownSeconds != 0)
    (.invalidValue "server.shutdown_timeout_secs" "must be greater than zero")
  require (!Text.isBlank viewer.defaultUrl) (.invalidValue "viewer.default_url" "must not be empty")
  require (!Text.isBlank viewer.target) (.invalidValue "viewer.render_target" "must not be empty")
  require (!viewer.documents.isEmpty)
    (.invalid "viewer.documents must contain at least one document")
  match viewer.catalog with
  | .ok _ => .ok ()
  | .error error => .error (.catalog error)

/-- Settings from sections that are set or left at their defaults. -/
def ofSections (server : Option Server) (viewer : Option Viewer) (logging : Option Logging) :
    Settings :=
  ⟨server.getD {}, viewer.getD {}, logging.getD {}⟩

end ApiReference.Settings
