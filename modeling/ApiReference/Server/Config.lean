import ApiReference.Net.SocketAddress
import ApiReference.Server.Routes
import ApiReference.Settings.Error

/-!
# Running a Server

Where a server listens, how long it waits, and why it may not start.
-/

namespace ApiReference.Server

/-- A length of time in milliseconds. -/
structure Duration where
  millis : Nat
  deriving Repr, DecidableEq

namespace Duration

def ofSeconds (seconds : Nat) : Duration := ⟨seconds * 1000⟩

def seconds (duration : Duration) : Nat := duration.millis / 1000

/-- The billionths after the whole seconds. -/
def nanoseconds (duration : Duration) : Nat := duration.millis % 1000 * 1000000

end Duration

/-- Where a server listens, and how long it waits for connections to end and for requests. -/
structure Config where
  address : String := "0.0.0.0:8080"
  shutdownTimeout : Duration := .ofSeconds 30
  requestTimeout : Duration := .ofSeconds 30
  deriving Repr, DecidableEq

namespace Config

def ofSection (server : Settings.Server) : Config where
  address := server.address
  shutdownTimeout := .ofSeconds server.shutdownSeconds.toNat
  requestTimeout := ⟨server.requestMillis.toNat⟩

/-- The address to listen on. -/
def socketAddress? (config : Config) : Option Net.SocketAddress :=
  Net.SocketAddress.ofText? config.address

end Config

/-- Why a server does not start. -/
inductive Error where
  | invalidAddress (address : String)
  | bind (address : String) (reason : String)
  | settings (error : Settings.Error)
  deriving Repr, DecidableEq

def Error.message : Error → String
  | .invalidAddress address =>
    "invalid listen address '" ++ address ++ "': " ++ Net.SocketAddress.invalidText
  | .bind address reason => "failed to bind to " ++ address ++ ": " ++ reason
  | .settings error => error.message

/-- The wording of the cause behind an error, if there is one. -/
def Error.source? : Error → Option String
  | .invalidAddress _ => some Net.SocketAddress.invalidText
  | .bind _ reason => some reason
  | .settings error => error.source?

/-- What became of an attempt to listen: the address may be in use, of another host, without the
interface that it needs, or of an interface that is not there. -/
inductive Binding where
  | bound
  | occupied
  | foreign
  | unscoped
  | noInterface
  deriving Repr, DecidableEq

/-- The reason why an attempt to listen failed, if it did. -/
def Binding.reason? : Binding → Option String
  | .bound => none
  | .occupied => some "Address already in use (os error 98)"
  | .foreign => some "Cannot assign requested address (os error 99)"
  | .unscoped => some "Invalid argument (os error 22)"
  | .noInterface => some "No such device (os error 19)"

/-- A server: its configuration and the site that it serves. -/
structure Service where
  config : Config
  site : Site
  deriving Repr, DecidableEq

namespace Service

/-- The server that settings describe. -/
def ofSettings (settings : Settings) : Except Error Service :=
  match Site.ofViewer settings.viewer with
  | .ok site => .ok ⟨.ofSection settings.server, site⟩
  | .error error => .error (.settings (.catalog error))

/-- Starts to listen, `binding` being what becomes of it. -/
def listen (service : Service) (binding : Net.SocketAddress → Binding) :
    Except Error Net.SocketAddress :=
  match service.config.socketAddress? with
  | none => .error (.invalidAddress service.config.address)
  | some address =>
    match (binding address).reason? with
    | none => .ok address
    | some reason => .error (.bind address.text reason)

end Service

end ApiReference.Server
