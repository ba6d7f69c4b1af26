import ApiReference.Json.Value

/-!
# Health

The liveness report of a service that is running.
-/

namespace ApiReference.Server

open Json

/-- A liveness report. -/
structure Health where
  service : String
  version : String
  uptimeSeconds : Nat
  deriving Repr, DecidableEq

namespace Health

/-- What a running service says of itself. -/
def status : String := "healthy"

/-- The report of a service that has been running for some milliseconds. -/
def ofMillis (service version : String) (millis : Nat) : Health :=
  ⟨service, version, millis / 1000⟩

def toJson (health : Health) : Value :=
  .object
    [("status", .text status), ("service", .text health.service),
      ("version", .text health.version), ("uptime_seconds", .ofNat health.uptimeSeconds)]

end Health

end ApiReference.Server
