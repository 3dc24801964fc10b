/-
**What can go wrong, and how it is said.**

Errors are values that name their cause; the wording is in one function for each type.  An error of
the host's registry becomes one of the gateway's under its own heading.

Main definitions:

* `HostError`, `HostError.message` — failures of the host's services;
* `GatewayError`, `GatewayError.message` — failures of the gateway;
* `ConfigError`, `ConfigError.message` — settings that stop the process.
-/
import ConferenceAuth.Connector

set_option autoImplicit false

namespace ConferenceAuth

/-! ### Failures of the host's services -/

/-- A failure of one of the host's services. -/
inductive HostError where
  /-- A registry entry that is not, or no longer, published. -/
  | entryNotFound (entry : String)
  | registry (reason : String)
  | configuration (reason : String)
  deriving DecidableEq, Repr

def HostError.message : HostError → String
  | entryNotFound entry => "Registry entry not found: " ++ entry
  | registry reason => "Registry error: " ++ reason
  | configuration reason => "Configuration error: " ++ reason

/-! ### Failures of the gateway -/

/-- A failure of the gateway. -/
inductive GatewayError where
  /-- A start without a stop since the last one. -/
  | alreadyStarted
  | registry (cause : HostError)
  | bind (kind : ConnectorKind) (address reason : String)
  | unsupportedConnector (kind : ConnectorKind)
  | server (reason : String)
  | authority (reason : String)
  deriving DecidableEq, Repr

def GatewayError.message : GatewayError → String
  | alreadyStarted => "Auth gateway already started"
  | registry cause => "Registry error: " ++ cause.message
  | bind kind address reason =>
      "Failed to bind " ++ kind.name ++ " connector on " ++ address ++ ": " ++ reason
  | unsupportedConnector kind => "Unsupported connector: " ++ kind.name
  | server reason => "HTTP server error: " ++ reason
  | authority reason => "Authority error: " ++ reason

/-! ### Settings that stop the process -/

/-- A setting of the process that cannot be used. -/
inductive ConfigError where
  | invalidValue (reason : String)
  deriving DecidableEq, Repr

def ConfigError.message : ConfigError → String
  | invalidValue reason => "Invalid configuration value: " ++ reason

/-! ### Results -/

/-- What two calls come to can be compared. -/
instance decidableEqResult {ε α : Type} [DecidableEq ε] [DecidableEq α] :
    DecidableEq (Except ε α)
  | .ok a, .ok b =>
      if h : a = b then isTrue (congrArg _ h) else isFalse fun heq => h (Except.ok.inj heq)
  | .error d, .error e =>
      if h : d = e then isTrue (congrArg _ h) else isFalse fun heq => h (Except.error.inj heq)
  | .ok _, .error _ | .error _, .ok _ => isFalse nofun

end ConferenceAuth
