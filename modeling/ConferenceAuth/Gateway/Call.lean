/-
**What the gateway asks of others.**

Starting and stopping are rows of calls to the services around the gateway: the configuration, the
registry, the authority, the embedded server and the health state.  A call notes what was asked and
whether it succeeded.

Main definitions:

* `Call`, `Call.text?` — the calls, and the log lines of those that are logged.
-/
import ConferenceAuth.Backend
import ConferenceAuth.Registry
import ConferenceAuth.Server.Basic

set_option autoImplicit false

namespace ConferenceAuth

abbrev ServerRef := Nat

/-- A call of the gateway to one of the services around it. -/
inductive Call where
  | readConfig
  | publish (service : String) (ok : Bool)
  | withdraw (entry : RegistryEntry) (ok : Bool)
  | startAuthority (authority : AuthorityRef) (ok : Bool)
  | stopAuthority (authority : AuthorityRef)
  | createServer (config : HttpConfig)
  | addHandlers (kinds : List HandlerKind)
  | addConnector (connector : Connector)
  | startServer (server : ServerRef) (ok : Bool)
  | stopServer (server : ServerRef) (ok : Bool)
  | setReady (ready : Bool)
  deriving DecidableEq, Repr

namespace Call

/-- How a log says whether a call succeeded. -/
def outcomeText (ok : Bool) : String := if ok then "ok" else "failed"

/-- The settings of a server as a log has them, with a dash for what is absent. -/
def configText (c : HttpConfig) : String :=
  "host=" ++ c.host.getD "-" ++
    " port=" ++ (c.port.map fun p => toString p.toNat).getD "-" ++
    " tls_port=" ++ toString c.tlsPort.toNat ++
    " key_store=" ++ c.keyStorePath.getD "-"

/-- The log line of a call to the registry or to a server; other calls are not logged. -/
def text? : Call → Option String
  | publish service ok => some ("publish " ++ service ++ " " ++ outcomeText ok)
  | withdraw entry ok => some ("withdraw " ++ entry.service ++ " " ++ outcomeText ok)
  | createServer config => some ("create_server " ++ configText config)
  | addHandlers kinds => some ("add_handlers " ++ ",".intercalate (kinds.map (·.name)))
  | addConnector c => some ("add_connector " ++ c.kind.name ++ " " ++ c.address)
  | startServer _ ok => some ("server_start " ++ outcomeText ok)
  | stopServer _ ok => some ("server_stop " ++ outcomeText ok)
  | readConfig | startAuthority _ _ | stopAuthority _ | setReady _ => none

end Call

end ConferenceAuth
