/-
**Common deployments.**

Four settings cover the ways in which the gateway is commonly deployed: without authentication, for
the users of an XMPP domain, for single sign-on, and for an XMPP domain with the health checks
served.  A rehearsal is such a deployment with services that record what is asked of them and refuse
what they are told to refuse.

Main definitions:

* `Deployment`, `Deployment.settings`;
* `Refusal`, `Conditions.ofRefusals` — what the services of a rehearsal are told to refuse;
* `Site.rehearsal` — a stopped gateway among such services.
-/
import ConferenceAuth.Gateway.Lifecycle

set_option autoImplicit false

namespace ConferenceAuth

/-! ### Deployments -/

/-- A common way to deploy the gateway. -/
inductive Deployment where
  | disabled
  | xmpp
  | shibboleth
  | xmppAlwaysStart
  deriving DecidableEq, Repr

namespace Deployment

def settings : Deployment → Settings
  | disabled => []
  | xmpp => [(Property.loginUrl.name, "XMPP:auth.meet.example.com")]
  | shibboleth =>
      [(Property.loginUrl.name, "https://sso.example.com/Shibboleth.sso/Login"),
        (Property.logoutUrl.name, "https://sso.example.com/Shibboleth.sso/Logout"),
        (Property.disableAutologin.name, "true")]
  | xmppAlwaysStart =>
      [(Property.loginUrl.name, "XMPP:auth.meet.example.com"),
        (Property.httpAlwaysStart.name, "true")]

end Deployment

/-! ### Refusals -/

/-- What a service of a rehearsal may be told to refuse. -/
inductive Refusal where
  | publish
  /-- The registry refuses to withdraw, and the publication stays. -/
  | withdraw
  /-- The registry withdraws, but then misses another entry. -/
  | withdrawMissing
  | serverStart
  /-- Servers stop, but report a failure. -/
  | serverStop
  deriving DecidableEq, Repr

namespace Refusal

def publishError : HostError :=
  .registry ("publish of " ++ authorityService ++ " refused by mock")

def withdrawError : HostError := .registry "withdraw refused"

def serverStartError : GatewayError := .server "start refused"

def serverStopError : GatewayError := .server "stop refused"

/-- Why the servers of a failing factory refuse to start. -/
def failingFactory : ServerFactory := .refusing "mock start failure"

end Refusal

/-- The conditions under which some things are refused. -/
def Conditions.ofRefusals (config : ConfigSource) (runtime : Bool) (rs : List Refusal) :
    Conditions where
  config
  runtime
  publish := if rs.contains .publish then some Refusal.publishError else none
  withdraw :=
    if rs.contains .withdraw then .refused Refusal.withdrawError
    else if rs.contains .withdrawMissing then .misses
    else .works
  serverStart := if rs.contains .serverStart then some Refusal.serverStartError else none
  serverStop := if rs.contains .serverStop then some Refusal.serverStopError else none

/-- A stopped gateway among services that record what is asked of them. -/
def Site.rehearsal (sessionIds entryIds : IdSource) (factory : ServerFactory) : Site :=
  { sessionIds, entryIds, factory }

end ConferenceAuth
