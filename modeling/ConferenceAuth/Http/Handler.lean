/-
**Request handlers.**

There are two handlers: the login of a single sign-on authority and the health checks.  A handler
knows the paths that it serves; each of them is an endpoint, bound to the authority or health state
of the handler.

Main definitions:

* `Endpoint`, `Endpoint.answer` — what stands behind a path;
* `HandlerKind`, `Handler`, `Handler.endpoint?`;
* `Endpoint.serve` — the methods that an endpoint takes.
-/
import ConferenceAuth.Http.Login

set_option autoImplicit false

namespace ConferenceAuth

/-! ### Endpoints -/

/-- What stands behind a path. -/
inductive Endpoint where
  | login (authority : AuthorityRef)
  | report (health : HealthRef)
  | liveness (health : HealthRef)
  | readiness (health : HealthRef)
  deriving DecidableEq, Repr

namespace Endpoint

/-- The status of a check. -/
def checkStatus (passed : Bool) : Nat := if passed then 200 else 503

def boolText (b : Bool) : String := if b then "true" else "false"

/-- The report of a health state. -/
def reportBody (h : Health) : String :=
  "\x7b\"live\":" ++ boolText h.live ++ ",\"ready\":" ++ boolText h.ready ++ "\x7d"

/-- The answer of an endpoint, and what it changes. -/
def answer (e : Endpoint) (r : Request) (b : Backend) : Response × Backend :=
  match e with
  | login authority => Login.respond authority r b
  | report h => (.json (checkStatus (b.health h).healthy) (reportBody (b.health h)), b)
  | liveness h => (.bare (checkStatus (b.health h).live), b)
  | readiness h => (.bare (checkStatus (b.health h).ready), b)

/-- **The answer of an endpoint by method**: a `HEAD` request is answered like a `GET` request, but
without the body, and no other method is taken. -/
def serve (e : Endpoint) (r : Request) (b : Backend) : Response × Backend :=
  if r.method = "GET" then e.answer r b
  else if r.method = "HEAD" then
    let (response, b') := e.answer r b
    (response.withoutBody, b')
  else (.methodNotAllowed, b)

end Endpoint

/-! ### Handlers -/

inductive HandlerKind where
  | login
  | health
  deriving DecidableEq, Repr

def HandlerKind.name : HandlerKind → String
  | login => "shibboleth_login"
  | health => "health_check"

/-- A handler, bound to what it serves. -/
inductive Handler where
  | login (authority : AuthorityRef)
  | health (state : HealthRef)
  deriving DecidableEq, Repr

namespace Handler

def kind : Handler → HandlerKind
  | login _ => .login
  | health _ => .health

/-- **The endpoint of a path**, if the handler knows the path. -/
def endpoint? : Handler → String → Option Endpoint
  | login authority, path => if path = "/login" then some (.login authority) else none
  | health state, path =>
      if path = "/about/health" then some (.report state)
      else if path = "/health" then some (.liveness state)
      else if path = "/ready" then some (.readiness state)
      else none

/-- Whether a handler knows a path depends on its kind only. -/
theorem isSome_endpoint?_eq {h h' : Handler} (path : String) (hk : h.kind = h'.kind) :
    (h.endpoint? path).isSome = (h'.endpoint? path).isSome := by
  cases h <;> cases h' <;> simp [kind] at hk <;> simp only [endpoint?] <;> grind

end Handler

end ConferenceAuth
