/-
**Chains of handlers.**

The embedded server has one row of handlers.  They are composed from the back: each handler answers
the paths that it knows and passes all other requests on to what stands behind it, and at the end of
the row nothing is found.

Main definitions:

* `Router`, `Handler.router`, `Chain.router` — the composition;
* `Chain.ofAuthority` — the chain for the selected authority.

Main results:

* `Chain.router_cons` — the first handler decides about the paths that it knows.
-/
import ConferenceAuth.Http.Handler

set_option autoImplicit false

namespace ConferenceAuth

/-- What answers a request and what it changes. -/
abbrev Router := Request → Backend → Response × Backend

/-- The router that finds nothing. -/
def Router.nothing : Router := fun _ b => (.notFound, b)

/-- A handler with a router behind it. -/
def Handler.router (h : Handler) (rest : Router) : Router := fun r b =>
  match h.endpoint? r.path with
  | some e => e.serve r b
  | none => rest r b

abbrev Chain := List Handler

namespace Chain

/-- **The handlers of a chain composed from the back.** -/
def router (c : Chain) : Router := c.foldr Handler.router Router.nothing

@[simp] theorem router_nil : router [] = Router.nothing := rfl

/-- The first handler decides about the paths that it knows. -/
theorem router_cons (h : Handler) (c : Chain) : router (h :: c) = h.router (router c) := rfl

def kinds (c : Chain) : List HandlerKind := c.map Handler.kind

/-- The chain for an authority, or for none, with the connector that it needs: the login of a single
sign-on authority, and always the health checks behind it. -/
def ofAuthority (health : HealthRef) (authority : Option (AuthorityRef × AuthorityKind)) :
    Chain × Option Connector :=
  match authority with
  | some (r, .shibboleth) => ([.login r, .health health], AuthorityKind.shibboleth.extraConnector)
  | some (_, .xmppDomain) => ([.health health], AuthorityKind.xmppDomain.extraConnector)
  | none => ([.health health], none)

end Chain

end ConferenceAuth
