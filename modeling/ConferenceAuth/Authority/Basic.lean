/-
**Authorities.**

An authority is the selected variant together with a keeper of sessions.  Both kinds share the
keeper; they differ in whom they let in.  Single sign-on has already authenticated whoever is
forwarded to it, whereas an XMPP authority lets in the users of its own domain.

Main definitions:

* `Authority`, `Authority.ofVariant`, `Authority.create?`;
* `Authority.trusts` — whom an authority lets in;
* `Authority.display` — its description.
-/
import ConferenceAuth.Authority.Jid
import ConferenceAuth.Authority.Variant
import ConferenceAuth.Config.Gateway
import ConferenceAuth.Session.Keeper

set_option autoImplicit false

namespace ConferenceAuth

/-- An authority: the selected variant with the sessions that it has opened. -/
structure Authority where
  variant : AuthorityVariant
  keeper : Keeper

namespace Authority

def kind (a : Authority) : AuthorityKind := a.variant.kind

/-- An authority of a variant, not running and without sessions. -/
def ofVariant (variant : AuthorityVariant) (config : GatewayConfig) : Authority where
  variant
  keeper := { lifetime := config.lifetime, disableAutologin := config.disableAutologin }

/-- **The authority that the settings ask for**, not running and without sessions. -/
def create? (config : GatewayConfig) : Option Authority :=
  (AuthorityVariant.select config.loginUrl config.logoutUrl).map fun v => ofVariant v config

/-- Whether an authority lets an identity in. -/
def trusts (a : Authority) (identity : String) : Bool :=
  match a.variant with
  | .shibboleth _ _ => true
  | .xmppDomain domain => Jid.trustedBy domain identity

/-- The description of an authority. -/
def display (a : Authority) : String :=
  match a.variant with
  | .shibboleth loginUrl _ => "Shibboleth authority (login: " ++ loginUrl ++ ")"
  | .xmppDomain domain => "XMPP domain authority (domain: " ++ domain ++ ")"

def session? (a : Authority) (id : String) : Option Session := a.keeper.sessions.find? id

/-- The authority and the metrics after a step of its keeper. -/
def withKeeper (a : Authority) (k : Keeper × Metrics) : Authority × Metrics :=
  ({ a with keeper := k.1 }, k.2)

@[simp] theorem variant_ofVariant (v : AuthorityVariant) (config : GatewayConfig) :
    (ofVariant v config).variant = v := rfl

@[simp] theorem running_ofVariant (v : AuthorityVariant) (config : GatewayConfig) :
    (ofVariant v config).keeper.running = false := rfl

@[simp] theorem sessions_ofVariant (v : AuthorityVariant) (config : GatewayConfig) :
    (ofVariant v config).keeper.sessions = .empty := rfl

end Authority

end ConferenceAuth
