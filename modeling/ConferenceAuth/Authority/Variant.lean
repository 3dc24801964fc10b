/-
**Which authority is wanted.**

The login address decides.  Without one there is no authority; behind the scheme `XMPP:`, in any
letter case, stands the domain of an XMPP server whose users are trusted; every other address,
however malformed, is that of a single sign-on page and is passed on as it is.

Main definitions:

* `AuthorityKind` — the two kinds of authority, and what each needs of the embedded server;
* `AuthorityVariant` — the selected authority with its addresses;
* `AuthorityVariant.select`.

Main results:

* `AuthorityVariant.select_eq_none_iff` — no authority is selected exactly without a login address.
-/
import ConferenceAuth.Connector
import ConferenceAuth.Text.ByteOffset

set_option autoImplicit false

namespace ConferenceAuth

/-! ### Kinds -/

/-- The kinds of authority. -/
inductive AuthorityKind where
  | shibboleth
  | xmppDomain
  deriving DecidableEq, Repr

namespace AuthorityKind

def name : AuthorityKind → String
  | shibboleth => "shibboleth"
  | xmppDomain => "xmpp_domain"

/-- Whether the kind needs the embedded server. -/
def requiresWebSurface : AuthorityKind → Bool
  | shibboleth => true
  | xmppDomain => false

/-- Whether users of the kind authenticate outside the conference signalling. -/
def isExternal : AuthorityKind → Bool
  | shibboleth => true
  | xmppDomain => false

/-- The connector that the kind needs besides the configured ones. -/
def extraConnector : AuthorityKind → Option Connector
  | shibboleth => some Connector.reverseProxy
  | xmppDomain => none

end AuthorityKind

/-! ### Variants -/

/-- The selected authority. -/
inductive AuthorityVariant where
  | shibboleth (loginUrl : String) (logoutUrl : Option String)
  | xmppDomain (domain : String)
  deriving DecidableEq, Repr

namespace AuthorityVariant

def kind : AuthorityVariant → AuthorityKind
  | shibboleth _ _ => .shibboleth
  | xmppDomain _ => .xmppDomain

/-- The scheme of a login address that names an XMPP domain. -/
def xmppScheme : String := "XMPP:"

/-- The domain that a login address names, if its first bytes are the scheme. -/
def domainOf? (loginUrl : String) : Option String :=
  match Text.splitAtByte? xmppScheme.utf8ByteSize loginUrl.toList with
  | some (scheme, domain) =>
      if Text.sameLetters scheme xmppScheme.toList then some (String.ofList domain) else none
  | none => none

/-- The authority that a login address selects. -/
def ofLoginUrl (loginUrl : String) (logoutUrl : Option String) : AuthorityVariant :=
  match domainOf? loginUrl with
  | some domain => .xmppDomain domain
  | none => .shibboleth loginUrl logoutUrl

/-- **The authority that the addresses select**, or none. -/
def select (loginUrl logoutUrl : Option String) : Option AuthorityVariant :=
  (loginUrl.filter (· ≠ "")).map fun url => ofLoginUrl url logoutUrl

/-- No authority is selected exactly without a login address. -/
theorem select_eq_none_iff {loginUrl logoutUrl : Option String} :
    select loginUrl logoutUrl = none ↔ loginUrl = none ∨ loginUrl = some "" := by
  cases loginUrl with
  | none => simp [select]
  | some url => simp [select]

end AuthorityVariant

end ConferenceAuth
