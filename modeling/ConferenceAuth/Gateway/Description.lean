/-
**Descriptions of a gateway.**

For logs, a gateway describes what it holds: its state, the selected variant, the entry that the
authority is published under, and whether there is a server.

Main definitions:

* `AuthorityVariant.debugText`, `RegistryEntry.debugText`, `Gateway.debugText`.
-/
import ConferenceAuth.Gateway.Site
import ConferenceAuth.Text.Quoted

set_option autoImplicit false

namespace ConferenceAuth

/-- A named value as descriptions show it, with its fields. -/
def describe (name : String) (fields : List String) : String :=
  name ++ " \x7b " ++ ", ".intercalate fields ++ " \x7d"

def AuthorityVariant.debugText : AuthorityVariant → String
  | shibboleth loginUrl logoutUrl =>
      describe "ShibbolethSso"
        ["login_url: " ++ Text.quoted loginUrl,
          "logout_url: " ++ Text.optional (logoutUrl.map Text.quoted)]
  | xmppDomain domain => describe "XmppDomain" ["domain: " ++ Text.quoted domain]

def RegistryEntry.debugText (e : RegistryEntry) : String :=
  describe "RegistryEntry" ["id: " ++ e.id, "service: " ++ Text.quoted e.service]

/-- **The description of a gateway.** -/
def Gateway.debugText (g : Gateway) : String :=
  describe "AuthGateway"
    ["state: " ++ g.state.debugText,
      "variant: " ++ Text.optional (g.variant.map (·.debugText)),
      "registration: " ++ Text.optional (g.registration.map (·.debugText)),
      "server_running: " ++ (if g.server.isSome then "true" else "false"),
      ".."]

end ConferenceAuth
