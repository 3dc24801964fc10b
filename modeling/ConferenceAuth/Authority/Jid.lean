/-
**Addresses of XMPP users.**

An address has the form `user@domain/resource`, of which the user and the resource may be missing.
Its domain is what stands before the first slash and behind the last at sign before it.

Main definitions:

* `Jid.bare`, `Jid.domain`;
* `Jid.trustedBy` — whether an address belongs to a domain, up to the case of ASCII letters.

Main results:

* `Jid.trustedBy_append_resource` — a resource does not matter.
-/
import ConferenceAuth.Text.LetterCase

set_option autoImplicit false

namespace ConferenceAuth

namespace Jid

/-- An address without its resource: what stands before the first slash. -/
def bare (jid : List Char) : List Char := jid.takeWhile (· != '/')

/-- The domain of an address: what stands behind the last at sign before the resource. -/
def domain (jid : List Char) : List Char := ((bare jid).reverse.takeWhile (· != '@')).reverse

/-- **Whether an address belongs to a domain.** -/
def trustedBy (trusted jid : String) : Bool :=
  Text.sameLetters (domain jid.toList) trusted.toList

/-- What follows a text without a slash decides only whether its bare form goes on. -/
theorem bare_append {cs rest : List Char} (h : '/' ∉ cs) : bare (cs ++ rest) = cs ++ bare rest :=
  List.takeWhile_append_of_pos fun _ hc => bne_iff_ne.2 fun e => h (e ▸ hc)

/-- An address without a slash is its own bare form. -/
theorem bare_eq_self {cs : List Char} (h : '/' ∉ cs) : bare cs = cs := by
  simpa [bare] using @bare_append cs [] h

/-- A resource is not part of the bare form. -/
theorem bare_append_resource {cs rest : List Char} (h : '/' ∉ cs) :
    bare (cs ++ '/' :: rest) = cs := by
  rw [bare_append h]
  simp [bare]

/-- A resource does not matter. -/
theorem trustedBy_append_resource {trusted : String} {cs rest : List Char} (h : '/' ∉ cs) :
    trustedBy trusted (String.ofList (cs ++ '/' :: rest)) =
      trustedBy trusted (String.ofList cs) := by
  simp only [trustedBy, String.toList_ofList, domain, bare_append_resource h, bare_eq_self h]

end Jid

end ConferenceAuth
