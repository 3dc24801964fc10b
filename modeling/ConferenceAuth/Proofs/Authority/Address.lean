/-
**How a trusted address is written.**

An address of an XMPP user comes from outside, with slashes and at signs in any number and order.
Its domain is found by two cuts, the first at the first slash and the second at the last at sign
before it, and either may be missing.  Here it is said how an address can be written that a domain
lets in, without a cut: it is the domain, in any case of its ASCII letters, with nothing or a text
that ends in an at sign and has no slash before it, and with nothing or a text that begins with a
slash behind it.

Main definitions:

* `Jid.Written` — an address as a text before the domain, the domain, and a text behind it.

Main results:

* `Jid.domainPart_iff_written` — the domain part of an address is the domain with which it can be
  written;
* `Jid.address_trusted_iff_written` — **an address is trusted exactly if it can be written with the
  trusted domain**; what stands behind a slash is never looked at.
-/
import ConferenceAuth.Proofs.Authority.Trust
import ConferenceAuth.Proofs.Text.LetterCase

set_option autoImplicit false

namespace ConferenceAuth

namespace Jid

/-- **An address is written with a domain**: what stands before the domain ends in an at sign and
has no slash, what stands behind it begins with a slash, and both may be missing. -/
structure Written (jid before domain behind : String) : Prop where
  whole : jid = before ++ domain ++ behind
  user : before = "" ∨ (∃ user, before = user ++ "@") ∧ '/' ∉ before.toList
  no_at : '@' ∉ domain.toList
  no_slash : '/' ∉ domain.toList
  resource : behind = "" ∨ ∃ resource, behind = "/" ++ resource

/-! ### The domain part of a written address -/

/-- The domain with which an address is written is its domain part. -/
theorem Written.domainPart {jid before domain behind : String}
    (h : Written jid before domain behind) : DomainPart jid.toList domain.toList := by
  obtain ⟨rfl, huser, hat, hslash, hresource⟩ := h
  refine ⟨before.toList ++ domain.toList, ⟨?_, ?_⟩, hat, ?_⟩
  · rw [List.mem_append, not_or]
    refine ⟨?_, hslash⟩
    obtain rfl | ⟨-, hbefore⟩ := huser
    · simp
    · exact hbefore
  · obtain rfl | ⟨resource, rfl⟩ := hresource
    · exact .inl (by simp)
    · exact .inr ⟨resource.toList, by simp⟩
  · obtain rfl | ⟨⟨user, rfl⟩, -⟩ := huser
    · exact .inl (by simp)
    · exact .inr ⟨user.toList, by simp⟩

/-- An address can be written with its domain part. -/
theorem DomainPart.written {jid domain : String} (h : DomainPart jid.toList domain.toList) :
    ∃ before behind, Written jid before domain behind := by
  obtain ⟨front, ⟨hslash, hjid⟩, hat, hfront⟩ := h
  have hbehind : ∃ behind : String, jid.toList = front ++ behind.toList ∧
      (behind = "" ∨ ∃ resource, behind = "/" ++ resource) := by
    obtain hjid | ⟨resource, hjid⟩ := hjid
    · exact ⟨"", by simpa using hjid, .inl rfl⟩
    · exact ⟨"/" ++ String.ofList resource, by simpa using hjid, .inr ⟨_, rfl⟩⟩
  obtain ⟨behind, hjid, hresource⟩ := hbehind
  have hbefore : ∃ before : String, front = before.toList ++ domain.toList ∧
      (before = "" ∨ ∃ user, before = user ++ "@") := by
    obtain rfl | ⟨user, rfl⟩ := hfront
    · exact ⟨"", by simp, .inl rfl⟩
    · exact ⟨String.ofList user ++ "@", by simp, .inr ⟨_, rfl⟩⟩
  obtain ⟨before, rfl, huser⟩ := hbefore
  rw [List.mem_append, not_or] at hslash
  have hwhole : jid = before ++ domain ++ behind := String.toList_inj.1 (by simpa using hjid)
  exact ⟨before, behind, hwhole, huser.imp_right fun h => ⟨h, hslash.1⟩, hat, hslash.2, hresource⟩

/-- **The domain part of an address is the domain with which it can be written.** -/
theorem domainPart_iff_written {jid domain : String} :
    DomainPart jid.toList domain.toList ↔ ∃ before behind, Written jid before domain behind :=
  ⟨DomainPart.written, fun ⟨_, _, h⟩ => h.domainPart⟩

/-! ### Trusted addresses -/

/-- An address is trusted for a domain part that is the trusted domain up to letter case. -/
theorem trustedBy_iff_written {trusted jid : String} :
    trustedBy trusted jid = true ↔ ∃ before domain behind, Written jid before domain behind ∧
      List.Forall₂ Text.SameLetter domain.toList trusted.toList := by
  rw [trustedBy_iff]
  constructor
  · rintro ⟨d, hd, hsame⟩
    have hd' : DomainPart jid.toList (String.ofList d).toList := by rwa [String.toList_ofList]
    obtain ⟨before, behind, h⟩ := domainPart_iff_written.1 hd'
    refine ⟨before, String.ofList d, behind, h, ?_⟩
    rw [String.toList_ofList]
    exact Text.sameLetters_iff_forall₂.1 hsame
  · rintro ⟨before, domain, behind, h, hsame⟩
    exact ⟨domain.toList, domainPart_iff_written.2 ⟨before, behind, h⟩,
      Text.sameLetters_iff_forall₂.2 hsame⟩

/-- What stands behind a slash does not matter. -/
theorem trustedBy_behind_slash {trusted front : String} (h : '/' ∉ front.toList)
    (behind : String) : trustedBy trusted (front ++ "/" ++ behind) = trustedBy trusted front := by
  have hsplit : front ++ "/" ++ behind = String.ofList (front.toList ++ '/' :: behind.toList) :=
    String.toList_inj.1 (by simp)
  rw [hsplit, trustedBy_append_resource h, String.ofList_toList]

/-- **An address is trusted exactly if it can be written with the trusted domain.**  Take any
trusted domain.

* An address is trusted if and only if it can be written with a domain that has no at sign and no
  slash, and that is the trusted domain but for the case of ASCII letters.
* So of an address only what stands before its first slash matters.
* However a trusted address is written, it has the characters beyond ASCII that the trusted domain
  has, at the same places.
* A trusted domain with an at sign or a slash trusts no address. -/
theorem address_trusted_iff_written (trusted : String) :
    (∀ jid, trustedBy trusted jid = true ↔ ∃ before domain behind,
      Written jid before domain behind ∧
        List.Forall₂ Text.SameLetter domain.toList trusted.toList) ∧
    (∀ front behind : String, '/' ∉ front.toList →
      trustedBy trusted (front ++ "/" ++ behind) = trustedBy trusted front) ∧
    (∀ jid before domain behind, trustedBy trusted jid = true →
      Written jid before domain behind → ∀ (i : Nat) (c : Char), 0x80 ≤ c.toNat →
        (domain.toList[i]? = some c ↔ trusted.toList[i]? = some c)) ∧
    ('@' ∈ trusted.toList ∨ '/' ∈ trusted.toList → ∀ jid, trustedBy trusted jid = false) := by
  refine ⟨fun jid => trustedBy_iff_written, fun front behind h => trustedBy_behind_slash h behind,
    ?_, ?_⟩
  · intro jid before domain behind htrusted h i c hc
    obtain ⟨d, hd, hsame⟩ := trustedBy_iff.1 htrusted
    rw [(domain_eq_iff.2 hd).symm.trans (domain_eq_iff.2 h.domainPart),
      Text.sameLetters_iff_forall₂] at hsame
    exact Text.getElem?_eq_some_iff_of_not_letter hsame (Text.not_letter_of_ascii_lt hc) i
  · intro hseparator jid
    rw [Bool.eq_false_iff, Ne, trustedBy_iff_written]
    rintro ⟨before, domain, behind, h, hsame⟩
    -- a separator of the trusted domain would stand in the domain of the address
    have hmem : ∀ {c : Char}, ¬ Text.Letter c → c ∈ trusted.toList → c ∈ domain.toList := by
      intro c hc hmem
      obtain ⟨i, hi⟩ := List.mem_iff_getElem?.1 hmem
      exact List.mem_iff_getElem?.2
        ⟨i, (Text.getElem?_eq_some_iff_of_not_letter hsame hc i).2 hi⟩
    obtain hat | hslash := hseparator
    · exact h.no_at (hmem (by unfold Text.Letter; decide) hat)
    · exact h.no_slash (hmem (by unfold Text.Letter; decide) hslash)

example :
    ["mallory@evil/x@trusted", "mallory@trusted@evil", "a@b@TRUSTED/@evil", "trusted/"].map
      (trustedBy "trusted") = [false, false, true, true] := by decide

end Jid

end ConferenceAuth
