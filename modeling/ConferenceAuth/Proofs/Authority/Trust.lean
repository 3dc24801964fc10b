/-
**Whom an XMPP authority lets in.**

The domain part of an address is what stands behind the last at sign of its bare form, or all of the
bare form where there is no at sign.  An XMPP authority lets in whoever has the domain part that the
login address names behind the scheme.  Nothing keeps that from being empty: behind the bare scheme
there is the empty domain, and the addresses of that domain are those that name no domain at all.

Main definitions:

* `Jid.DomainPart` — the domain part of an address, without a computation;
* `Caller`, `Backend.admitAll` — those who ask to be let in, and the sessions that are opened for
  them.

Main results:

* `Jid.domain_eq_iff` — the domain that is computed is the domain part;
* `AuthorityVariant.domainOf?_eq_some` — a domain stands behind the scheme;
* `Backend.callers_admitAll` — sessions are opened for those who are trusted, and for nobody else;
* `empty_domain_only_behind_bare_scheme` — **an identity without a domain is let in only by an
  authority whose login address is the bare scheme**.
-/
import ConferenceAuth.Backend

set_option autoImplicit false

namespace ConferenceAuth

/-! ### The domain part of an address -/

/-- What stands before the first occurrence of a character. -/
theorem takeWhile_bne_eq_iff {x : Char} {l front : List Char} :
    l.takeWhile (· != x) = front ↔
      x ∉ front ∧ (l = front ∨ ∃ back, l = front ++ x :: back) := by
  constructor
  · rintro rfl
    induction l with
    | nil => simp
    | cons y l ih =>
        by_cases hy : y = x
        · simp [hy]
        · rw [List.takeWhile_cons, if_pos (bne_iff_ne.2 hy), List.mem_cons, not_or]
          exact ⟨⟨Ne.symm hy, ih.1⟩, ih.2.imp (congrArg _) fun ⟨back, hl⟩ => ⟨back, congrArg _ hl⟩⟩
  · rintro ⟨hx, hl⟩
    have hfront : ∀ y ∈ front, (y != x) = true := fun y hy => bne_iff_ne.2 fun e => hx (e ▸ hy)
    rcases hl with rfl | ⟨back, rfl⟩
    · simpa using @List.takeWhile_append_of_pos _ (· != x) l [] hfront
    · rw [List.takeWhile_append_of_pos hfront]
      simp

namespace Jid

/-- **The domain part of an address**: of what stands before the first slash, the text behind the
last at sign, or all of it where there is none. -/
def DomainPart (jid d : List Char) : Prop :=
  ∃ front, ('/' ∉ front ∧ (jid = front ∨ ∃ resource, jid = front ++ '/' :: resource)) ∧
    '@' ∉ d ∧ (front = d ∨ ∃ user, front = user ++ '@' :: d)

/-- The domain that is computed is the domain part. -/
theorem domain_eq_iff {jid d : List Char} : domain jid = d ↔ DomainPart jid d := by
  have hbehind : domain jid = d ↔
      '@' ∉ d ∧ (bare jid = d ∨ ∃ user, bare jid = user ++ '@' :: d) := by
    rw [domain, List.reverse_eq_iff, takeWhile_bne_eq_iff, List.mem_reverse, List.reverse_inj]
    refine and_congr_right fun _ => or_congr_right ⟨?_, ?_⟩
    · rintro ⟨back, h⟩
      exact ⟨back.reverse, by simpa using congrArg List.reverse h⟩
    · rintro ⟨user, h⟩
      exact ⟨user.reverse, by simp [h]⟩
  rw [hbehind]
  constructor
  · intro h
    exact ⟨bare jid, takeWhile_bne_eq_iff.1 rfl, h⟩
  · rintro ⟨front, hfront, h⟩
    rw [show bare jid = front from takeWhile_bne_eq_iff.2 hfront]
    exact h

example : ["", "alice@", "/resource"].map (fun jid => domain jid.toList) = [[], [], []] := by decide

end Jid

/-! ### The domain of a login address -/

/-- **A domain stands behind the scheme** of the login address, in any letter case. -/
theorem AuthorityVariant.domainOf?_eq_some {url domain : String} (h : domainOf? url = some domain) :
    ∃ scheme, url = scheme ++ domain ∧
      Text.sameLetters scheme.toList xmppScheme.toList = true := by
  unfold domainOf? at h
  split at h
  · next scheme rest hsplit =>
    split at h
    · next hscheme =>
      cases h
      obtain ⟨hurl, -⟩ := Text.splitAtByte?_eq_some_iff.1 hsplit
      refine ⟨String.ofList scheme, ?_, by rw [String.toList_ofList]; exact hscheme⟩
      rw [← String.ofList_append, ← hurl, String.ofList_toList]
    · cases h
  · cases h

/-- An XMPP authority has the domain of the login address. -/
theorem Authority.domain_of_create? {config : GatewayConfig} {a : Authority}
    (ha : create? config = some a) (hkind : a.kind = .xmppDomain) :
    ∃ scheme domain, config.loginUrl = some (scheme ++ domain) ∧
      Text.sameLetters scheme.toList AuthorityVariant.xmppScheme.toList = true ∧
      a.variant = .xmppDomain domain := by
  obtain ⟨v, hv, rfl⟩ := Option.map_eq_some_iff.1 ha
  obtain ⟨url, hurl, rfl⟩ := Option.map_eq_some_iff.1 hv
  obtain ⟨hurl, -⟩ := Option.filter_eq_some_iff.1 hurl
  cases hdomain : AuthorityVariant.domainOf? url with
  | none =>
      -- such an address selects single sign-on
      simp [kind, ofVariant, AuthorityVariant.ofLoginUrl, hdomain, AuthorityVariant.kind] at hkind
  | some domain =>
      obtain ⟨scheme, rfl, hscheme⟩ := AuthorityVariant.domainOf?_eq_some hdomain
      exact ⟨scheme, domain, hurl, hscheme, by simp [AuthorityVariant.ofLoginUrl, hdomain]⟩

/-! ### Those who ask to be let in -/

/-- Somebody who asks to be let in. -/
structure Caller where
  machineUid : String
  identity : String
  room : String
  deriving DecidableEq, Repr

/-- The one for whom a session has been opened. -/
def Session.caller (s : Session) : Caller := ⟨s.machineUid, s.identity, s.room⟩

namespace Backend

/-- **Callers are let in or refused one by one**; the sessions that are opened for them, in order. -/
def admitAll (b : Backend) (r : AuthorityRef) : List Caller → List Session × Backend
  | [] => ([], b)
  | c :: cs =>
      let (opened, b') := b.authenticate r c.machineUid c.identity c.room
      let (later, b'') := b'.admitAll r cs
      (opened.toList ++ later, b'')

theorem opened_admitAll_cons (b : Backend) (r : AuthorityRef) (c : Caller) (cs : List Caller) :
    (b.admitAll r (c :: cs)).1 =
      (b.authenticate r c.machineUid c.identity c.room).1.toList ++
        ((b.authenticate r c.machineUid c.identity c.room).2.admitAll r cs).1 := rfl

variable {b : Backend} {r : AuthorityRef} {a : Authority}

/-- A session is opened for a caller who is trusted, and the authority remains what it is. -/
theorem caller_authenticate (ha : b.authority? r = some a) (c : Caller) :
    (b.authenticate r c.machineUid c.identity c.room).1.toList.map Session.caller =
        (if a.trusts c.identity then [c] else []) ∧
      ∃ a', (b.authenticate r c.machineUid c.identity c.room).2.authority? r = some a' ∧
        a'.variant = a.variant := by
  unfold authenticate
  rw [ha, Option.any_some]
  split
  · exact ⟨rfl, _, authority?_openSession ha c.machineUid c.identity c.room, rfl⟩
  · exact ⟨rfl, a, ha, rfl⟩

/-- **Sessions are opened for the trusted callers**, in their order, and for nobody else. -/
theorem callers_admitAll (ha : b.authority? r = some a) (callers : List Caller) :
    (b.admitAll r callers).1.map Session.caller = callers.filter fun c => a.trusts c.identity := by
  induction callers generalizing b a with
  | nil => rfl
  | cons c callers ih =>
      obtain ⟨hopened, a', ha', hvariant⟩ := caller_authenticate ha c
      have htrusts : a'.trusts = a.trusts := by
        unfold Authority.trusts
        rw [hvariant]
      rw [opened_admitAll_cons, List.map_append, hopened, ih ha', htrusts, List.filter_cons]
      split <;> rfl

end Backend

/-! ### The empty domain -/

/-- What is trusted has the trusted domain for its domain part, up to letter case. -/
theorem Jid.trustedBy_iff {trusted jid : String} :
    trustedBy trusted jid = true ↔
      ∃ d, DomainPart jid.toList d ∧ Text.sameLetters d trusted.toList = true := by
  constructor
  · intro h
    exact ⟨_, domain_eq_iff.1 rfl, h⟩
  · rintro ⟨d, hd, h⟩
    rw [trustedBy, domain_eq_iff.2 hd]
    exact h

/-- An identity of a trusted domain has an empty domain part exactly if that domain is empty. -/
theorem Jid.domainPart_nil_iff {trusted jid : String} (h : trustedBy trusted jid = true) :
    DomainPart jid.toList [] ↔ trusted = "" := by
  -- both are equally long
  rw [← domain_eq_iff, ← List.length_eq_zero_iff, Text.length_eq_of_sameLetters h,
    List.length_eq_zero_iff, String.toList_eq_nil_iff]

/-- **An identity without a domain is let in only behind the bare scheme.**  Take any settings that
ask for an XMPP authority, and any row of callers with any identities.  The login address consists
of the scheme, in any letter case, and a domain; and

* a session is opened for a caller exactly if the domain part of the identity is that domain, up to
  letter case;
* if the domain is not empty, no session is opened for an identity whose domain part is empty;
* if it is empty, so that the login address is the bare scheme, every session that is opened is that
  of an identity whose domain part is empty. -/
theorem empty_domain_only_behind_bare_scheme {config : GatewayConfig} {a : Authority}
    (ha : Authority.create? config = some a) (hkind : a.kind = .xmppDomain) (b : Backend)
    (callers : List Caller) :
    ∃ scheme domain, config.loginUrl = some (scheme ++ domain) ∧
      Text.sameLetters scheme.toList AuthorityVariant.xmppScheme.toList = true ∧
      (∀ c ∈ callers, (∃ s ∈ ((b.enroll a).admitAll b.nextRef callers).1, s.caller = c) ↔
        ∃ d, Jid.DomainPart c.identity.toList d ∧ Text.sameLetters d domain.toList = true) ∧
      (domain ≠ "" → ∀ s ∈ ((b.enroll a).admitAll b.nextRef callers).1,
        ¬ Jid.DomainPart s.identity.toList []) ∧
      (domain = "" → ∀ s ∈ ((b.enroll a).admitAll b.nextRef callers).1,
        Jid.DomainPart s.identity.toList []) := by
  obtain ⟨scheme, domain, hurl, hscheme, hvariant⟩ := Authority.domain_of_create? ha hkind
  have htrusts : ∀ identity, a.trusts identity = Jid.trustedBy domain identity := by
    intro identity
    unfold Authority.trusts
    rw [hvariant]
  have hcallers := Backend.callers_admitAll (b.authority?_enroll a) callers
  have hempty : ∀ s ∈ ((b.enroll a).admitAll b.nextRef callers).1,
      (Jid.DomainPart s.identity.toList [] ↔ domain = "") := by
    intro s hs
    have hcaller := List.mem_map_of_mem (f := Session.caller) hs
    rw [hcallers, List.mem_filter, htrusts] at hcaller
    exact Jid.domainPart_nil_iff hcaller.2
  refine ⟨scheme, domain, hurl, hscheme, fun c hc => ?_,
    fun hne s hs h => hne ((hempty s hs).1 h), fun h s hs => (hempty s hs).2 h⟩
  rw [← Jid.trustedBy_iff, ← htrusts, ← List.mem_map, hcallers, List.mem_filter]
  exact and_iff_right hc

/-- Of the users of an XMPP domain one is let in, whatever the letter case and the resource; an
address without a domain is refused. -/
theorem address_without_domain_refused :
    let config : GatewayConfig := { loginUrl := some "xmpp:auth.example.com" }
    let a := Authority.ofVariant (.xmppDomain "auth.example.com") config
    let b : Backend := { sessionIds := .numbered "session-" }
    let callers : List Caller :=
      [⟨"1", "alice@", "hall"⟩, ⟨"2", "bob@AUTH.example.com/laptop", "hall"⟩, ⟨"3", "", "hall"⟩]
    ((b.enroll a).admitAll b.nextRef callers).1.map (·.identity) =
        ["bob@AUTH.example.com/laptop"] ∧
      ∀ s ∈ ((b.enroll a).admitAll b.nextRef callers).1,
        ¬ Jid.DomainPart s.identity.toList [] := by
  intro config a b callers
  obtain ⟨scheme, domain, hurl, hscheme, -, hnonempty, -⟩ :=
    @empty_domain_only_behind_bare_scheme config a rfl rfl b callers
  refine ⟨by decide +kernel, hnonempty ?_⟩
  -- behind the scheme there are more than its five characters
  rintro rfl
  have hlength := Text.length_eq_of_sameLetters hscheme
  rw [String.append_empty] at hurl
  cases hurl
  exact absurd hlength (by decide)

/-- **Behind the bare scheme an address without a domain is let in.**  So it does not hold of every
XMPP authority that no session is opened for an identity whose domain part is empty. -/
theorem address_without_domain_admitted :
    ¬ ∀ (config : GatewayConfig) (a : Authority), Authority.create? config = some a →
      a.kind = .xmppDomain → ∀ (b : Backend) (callers : List Caller),
        ∀ s ∈ ((b.enroll a).admitAll b.nextRef callers).1,
          ¬ Jid.DomainPart s.identity.toList [] := by
  intro h
  let config : GatewayConfig := { loginUrl := some "XMPP:" }
  let b : Backend := { sessionIds := .numbered "session-" }
  have halice := h config (.ofVariant (.xmppDomain "") config) rfl rfl b
    [⟨"m1", "alice@", "room1"⟩] ⟨"session-0", "m1", "alice@", "room1", 0⟩
    (by decide +kernel)
  exact halice (Jid.domain_eq_iff.1 rfl)

end ConferenceAuth
