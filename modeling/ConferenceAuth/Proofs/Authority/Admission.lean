/-
**Whom an XMPP authority knows.**

An XMPP authority asks for no credentials; whoever has an address of its domain is let in.  So the
address that stands in a session is all that the session is worth.  It is the address that the
caller gave, letter for letter, and it has passed the test of the domain: whatever has happened to
the authority and around it in between, no session got into its store in another way.

Main definitions:

* `Backend.variant?` — the variant of an authority.

Main results:

* `Chain.variant?_run` — an authority stays what it is;
* `Backend.authenticate_of_trusts`, `Backend.authenticate_of_not_trusts` — who is let in is given a
  session, and who is not leaves no trace;
* `xmpp_authority_knows_trusted_addresses_only` — **every session of an XMPP authority is that of an
  address of its domain**.
-/
import ConferenceAuth.Proofs.Http.Disclosure

set_option autoImplicit false

namespace ConferenceAuth

/-! ### Authorities stay what they are -/

namespace Backend

/-- The variant of an authority. -/
def variant? (b : Backend) (r : AuthorityRef) : Option AuthorityVariant :=
  (b.authority? r).map (·.variant)

end Backend

/-- **Whatever happens to a chain and to what stands behind it, an authority stays what it is.** -/
theorem Chain.variant?_run {c : Chain} {b : Backend} {r : AuthorityRef} {v : AuthorityVariant}
    (h : b.variant? r = some v) (steps : List ChainStep) : (c.run b steps).variant? r = some v :=
  Chain.fixed_run (fun _ _ _ => rfl) h steps

/-! ### Who is let in -/

namespace Backend

variable {b : Backend} {r : AuthorityRef} {domain : String}

/-- An XMPP authority lets in the addresses of its domain. -/
theorem any_trusts_of_variant (h : b.variant? r = some (.xmppDomain domain)) (identity : String) :
    (b.authority? r).any (·.trusts identity) = Jid.trustedBy domain identity := by
  obtain ⟨x, hx, hv⟩ := Option.map_eq_some_iff.1 h
  rw [hx, Option.any_some, Authority.trusts, hv]

theorem authenticate_of_trusts (h : b.variant? r = some (.xmppDomain domain)) {identity : String}
    (htrusted : Jid.trustedBy domain identity = true) (machineUid room : String) :
    b.authenticate r machineUid identity room =
      (some (b.newSession machineUid identity room),
        (b.openSession r machineUid identity room).2) := by
  rw [authenticate, if_pos (by rw [any_trusts_of_variant h, htrusted])]
  rfl

theorem authenticate_of_not_trusts (h : b.variant? r = some (.xmppDomain domain))
    {identity : String} (htrusted : ¬ Jid.trustedBy domain identity = true)
    (machineUid room : String) : b.authenticate r machineUid identity room = (none, b) := by
  rw [authenticate, if_neg (by rw [any_trusts_of_variant h]; exact htrusted)]

end Backend

/-! ### Whose sessions an XMPP authority has -/

/-- **An XMPP authority knows trusted addresses only.**  Let an XMPP authority of any domain be
built, with any lifetime and whether or not sessions end with their conference, in a backend whose
session identifiers are distinct and whose stored sessions have theirs from there, behind a chain
with authorities of its own.  Then let any steps be taken: sessions are asked for with any
addresses, conferences end, the authority is started and stopped, time passes, and the same befalls
all the others.  Afterwards

* every session that the authority stores was handed out by it in one of the steps, to a caller who
  gave exactly the address that stands in it, and the domain of the authority accepts this address;
* every session that a look-up finds there is one of them;
* whoever asks for a session next is given one exactly if the domain accepts the address.  It has
  the machine, the address and the room that were given, and just this session is stored more;
* and if the domain does not accept the address, nothing at all has changed. -/
theorem xmpp_authority_knows_trusted_addresses_only (domain : String) (config : GatewayConfig)
    {c : Chain} {b : Backend} (hids : b.sessionIds.Distinct)
    (hissued : ∀ a s, b.Stores a s → b.sessionIds.HasIssued s.id)
    (hbound : ∀ a, .login a ∈ c → (b.authority? a).isSome = true) (steps : List ChainStep) :
    let r := b.nextRef
    let start := b.enroll (.ofVariant (.xmppDomain domain) config)
    let now := c.run start steps
    (∀ s, now.Stores r s → Jid.trustedBy domain s.identity = true ∧
      ∃ done rest, steps = done ++ .authenticate r s.machineUid s.identity s.room :: rest ∧
        ((c.run start done).authenticate r s.machineUid s.identity s.room).1 = some s) ∧
    (∀ id s, now.session? r id = some s → now.Stores r s ∧ s.id = id) ∧
    ∀ machineUid jid room,
      let opened := (now.authenticate r machineUid jid room).1
      let after := (now.authenticate r machineUid jid room).2
      (opened.isSome = true ↔ Jid.trustedBy domain jid = true) ∧
      (∀ s, opened = some s →
        s.machineUid = machineUid ∧ s.identity = jid ∧ s.room = room ∧ ¬ now.Stores r s ∧
          ∀ a s', after.Stores a s' ↔ now.Stores a s' ∨ (a = r ∧ s' = s)) ∧
      (¬ Jid.trustedBy domain jid = true → opened = none ∧ after = now) := by
  intro r start now
  have hkept : ∀ done, (c.run start done).variant? r = some (.xmppDomain domain) :=
    Chain.variant?_run (by rw [Backend.variant?, Backend.authority?_enroll]; rfl)
  have hstart : c.InOrder start :=
    ⟨hids, fun a s hs => hissued a s (Backend.stores_of_stores_enroll hs), fun a ha =>
      Backend.isSome_authority?_tend (hbound a ha) (.enroll (.xmppDomain domain) config)⟩
  have hnone : b.authority? r = none := b.authority?_nextRef
  refine ⟨fun s hs => ?_, fun _ _ => Backend.session?_eq_some_iff.1, fun machineUid jid room => ?_⟩
  · -- the session is not from before, since the authority is new
    have hnot : ¬ start.Stores r s := by
      intro hs
      obtain ⟨x, hx, -⟩ := Backend.stores_of_stores_enroll hs
      rw [hnone] at hx
      cases hx
    obtain ⟨done, st, rest, rfl, hanswers⟩ := (hstart.answers_of_stores_run hs).resolve_left hnot
    cases st with
    | request req =>
        -- and no login of the chain is at the new authority
        have hthere := hbound r hanswers.1
        rw [hnone] at hthere
        cases hthere
    | authenticate a machineUid jid room =>
        obtain ⟨rfl, hopened⟩ := hanswers
        by_cases htrusted : Jid.trustedBy domain jid = true
        · rw [Backend.authenticate_of_trusts (hkept done) htrusted, Option.some.injEq] at hopened
          subst hopened
          refine ⟨htrusted, done, rest, rfl, ?_⟩
          exact congrArg Prod.fst (Backend.authenticate_of_trusts (hkept done) htrusted _ _)
        · rw [Backend.authenticate_of_not_trusts (hkept done) htrusted] at hopened
          cases hopened
    | tend u => exact absurd hanswers not_false
  · have horder : c.InOrder now := hstart.run steps
    have hthere : (now.authority? r).isSome = true := by
      rw [← Option.isSome_map (f := Authority.variant)]
      exact Option.isSome_iff_exists.2 ⟨_, hkept steps⟩
    by_cases htrusted : Jid.trustedBy domain jid = true
    · rw [Backend.authenticate_of_trusts (hkept steps) htrusted]
      refine ⟨iff_of_true rfl htrusted, fun s hs => ?_, fun h => absurd htrusted h⟩
      cases hs
      exact ⟨rfl, rfl, rfl, fun hs => horder.ne_current hs rfl,
        Backend.stores_openSession_iff hthere (fun _ _ hs => horder.ne_current hs)
          machineUid jid room⟩
    · rw [Backend.authenticate_of_not_trusts (hkept steps) htrusted]
      refine ⟨iff_of_false Bool.false_ne_true htrusted, fun s hs => ?_, fun _ => ⟨rfl, rfl⟩⟩
      cases hs

/-- Alice is let in under the address that she gave, in its own letter case, and is still known when
the sweeper has run; Mallory, from elsewhere, was refused, and would be refused again. -/
theorem alice_is_known_by_the_address_she_gave :
    let config : GatewayConfig := { loginUrl := some "XMPP:auth.example.com" }
    let b : Backend := { sessionIds := .numbered "session-" }
    let start := b.enroll (.ofVariant (.xmppDomain "auth.example.com") config)
    let steps : List ChainStep :=
      [.tend (.start 0 true), .authenticate 0 "m1" "alice@AUTH.example.com/laptop" "hall",
        .authenticate 0 "m2" "mallory@example.com" "hall", .tend (.elapse 60000)]
    let now := Chain.run [] start steps
    (now.session? 0 "session-0").map (·.identity) = some "alice@AUTH.example.com/laptop" ∧
      (∀ s, now.Stores 0 s → Jid.trustedBy "auth.example.com" s.identity = true) ∧
      now.authenticate 0 "m2" "mallory@example.com" "hall" = (none, now) := by
  intro config b start steps now
  obtain ⟨hknown, -, hnext⟩ := xmpp_authority_knows_trusted_addresses_only "auth.example.com" config
    (c := []) (b := b) (IdSource.distinct_numbered "session-")
    (fun _ _ ⟨_, hx, _⟩ => nomatch hx) (fun _ h => nomatch h) steps
  refine ⟨by decide +kernel, fun s hs => (hknown s hs).1, ?_⟩
  obtain ⟨hopened, hafter⟩ := (hnext "m2" "mallory@example.com" "hall").2.2 (by decide +kernel)
  exact Prod.ext hopened hafter

end ConferenceAuth
