/-
**What becomes of the sessions of a period.**

From the start that has come to its end to the stop that follows it a gateway holds one authority,
and sessions are opened there.  The authority outlives the period, for it stays with those who have
looked it up.  But the stop has emptied it, and no identifier of a session is given out again; and
the next start builds an authority of its own.  So whoever shows an identifier of an earlier period
is unknown to everybody, whichever authority is asked.

Main definitions:

* `Site.Settled` — a gateway that is not up holds nothing;
* `Site.Opens` — an authority hands out a session;
* `Site.Remembers` — who knows an identifier in the course of a run.

Main results:

* `Site.enlarged_start` — **a start builds a new authority at most**, also when it fails;
* `Site.authority?_stop` — **a stop empties the held authority**, and no other one;
* `Visit.follows`, `Site.Logged.follows` — what is given out stays given out;
* `Site.Opens.session?_iff` — a new session is known to the authority that has opened it;
* `Site.Logged.remembers` — and to no other one, and not any more after a stop;
* `sessions_end_with_their_period` — **no session outlives its period**.
-/
import ConferenceAuth.Proofs.Backend.Succession
import ConferenceAuth.Proofs.Gateway.Tally
import ConferenceAuth.Proofs.Gateway.Unwinding

set_option autoImplicit false

namespace ConferenceAuth

/-! ### A start -/

namespace Progress

variable {b : Backend} {p : Progress}

theorem enlarged_startAuthority (h : b.Enlarged p.site.toBackend) (c : Conditions) :
    b.Enlarged (p.startAuthority c b.nextRef).2.site.toBackend := by
  rw [startAuthority_site, Site.toBackend_withBackend, Backend.startAuthority_eq_stepAt]
  exact h.stepAt b.authority?_nextRef rfl

theorem enlarged_finish (h : b.Enlarged p.site.toBackend) (c : Conditions) (policy : ServerPolicy)
    (kind : AuthorityKind) : b.Enlarged (p.finish c policy b.nextRef kind).2.site.toBackend := by
  have hstart := enlarged_startAuthority h c
  rcases p.finish_cases c policy b.nextRef kind with
    ⟨e, q, hq, heq⟩ | ⟨q, e, q', hq, hq', heq⟩ | ⟨q, q', hq, hq', heq⟩ <;>
    rw [heq] <;> rw [hq] at hstart
  · exact hstart
  all_goals
    -- the server does not concern the authorities
    obtain ⟨_, _, _, hsite⟩ := q.serve_site c policy b.nextRef kind
    rw [hq'] at hsite
    have hserved : b.Enlarged q'.site.toBackend := by
      rw [hsite]
      exact hstart
  · exact hserved
  · exact hserved.congr rfl rfl

/-- However far a start comes, it builds a new authority at most. -/
theorem enlarged_tryStart (p : Progress) (c : Conditions) :
    p.site.toBackend.Enlarged (p.tryStart c).2.site.toBackend := by
  cases ha : Authority.create? (GatewayConfig.resolve c.config) with
  | none =>
      rw [tryStart_of_disabled ha]
      exact (Backend.Enlarged.refl _).congr rfl rfl
  | some a =>
      obtain ⟨v, -, hv⟩ := Option.map_eq_some_iff.1 ha
      have hselected : p.site.toBackend.Enlarged
          ((p.configured.select a).enter .authoritySelected).site.toBackend := by
        rw [← hv]
        exact (p.site.toBackend.enlarged_enroll v _).congr rfl rfl
      have hpublished : p.site.toBackend.Enlarged
          (((p.configured.select a).enter .authoritySelected).published
            p.site.nextRef).site.toBackend := hselected.congr rfl rfl
      rw [tryStart_of_selected ha]
      split
      · exact hselected
      · exact enlarged_finish hpublished c _ a.kind

end Progress

namespace Site

/-- **A gateway that is not up holds nothing.** -/
def Settled (s : Site) : Prop := s.gateway = {} ∨ s.gateway.state.isStarted = true

/-- **A start builds a new authority at most**, without sessions, and leaves all others alone; also
when it fails and takes back what it has done. -/
theorem enlarged_start {s : Site} (hsettled : s.Settled) (c : Conditions) :
    s.toBackend.Enlarged (s.start c).site.toBackend := by
  rcases hsettled with hg | hup
  · have htry := Progress.enlarged_tryStart ⟨s, []⟩ c
    rcases hp : Progress.tryStart ⟨s, []⟩ c with ⟨e | _, p⟩ <;> rw [hp] at htry
    · rw [start_of_error hg hp]
      -- what is stopped on the way back is the new authority
      obtain ⟨_, _, _, hsite⟩ := p.stop_site c
      have hheld : p.site.gateway.authority = some s.nextRef := (Grown.tryStart hg hp).authority.1
      have hready : s.toBackend.Enlarged (p.site.toBackend.setReady gatewayHealth false) :=
        htry.congr rfl rfl
      have hstopped : s.toBackend.Enlarged
          ((p.site.toBackend.setReady gatewayHealth false).stopAuthority s.nextRef) := by
        rw [Backend.stopAuthority_eq_stepAt]
        exact hready.stepAt s.toBackend.authority?_nextRef rfl
      rw [hsite, hheld]
      exact hstopped.congr rfl rfl
    · rw [start_of_ok hg hp]
      exact htry
  · rw [start_of_isStarted hup]
    exact .refl s.toBackend

/-! ### A stop -/

/-- What a stop leaves of the authorities: it stops the held one. -/
theorem authority?_stop (s : Site) (c : Conditions) (a : AuthorityRef) :
    (s.stop c).site.authority? a = (s.authority? a).map fun x =>
      if s.gateway.authority = some a then
        { x with keeper := (x.keeper.stop s.metrics).1 } else x := by
  obtain ⟨_, _, _, hsite⟩ := Progress.stop_site ⟨s, []⟩ c
  show (Progress.stop ⟨s, []⟩ c).2.site.authority? a = _
  rw [hsite]
  cases s.gateway.authority with
  | none => simp only [reduceCtorEq, if_false, Option.map_id_fun', id_eq]; rfl
  | some r =>
      simp only [Option.some.injEq]
      exact (s.toBackend.setReady gatewayHealth false).authority?_stepAt r a .stop

theorem follows_stop (s : Site) (c : Conditions) :
    s.toBackend.Follows (s.stop c).site.toBackend := by
  obtain ⟨_, _, _, hsite⟩ := Progress.stop_site ⟨s, []⟩ c
  show s.toBackend.Follows (Progress.stop ⟨s, []⟩ c).2.site.toBackend
  rw [hsite]
  have hready := s.toBackend.follows_tend (.setReady gatewayHealth false)
  cases s.gateway.authority with
  | none => exact hready.congr rfl rfl
  | some r => exact (hready.trans (Backend.follows_tend _ (.stop r))).congr rfl rfl

/-! ### Runs -/

/-- Between its calls a gateway is up or holds nothing. -/
theorem Settled.act {s : Site} (h : s.Settled) (a : Action) : (s.act a).site.Settled := by
  cases a with
  | start c =>
      rcases h with hg | hup
      · obtain ⟨e, ho⟩ := took_start hg c
        exact ho.gateway
      · show (s.start c).site.Settled
        rw [start_of_isStarted hup]
        exact Or.inr hup
  | stop c => exact Or.inl (Progress.gateway_stop ⟨s, []⟩ c)

theorem follows_act {s : Site} (h : s.Settled) (a : Action) :
    s.toBackend.Follows (s.act a).site.toBackend := by
  cases a with
  | start c => exact (enlarged_start h c).follows
  | stop c => exact s.follows_stop c

end Site

/-- **Whatever others do, what comes after it follows.** -/
theorem Visit.follows {es : List Event} {s s' : Site} (hids : s.sessionIds.Distinct)
    (h : Visit es s s') : s.toBackend.Follows s'.toBackend := by
  cases h with
  | request c r => exact c.follows_router r hids
  | authenticate r machineUid identity room =>
      exact Backend.follows_authenticate hids r machineUid identity room
  | conferenceEnded r room => exact s.toBackend.follows_tend (.conferenceEnded r room)
  | elapse ms => exact s.toBackend.follows_tend (.elapse ms)
  | withdraw _ h =>
      obtain ⟨_, -, rfl⟩ := Site.eq_of_withdrawEntry h
      exact .refl s.toBackend
  | publish | draw | rewire => exact .refl s.toBackend

/-- **What is given out in a run stays given out**, and at its end the gateway is up or holds
nothing. -/
theorem Site.Logged.follows {s t : Site} {log : List (Action × Outcome)} (hsettled : s.Settled)
    (hids : s.sessionIds.Distinct) (h : Site.Logged s log t) :
    s.toBackend.Follows t.toBackend ∧ t.Settled := by
  induction h with
  | new => exact ⟨.refl s.toBackend, hsettled⟩
  | call _ a ih => exact ⟨ih.1.trans (Site.follows_act ih.2 a), ih.2.act a⟩
  | visit _ hv ih =>
      refine ⟨ih.1.trans (hv.follows (ih.1.distinct hids)), ?_⟩
      rw [Site.Settled, hv.same.1]
      exact ih.2

/-! ### A session that is handed out -/

/-- **An authority hands out a session**: to someone who holds the authority and asks for it, or by
the answer to a request that stores it there. -/
inductive Site.Opens (s : Site) (r : AuthorityRef) (x : Session) : Site → Prop
  | authenticate {machineUid identity room : String}
      (h : (s.toBackend.authenticate r machineUid identity room).1 = some x) :
      Site.Opens s r x (s.withBackend (s.toBackend.authenticate r machineUid identity room).2)
  | request {c : Chain} {q : Request} (hnot : ¬ s.toBackend.Stores r x)
      (hstores : (c.router q s.toBackend).2.Stores r x) :
      Site.Opens s r x (s.withBackend (c.router q s.toBackend).2)

namespace Site.Opens

variable {s t : Site} {r : AuthorityRef} {x : Session}

theorem visit (h : s.Opens r x t) : Visit [] s t := by
  cases h with
  | authenticate => exact .authenticate ..
  | request => exact .request ..

/-- **In both cases one session more is stored**, under the identifier that was next. -/
theorem stores_iff (hnew : ∀ a y, s.toBackend.Stores a y → y.id ≠ s.sessionIds.current)
    (h : s.Opens r x t) :
    x.id = s.sessionIds.current ∧ t.sessionIds = s.sessionIds.advance ∧
      ∀ a y, t.toBackend.Stores a y ↔ s.toBackend.Stores a y ∨ (a = r ∧ y = x) := by
  cases h with
  | @authenticate machineUid identity room h =>
      rcases s.toBackend.authenticate_cases r machineUid identity room with
        ⟨hthere, heq⟩ | heq <;> rw [heq] at h ⊢ <;> cases h
      exact ⟨rfl, rfl, Backend.stores_openSession_iff hthere hnew machineUid identity room⟩
  | @request c q hnot hstores =>
      rcases c.router_cases q s.toBackend with
        ⟨a, machineUid, identity, room, -, heq, -⟩ | ⟨has, -, -⟩
      · rw [heq] at hstores ⊢
        have hcreated : (s.toBackend.stepAt a
            (.create s.sessionIds.current machineUid identity room)).Stores r x := hstores
        rcases Backend.stores_of_stores_stepAt hcreated with hs | ⟨rfl, hx⟩
        · exact absurd hs hnot
        · cases hx
          obtain ⟨y, hy, -⟩ := hcreated
          have hthere : (s.authority? r).isSome = true := by
            rw [← s.toBackend.isSome_authority?_stepAt, hy]
            rfl
          exact ⟨rfl, rfl, Backend.stores_openSession_iff hthere hnew machineUid identity room⟩
      · rw [Backend.Stores, Backend.authority?, has] at hstores
        exact absurd hstores hnot

/-- **A new session is known to the authority that has opened it, and to no other one.** -/
theorem session?_iff (hids : s.sessionIds.Distinct)
    (hissued : ∀ a y, s.toBackend.Stores a y → s.sessionIds.HasIssued y.id) (h : s.Opens r x t) :
    t.sessionIds.HasIssued x.id ∧ ∀ a y, t.session? a x.id = some y ↔ a = r ∧ y = x := by
  have hnew : ∀ a y, s.toBackend.Stores a y → y.id ≠ s.sessionIds.current :=
    fun a y hy => hids.ne_current (hissued a y hy)
  obtain ⟨hid, hadvance, hstores⟩ := h.stores_iff hnew
  refine ⟨?_, fun a y => ?_⟩
  · rw [hid, hadvance]
    exact s.sessionIds.hasIssued_advance_current
  · rw [Backend.session?_eq_some_iff, hstores]
    constructor
    · rintro ⟨hy | hy, heq⟩
      · exact absurd (heq.trans hid) (hnew a y hy)
      · exact hy
    · rintro ⟨rfl, rfl⟩
      exact ⟨Or.inr ⟨rfl, rfl⟩, rfl⟩

end Site.Opens

/-! ### Who remembers it -/

/-- **Who knows an identifier in the course of a run** that begins while the gateway holds an
authority: this authority at most, and only as long as the gateway has not been stopped. -/
structure Site.Remembers (s : Site) (r : AuthorityRef) (id : String)
    (log : List (Action × Outcome)) (t : Site) : Prop where
  /-- Until it is stopped, the gateway stays as it is. -/
  gateway : (∀ o ∈ log, o.1.isStart = true) → t.gateway = s.gateway
  known : ∀ a y, t.session? a id = some y → a = r ∧ ∀ o ∈ log, o.1.isStart = true

namespace Site.Remembers

variable {s t : Site} {r : AuthorityRef} {id : String} {log : List (Action × Outcome)}

/-- A start while the gateway is up changes nothing, and a start after a stop brings nobody back. -/
theorem start (h : s.Remembers r id log t) (hup : s.gateway.state.isStarted = true)
    (hsettled : t.Settled) (hid : t.sessionIds.HasIssued id) (c : Conditions) (o : Outcome) :
    s.Remembers r id (log ++ [(.start c, o)]) (t.start c).site where
  gateway hall := by
    have hgateway := h.gateway fun o ho => hall o (List.mem_append_left _ ho)
    rw [Site.start_of_isStarted (hgateway ▸ hup)]
    exact hgateway
  known a y hy := by
    obtain ⟨ha, hall⟩ := h.known a y ((enlarged_start hsettled c).follows.session?_eq_some hid hy)
    refine ⟨ha, fun o' ho => ?_⟩
    rcases List.mem_append.1 ho with ho | ho
    · exact hall o' ho
    · rw [List.mem_singleton.1 ho]
      rfl

/-- A stop empties the one authority that has known it. -/
theorem stop (h : s.Remembers r id log t) (hheld : s.gateway.authority = some r)
    (hid : t.sessionIds.HasIssued id) (c : Conditions) (o : Outcome) :
    s.Remembers r id (log ++ [(.stop c, o)]) (t.stop c).site where
  gateway hall := nomatch hall _ (List.mem_append_right _ (List.mem_singleton_self _))
  known a y hy := by
    obtain ⟨rfl, hall⟩ := h.known a y ((t.follows_stop c).session?_eq_some hid hy)
    obtain ⟨⟨x, hx, hy⟩, -⟩ := Backend.session?_eq_some_iff.1 hy
    rw [authority?_stop, h.gateway hall, hheld] at hx
    obtain ⟨x, -, rfl⟩ := Option.map_eq_some_iff.1 hx
    rw [if_pos rfl] at hy
    cases hy

theorem visit {t' : Site} (h : s.Remembers r id log t) (hids : t.sessionIds.Distinct)
    (hid : t.sessionIds.HasIssued id) (hv : Visit [] t t') : s.Remembers r id log t' where
  gateway hall := hv.same.1.trans (h.gateway hall)
  known a y hy := h.known a y ((hv.follows hids).session?_eq_some hid hy)

end Site.Remembers

/-- **An identifier that only the held authority knows is known to it until the gateway is stopped,
and to nobody afterwards.** -/
theorem Site.Logged.remembers {s t : Site} {r : AuthorityRef} {id : String}
    {log : List (Action × Outcome)} (hids : s.sessionIds.Distinct)
    (hid : s.sessionIds.HasIssued id) (hup : s.gateway.state.isStarted = true)
    (hheld : s.gateway.authority = some r) (honly : ∀ a y, s.session? a id = some y → a = r)
    (h : Site.Logged s log t) : s.Remembers r id log t := by
  induction h with
  | new => exact ⟨fun _ => rfl, fun a y hy => ⟨honly a y hy, fun _ ho => nomatch ho⟩⟩
  | call h a ih =>
      obtain ⟨hfollows, hsettled⟩ := h.follows (Or.inr hup) hids
      cases a with
      | start c => exact ih.start hup hsettled (hfollows.hasIssued hid) c _
      | stop c => exact ih.stop hheld (hfollows.hasIssued hid) c _
  | visit h hv ih =>
      obtain ⟨hfollows, -⟩ := h.follows (Or.inr hup) hids
      exact ih.visit (hfollows.distinct hids) (hfollows.hasIssued hid) hv

/-! ### Periods -/

/-- **No session outlives its period.**  Take a new gateway, a source of distinct session
identifiers, and sessions that have theirs from there, if there are any.  Let the gateway be started
and stopped any number of times, each time under any conditions, with others at work in between, and
look at it between two calls.

* While it holds an authority, let this authority hand out a session.  It is known there, and
  nowhere else; and however the run goes on from here, the identifier is known to no other authority
  at any time, and once the gateway has been stopped, to no authority at all: not to those that were
  built since, and not to the one that had handed it out, which others may still refer to.
* A stop empties the authority that is held, which does not run afterwards, and leaves all others
  exactly as they are.
* A start leaves all authorities exactly as they are, also when it fails, and what it has built has
  no sessions. -/
theorem sessions_end_with_their_period {s₀ s : Site} {log : List (Action × Outcome)}
    (hg : s₀.gateway = {}) (hids : s₀.sessionIds.Distinct)
    (hissued : ∀ a y, s₀.toBackend.Stores a y → s₀.sessionIds.HasIssued y.id)
    (h : Site.Logged s₀ log s) :
    (∀ r x opened, s.gateway.authority = some r → s.Opens r x opened →
      (∀ a y, opened.session? a x.id = some y ↔ a = r ∧ y = x) ∧
      ∀ log' t, Site.Logged opened log' t →
        (∀ a, a ≠ r → t.session? a x.id = none) ∧
        ((∃ o ∈ log', o.1.isStart = false) → ∀ a, t.session? a x.id = none)) ∧
    (∀ c a x, s.authority? a = some x → ∃ y, (s.stop c).site.authority? a = some y ∧
      (s.gateway.authority = some a →
        y.keeper.sessions = .empty ∧ y.keeper.running = false) ∧
      (s.gateway.authority ≠ some a → y = x)) ∧
    ∀ c, s.toBackend.Enlarged (s.start c).site.toBackend := by
  obtain ⟨hfollows, hsettled⟩ := h.follows (Or.inl hg) hids
  have hids := hfollows.distinct hids
  have hissued := hfollows.hasIssued_of_stores hissued
  refine ⟨fun r x opened hheld hopens => ?_, fun c a x hx => ?_, Site.enlarged_start hsettled⟩
  · obtain ⟨hid, hknown⟩ := hopens.session?_iff hids hissued
    refine ⟨hknown, fun log' t h' => ?_⟩
    -- whoever opens a session leaves the gateway alone, and it is up, since it holds something
    have hgateway := hopens.visit.same.1
    have hup : s.gateway.state.isStarted = true := by
      rcases hsettled with hg | hup
      · rw [hg] at hheld
        cases hheld
      · exact hup
    have hremembers := h'.remembers ((hopens.visit.follows hids).distinct hids) hid
      (hgateway ▸ hup) (hgateway ▸ hheld) fun a y hy => ((hknown a y).1 hy).1
    refine ⟨fun a hne => ?_, fun ⟨o, ho, hstop⟩ a => ?_⟩ <;>
      refine Option.eq_none_iff_forall_ne_some.2 fun y hy => ?_ <;>
      obtain ⟨ha, hall⟩ := hremembers.known a y hy
    · exact hne ha
    · rw [hall o ho] at hstop
      cases hstop
  · rw [Site.authority?_stop, hx, Option.map_some]
    refine ⟨_, rfl, fun hheld => ?_, fun hnot => if_neg hnot⟩
    rw [if_pos hheld]
    exact ⟨rfl, rfl⟩

/-- Alice logs in, the gateway is stopped and started again, and Bob logs in.  Bob is known to the
new authority, which others have found in the meantime; Alice's identifier is known to nobody. -/
theorem alice_is_forgotten_after_a_restart :
    let c : Conditions := { config := .ofProperties Deployment.shibboleth.settings }
    let s₀ := Site.rehearsal (.numbered "session-") (.numbered "entry-") .recording
    let s := (s₀.start c).site
    let opened := s.withBackend (s.toBackend.authenticate 0 "m1" "alice@example.com" "hall").2
    let restarted := ((opened.stop c).site.start c).site
    let t := restarted.withBackend
      (restarted.toBackend.authenticate 1 "m2" "bob@example.com" "hall").2
    (opened.session? 0 "session-0").map (·.identity) = some "alice@example.com" ∧
      (t.session? 1 "session-1").map (·.identity) = some "bob@example.com" ∧
      ∀ a, t.session? a "session-0" = none := by
  intro c s₀ s opened restarted t
  have hlogged : Site.Logged s₀ [(.start c, s₀.start c)] s := .call .new (.start c)
  have hopens : s.Opens 0 ⟨"session-0", "m1", "alice@example.com", "hall", 0⟩ opened :=
    @Site.Opens.authenticate s 0 _ "m1" "alice@example.com" "hall" (by decide +kernel)
  have hrestarted : Site.Logged opened
      [(.stop c, opened.stop c), (.start c, (opened.stop c).site.start c)] restarted :=
    .call (.call .new (.stop c)) (.start c)
  have hlater := hrestarted.visit (.authenticate 1 "m2" "bob@example.com" "hall")
  obtain ⟨hperiod, -, -⟩ := sessions_end_with_their_period rfl
    (IdSource.distinct_numbered "session-") (fun _ _ ⟨_, hx, _⟩ => nomatch hx) hlogged
  obtain ⟨-, hend⟩ := hperiod 0 _ opened (by decide +kernel) hopens
  have hforgotten : ∀ a, t.session? a "session-0" = none :=
    (hend _ t hlater).2 ⟨_, List.mem_cons_self, rfl⟩
  exact ⟨by decide +kernel, by decide +kernel, hforgotten⟩

end ConferenceAuth
