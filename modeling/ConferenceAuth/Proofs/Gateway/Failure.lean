/-
**The failure of a start.**

Every call that the gateway makes may fail, and under given conditions it is known with which error.
A start goes on until a call fails.  So of all that it has asked for up to then everything has been
granted but the last, and the last is a publication, the start of an authority or the start of a
server; the error of the start is the error of that call.

Main definitions:

* `Call.failed`, `Call.mayRefuse` — the calls that have failed, and those that end a start;
* `Event.error?` — the error that a call has met;
* `Attempt` — a part of a start with its result.

Main results:

* `Attempt.tryStart` — **a start fails with its first failing call**;
* `lostBy_tryStart` — it withdraws nothing.
-/
import ConferenceAuth.Proofs.Gateway.Steps

set_option autoImplicit false

namespace ConferenceAuth

/-! ### Failing calls -/

namespace Call

/-- Whether a call has failed. -/
def failed : Call → Bool
  | publish _ ok | withdraw _ ok | startAuthority _ ok | startServer _ ok | stopServer _ ok => !ok
  | readConfig | stopAuthority _ | createServer _ | addHandlers _ | addConnector _ | setReady _ =>
      false

/-- Whether a call is one of those that may end a start. -/
def mayRefuse : Call → Bool
  | publish _ _ | startAuthority _ _ | startServer _ _ => true
  | _ => false

end Call

/-- The error of a result. -/
def failureOf {ε α : Type} : Except ε α → Option ε
  | .ok _ => none
  | .error e => some e

namespace Event

/-- **The error that a call has met** at its site, under the conditions. -/
def error? (c : Conditions) (ev : Event) : Option GatewayError :=
  match ev.call with
  | .publish _ false => c.publish.map .registry
  | .withdraw entry false =>
      (failureOf (Progress.withdrawUnder c ev.before entry).1).map .registry
  | .startAuthority r false => failureOf (ev.before.toBackend.startAuthority r c.runtime).1
  | .startServer v false =>
      c.serverStart.or ((ev.before.server? v).bind fun sv =>
        failureOf (sv.start ev.before.factory ev.before.network).1)
  | .stopServer _ false => c.serverStop
  | _ => none

theorem error?_of_not_failed {c : Conditions} {ev : Event} (h : ev.call.failed = false) :
    ev.error? c = none := by
  unfold error?
  split <;> simp_all [Call.failed]

theorem lost?_of_not_failed {ev : Event} (h : ev.call.failed = false) : ev.lost? = none := by
  unfold lost?
  split
  · next heq =>
    rw [heq] at h
    cases h
  · rfl

theorem lost?_of_mayRefuse {ev : Event} (h : ev.call.mayRefuse = true) : ev.lost? = none := by
  unfold lost?
  split
  · next heq =>
    rw [heq] at h
    cases h
  · rfl

end Event

/-! ### Parts of a start -/

/-- **A part of a start with its result**: it adds calls that have succeeded, and if it fails, then
one more that has failed with its error. -/
inductive Attempt (c : Conditions) (p : Progress) : Except GatewayError Unit × Progress → Prop
  | ok {p' : Progress} (more : List Event) (hevents : p'.events = p.events ++ more)
      (hmore : ∀ ev ∈ more, ev.call.failed = false) : Attempt c p (.ok (), p')
  /-- Everything has been granted but the last. -/
  | error {e : GatewayError} {p' : Progress} (more : List Event) (ev : Event)
      (hevents : p'.events = p.events ++ more ++ [ev])
      (hmore : ∀ ev ∈ more, ev.call.failed = false) (hrefuse : ev.call.mayRefuse = true)
      (herror : ev.error? c = some e) : Attempt c p (.error e, p')

namespace Attempt

variable {c : Conditions} {p q : Progress} {result : Except GatewayError Unit × Progress}

theorem silent (h : q.events = p.events) : Attempt c p (.ok (), q) :=
  .ok [] (by rw [h, List.append_nil]) (by intro ev hev; cases hev)

theorem granted (call : Call) (h : call.failed = false) (after : Site) :
    Attempt c p (.ok (), p.note call after) :=
  .ok [⟨call, p.site, after⟩] rfl (by intro ev hev; rw [List.mem_singleton.1 hev]; exact h)

theorem refused {call : Call} {after : Site} {e : GatewayError} (hrefuse : call.mayRefuse = true)
    (herror : Event.error? c ⟨call, p.site, after⟩ = some e) :
    Attempt c p (.error e, p.note call after) :=
  .error [] ⟨call, p.site, after⟩ (by rw [List.append_nil]; rfl) (by intro ev hev; cases hev)
    hrefuse herror

/-- **One part after another.** -/
theorem trans (h : Attempt c p (.ok (), q)) (h' : Attempt c q result) : Attempt c p result := by
  cases h with
  | ok more hevents hmore =>
      have hall : ∀ more', (∀ ev ∈ more', ev.call.failed = false) →
          ∀ ev ∈ more ++ more', ev.call.failed = false := by
        intro more' hmore' ev hev
        rcases List.mem_append.1 hev with hev | hev
        · exact hmore ev hev
        · exact hmore' ev hev
      cases h' with
      | ok more' hevents' hmore' =>
          refine .ok (more ++ more') ?_ (hall more' hmore')
          rw [hevents', hevents, List.append_assoc]
      | error more' ev hevents' hmore' hrefuse herror =>
          refine .error (more ++ more') ev ?_ (hall more' hmore') hrefuse herror
          rw [hevents', hevents, List.append_assoc p.events]

/-- A change of what the gateway holds makes no call. -/
theorem after_silent (hq : q.events = p.events) (h : Attempt c q result) : Attempt c p result :=
  (silent hq).trans h

/-! ### The parts one by one -/

theorem startAuthority (p : Progress) (c : Conditions) (r : AuthorityRef) :
    Attempt c p (p.startAuthority c r) := by
  unfold Progress.startAuthority
  rcases hb : p.site.toBackend.startAuthority r c.runtime with ⟨_ | _, b⟩
  · refine refused rfl ?_
    show failureOf (p.site.toBackend.startAuthority r c.runtime).1 = _
    rw [hb]
    rfl
  · exact granted _ rfl _

theorem openServer (p : Progress) (c : Conditions) (config : HttpConfig) (r : AuthorityRef)
    (kind : AuthorityKind) : Attempt c p (.ok (), p.openServer config r kind) := by
  have hcreate : Attempt c p (.ok (), p.note (.createServer config)
      (p.site.addServer (Server.create config))) := granted _ rfl _
  unfold Progress.openServer
  dsimp only
  generalize p.note (.createServer config) (p.site.addServer (Server.create config)) = q
    at hcreate ⊢
  split
  · next connector _ =>
    exact hcreate.trans (trans (q := q.note (.addHandlers _) _) (granted _ rfl _)
      (trans (q := Progress.note _ (.addConnector connector) _) (granted _ rfl _) (silent rfl)))
  · exact hcreate.trans (trans (q := q.note (.addHandlers _) _) (granted _ rfl _) (silent rfl))

theorem startServer (p : Progress) (c : Conditions) (v : ServerRef) :
    Attempt c p (p.startServer c v) := by
  unfold Progress.startServer
  split
  · exact silent rfl
  · next sv hsv =>
    split
    · next e he =>
      refine refused rfl ?_
      show c.serverStart.or _ = some e
      rw [he]
      rfl
    · next hnone =>
      split
      · exact granted _ rfl _
      · next e sv' net hstart =>
        refine refused rfl ?_
        show c.serverStart.or ((p.site.server? v).bind _) = some e
        rw [hnone, hsv]
        show failureOf (sv.start p.site.factory p.site.network).1 = some e
        rw [hstart]
        rfl

theorem serve (p : Progress) (c : Conditions) (policy : ServerPolicy) (r : AuthorityRef)
    (kind : AuthorityKind) : Attempt c p (p.serve c policy r kind) := by
  unfold Progress.serve
  dsimp only
  split
  · exact (openServer p c (HttpConfig.resolve c.config) r kind).trans (startServer ..)
  · exact silent rfl

theorem finish (p : Progress) (c : Conditions) (policy : ServerPolicy) (r : AuthorityRef)
    (kind : AuthorityKind) : Attempt c p (p.finish c policy r kind) := by
  have hstart := startAuthority p c r
  rcases p.finish_cases c policy r kind with
    ⟨e, q, hq, heq⟩ | ⟨q, e, q', hq, hq', heq⟩ | ⟨q, q', hq, hq', heq⟩
  · rw [hq] at hstart
    rw [heq]
    exact hstart
  all_goals
    have hserve := serve q c policy r kind
    rw [hq] at hstart
    rw [hq'] at hserve
    rw [heq]
  · exact hstart.trans hserve
  · exact hstart.trans (hserve.trans (after_silent (Progress.events_enter q' .started)
      (granted _ rfl _)))

/-- **A start fails with its first failing call.** -/
theorem tryStart (p : Progress) (c : Conditions) : Attempt c p (p.tryStart c) := by
  have hconfigured : Attempt c p (.ok (), p.configured) :=
    (granted .readConfig rfl _).trans (silent rfl)
  cases ha : Authority.create? (GatewayConfig.resolve c.config) with
  | none =>
      rw [Progress.tryStart_of_disabled ha]
      exact hconfigured.trans (after_silent (Progress.events_enter _ .disabled) (granted _ rfl _))
  | some a =>
      rw [Progress.tryStart_of_selected ha]
      have hselected : Attempt c p
          (.ok (), (p.configured.select a).enter .authoritySelected) :=
        hconfigured.trans (silent rfl)
      cases hc : c.publish with
      | some e =>
          refine hselected.trans (refused rfl ?_)
          show c.publish.map GatewayError.registry = some (.registry e)
          rw [hc]
          rfl
      | none =>
          exact hselected.trans ((granted (.publish authorityService true) rfl _).trans
            (after_silent (q := Progress.published _ p.site.nextRef) rfl (finish ..)))

end Attempt

/-- **A start withdraws nothing**, so that no withdrawal fails. -/
theorem lostBy_tryStart (s : Site) (c : Conditions) :
    lostBy (Progress.tryStart ⟨s, []⟩ c).2.events = [] := by
  -- a withdrawal that has failed is not among the granted calls, nor can it end a start
  have hgranted : ∀ more : List Event, (∀ ev ∈ more, ev.call.failed = false) →
      lostBy more = [] := by
    intro more hmore
    refine List.filterMap_eq_nil_iff.2 fun ev hev => ?_
    exact Event.lost?_of_not_failed (hmore ev hev)
  have h := Attempt.tryStart ⟨s, []⟩ c
  generalize Progress.tryStart ⟨s, []⟩ c = result at h
  cases h with
  | ok more hevents hmore =>
      rw [hevents, List.nil_append, hgranted more hmore]
  | error more ev hevents hmore hrefuse herror =>
      rw [hevents, List.nil_append, lostBy_append, hgranted more hmore]
      simp [lostBy, Event.lost?_of_mayRefuse hrefuse]

end ConferenceAuth
