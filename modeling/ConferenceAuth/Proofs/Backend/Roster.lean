/-
**Who is there, and who runs.**

The roster of a backend lists its authorities by variant, and tells of each whether its sweeper
runs.  Building, starting and stopping an authority change the roster as one would expect.  Nothing
else does: sessions come and go, requests are answered and time passes without any authority being
started or stopped, and without a health state being touched.

Main definitions:

* `Backend.roster`;
* `Backend.Undisturbed` — the roster and the health states are as they were.

Main results:

* `Backend.roster_enroll`, `Backend.roster_startAuthority`, `Backend.roster_stopAuthority`;
* `Backend.undisturbed_authenticate`, `Backend.undisturbed_conferenceEnded`,
  `Backend.undisturbed_elapse`, `Chain.undisturbed_router`.
-/
import ConferenceAuth.Http.Chain

set_option autoImplicit false

namespace ConferenceAuth

/-! ### Keepers -/

namespace Keeper

theorem running_conferenceEnded (k : Keeper) (m : Metrics) (room : String) :
    (k.conferenceEnded m room).1.running = k.running := by
  unfold conferenceEnded
  split <;> rfl

theorem running_tick (k : Keeper) (m : Metrics) (now : Int) :
    (k.tick m now).1.running = k.running := by
  unfold tick
  split
  · rfl
  · next w hw =>
      split
      · show Option.isSome (some _) = k.running
        simp [running, hw]
      · rfl

@[simp] theorem running_stop (k : Keeper) (m : Metrics) : (k.stop m).1.running = false := rfl

/-- **A start succeeds exactly when the keeper runs already or there is a runtime**, and then the
keeper runs. -/
theorem start_eq (k : Keeper) (m : Metrics) (now : Int) (runtime : Bool) :
    ∃ k' m', k.start m now runtime =
      (if k.running || runtime then .ok () else .error noRuntime, k', m') ∧
      k'.running = (k.running || runtime) := by
  unfold start
  cases hk : k.running with
  | true => exact ⟨k, m, rfl, hk⟩
  | false =>
      cases runtime with
      | true => exact ⟨_, _, rfl, rfl⟩
      | false => exact ⟨k, m, rfl, hk⟩

end Keeper

namespace Backend

/-! ### The roster -/

/-- The authorities by variant, and whether each of them runs. -/
def roster (b : Backend) : List (AuthorityVariant × Bool) :=
  b.authorities.map fun a => (a.variant, a.keeper.running)

@[simp] theorem length_roster (b : Backend) : b.roster.length = b.nextRef := by
  simp [roster, nextRef]

theorem getElem?_roster (b : Backend) (r : AuthorityRef) :
    b.roster[r]? = (b.authority? r).map fun a => (a.variant, a.keeper.running) := by
  simp [roster, authority?]

/-- An authority runs when the roster says so. -/
theorem running_eq_roster (b : Backend) (r : AuthorityRef) :
    b.running r = (b.roster[r]?).any (·.2) := by
  rw [getElem?_roster, running]
  cases b.authority? r <;> rfl

theorem roster_enroll (b : Backend) (a : Authority) :
    (b.enroll a).roster = b.roster ++ [(a.variant, a.keeper.running)] := by
  simp [roster, enroll]

/-- A step of a keeper changes at most whether it runs. -/
theorem roster_updateKeeper (b : Backend) (r : AuthorityRef) (k : Keeper × Metrics) :
    (b.updateKeeper r k).roster = b.roster.modify r fun x => (x.1, k.1.running) := by
  refine List.ext_getElem? fun i => ?_
  rw [getElem?_roster, authority?_updateKeeper, List.getElem?_modify, getElem?_roster]
  by_cases h : r = i <;> cases b.authority? i <;> simp [h]

/-- A step that does not change whether the keeper runs leaves the roster alone. -/
theorem roster_updateKeeper_of_running {b : Backend} {r : AuthorityRef} {k : Keeper × Metrics}
    {a : Authority} (ha : b.authority? r = some a) (hk : k.1.running = a.keeper.running) :
    (b.updateKeeper r k).roster = b.roster := by
  rw [roster_updateKeeper]
  refine List.ext_getElem? fun i => ?_
  rw [List.getElem?_modify, getElem?_roster]
  by_cases h : r = i
  · subst h
    simp [ha, hk]
  · simp [h]

/-- **The start of an authority of the roster**: it succeeds when the authority runs already or
there is a runtime. -/
theorem roster_startAuthority {b : Backend} {r : AuthorityRef} {v : AuthorityVariant}
    {running : Bool} (hr : b.roster[r]? = some (v, running)) (runtime : Bool) :
    (b.startAuthority r runtime).1 =
        (if running || runtime then .ok () else .error Keeper.noRuntime) ∧
      (b.startAuthority r runtime).2.roster = b.roster.set r (v, running || runtime) ∧
      (b.startAuthority r runtime).2.health = b.health := by
  rw [getElem?_roster] at hr
  obtain ⟨a, ha, hv⟩ := Option.map_eq_some_iff.1 hr
  simp only [Prod.mk.injEq] at hv
  obtain ⟨hvariant, hrunning⟩ := hv
  obtain ⟨k, m, hstart, hk⟩ := a.keeper.start_eq b.metrics b.now runtime
  simp only [startAuthority, ha, hstart, hrunning]
  refine ⟨trivial, ?_, rfl⟩
  rw [roster_updateKeeper]
  refine List.ext_getElem? fun i => ?_
  rw [List.getElem?_modify, List.getElem?_set, getElem?_roster]
  by_cases h : r = i
  · subst h
    have hlt : r < b.nextRef := (List.getElem?_eq_some_iff.1 ha).1
    simp [ha, hk, hvariant, hrunning, hlt]
  · simp [h]

theorem roster_stopAuthority (b : Backend) (r : AuthorityRef) :
    (b.stopAuthority r).roster = b.roster.modify r fun x => (x.1, false) := by
  unfold stopAuthority
  split
  · next hr =>
      refine List.ext_getElem? fun i => ?_
      rw [List.getElem?_modify, getElem?_roster]
      by_cases h : r = i
      · subst h
        simp [hr]
      · simp [h]
  · rw [roster_updateKeeper]
    rfl

@[simp] theorem health_stopAuthority (b : Backend) (r : AuthorityRef) :
    (b.stopAuthority r).health = b.health := by
  unfold stopAuthority
  split <;> rfl

/-! ### What leaves the roster alone -/

/-- The roster and the health states are as they were. -/
structure Undisturbed (b b' : Backend) : Prop where
  roster : b'.roster = b.roster
  health : b'.health = b.health

theorem Undisturbed.refl (b : Backend) : b.Undisturbed b := ⟨rfl, rfl⟩

theorem undisturbed_store (b : Backend) (r : AuthorityRef) (s : Session) :
    b.Undisturbed (b.store r s) := by
  unfold store
  split
  · exact .refl b
  · next a ha => exact ⟨roster_updateKeeper_of_running ha rfl, rfl⟩

theorem undisturbed_openSession (b : Backend) (r : AuthorityRef)
    (machineUid identity room : String) :
    b.Undisturbed (b.openSession r machineUid identity room).2 := by
  have h := undisturbed_store b r (b.newSession machineUid identity room)
  exact ⟨h.roster, h.health⟩

theorem undisturbed_authenticate (b : Backend) (r : AuthorityRef)
    (machineUid identity room : String) :
    b.Undisturbed (b.authenticate r machineUid identity room).2 := by
  unfold authenticate
  split
  · exact undisturbed_openSession b r machineUid identity room
  · exact .refl b

theorem undisturbed_conferenceEnded (b : Backend) (r : AuthorityRef) (room : String) :
    b.Undisturbed (b.conferenceEnded r room) := by
  unfold conferenceEnded
  split
  · exact .refl b
  · next a ha =>
      exact ⟨roster_updateKeeper_of_running ha (a.keeper.running_conferenceEnded b.metrics room),
        rfl⟩

/-- Sweeps do not change who runs. -/
theorem roster_tickAll (now : Int) (as : List Authority) (m : Metrics) :
    (tickAll now as m).1.map (fun a => (a.variant, a.keeper.running)) =
      as.map fun a => (a.variant, a.keeper.running) := by
  induction as generalizing m with
  | nil => rfl
  | cons a as ih =>
      simp only [tickAll, Authority.withKeeper, List.map_cons, Keeper.running_tick, ih]

theorem undisturbed_elapse (b : Backend) (ms : Nat) : b.Undisturbed (b.elapse ms) :=
  ⟨roster_tickAll (b.now + ms) b.authorities b.metrics, rfl⟩

end Backend

/-! ### Requests -/

theorem Login.undisturbed_respond (authority : AuthorityRef) (r : Request) (b : Backend) :
    b.Undisturbed (Login.respond authority r b).2 := by
  unfold Login.respond
  split
  · exact .refl b
  · split
    · next room machineUid _ _ =>
        split
        · next identity _ =>
            have h := b.undisturbed_openSession authority machineUid identity room
            exact ⟨h.roster, h.health⟩
        · exact ⟨rfl, rfl⟩
    · exact ⟨rfl, rfl⟩

theorem Endpoint.undisturbed_serve (e : Endpoint) (r : Request) (b : Backend) :
    b.Undisturbed (e.serve r b).2 := by
  have hanswer : b.Undisturbed (e.answer r b).2 := by
    cases e with
    | login authority => exact Login.undisturbed_respond authority r b
    | _ => exact .refl b
  unfold Endpoint.serve
  split
  · exact hanswer
  · split
    · exact hanswer
    · exact .refl b

/-- **No request starts or stops an authority or touches a health state.** -/
theorem Chain.undisturbed_router (c : Chain) (r : Request) (b : Backend) :
    b.Undisturbed (c.router r b).2 := by
  induction c with
  | nil => exact .refl b
  | cons h c ih =>
      rw [Chain.router_cons]
      unfold Handler.router
      split
      · next e _ => exact e.undisturbed_serve r b
      · exact ih

end ConferenceAuth
