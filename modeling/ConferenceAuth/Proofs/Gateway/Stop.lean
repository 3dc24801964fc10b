/-
**A stop, step by step.**

A stop releases what is held in the order against that of a start: the server, the entry, the
authority.  It takes every step, also after one that has failed, so that it ends with nothing held,
whatever has been acquired before.  By the time the authority stops, the server in front of it has
stopped, and it is no longer published, unless the registry has failed to withdraw it.

Main definitions:

* `Unexposed` — what a stop has stopped is not published any more;
* `Released` — the progress of a call that has let go of everything.

Main results:

* `Sound.releaseServer`, `Sound.releaseRegistration`, `Sound.releaseAuthority` — the steps;
* `Sound.stop` — **a stop releases whatever is held**;
* `Sound.lostBy_stop` — under a working registry it loses no entry.
-/
import ConferenceAuth.Proofs.Gateway.Start

set_option autoImplicit false

namespace ConferenceAuth

/-- **What has been stopped is not published any more**: at a point of a call, once an authority has
been stopped, no entry of the gateway's is live but those whose withdrawal has failed. -/
def Unexposed (es done : List Event) (t : Site) : Prop :=
  ∀ ev ∈ done, ∀ r, ev.call = .stopAuthority r →
    ∀ e ∈ publishedBy (es ++ done), t.registry.holds e = true → e ∈ lostBy (es ++ done)

/-- The progress of a call that has let go of everything. -/
structure Released (s₀ : Site) (es : List Event) (p : Progress) : Prop where
  accounts : AccountedFor s₀ (es ++ p.events) p.site {}
  /-- All points were guarded. -/
  guarded : ∀ done t, PointOf p.events done t → s₀.Guarded t
  /-- At no point was a stopped authority published. -/
  unexposed : ∀ done t, PointOf p.events done t → Unexposed es done t

namespace PointOf

theorem subset {es done : List Event} {t : Site} (h : PointOf es done t) :
    ∀ ev ∈ done, ev ∈ es := by
  cases h with
  | before done ev rest =>
      intro ev' hev
      exact List.mem_append_left _ hev
  | after done ev rest =>
      intro ev' hev
      rw [List.append_cons]
      exact List.mem_append_left _ hev

end PointOf

namespace Sound

variable {s₀ : Site} {es : List Event} {p : Progress} {x : Resources}

/-- Before an authority is stopped there is nothing to be exposed. -/
theorem unexposed (h : Sound s₀ es p x) {done : List Event} (hdone : ∀ ev ∈ done, ev ∈ p.events)
    (t : Site) : Unexposed es done t := by
  intro ev hev r hcall
  exact absurd hcall (h.calm ev (hdone ev hev) r)

/-! ### The steps -/

/-- The held server runs when its resource says so, and then the authority stands behind it. -/
theorem backed_of_running (h : Sound s₀ es p x) {v : ServerRef} (hv : x.server = some (v, true)) :
    p.site.Backed := by
  obtain ⟨hle, -, sv, hget, hrunning, -⟩ := h.accounts.servers.held v true hv
  refine h.guarded.server v hle ?_
  rw [Site.runsServer, Site.server?, hget]
  exact hrunning

/-- **The gateway is no longer ready.** -/
theorem setReady_false (h : Sound s₀ es p x) :
    Sound s₀ es (p.setReady false) { x with ready := false } := by
  have haccounts := h.accounts_setReady false
  refine h.note (by intro r hr; cases hr) ?_
    (haccounts.guarded rfl fun v hv => h.backed_of_running hv)
  rw [List.append_assoc]
  exact haccounts

theorem serverStopped (h : Sound s₀ es p x) {v : ServerRef} {b : Bool} (hx : x.server = some (v, b))
    (hready : x.ready = false) {sv : Server} (hrunning : sv.running = false)
    (hcalls : sv.stopCalls = 1) (net : Network) (ok : Bool) :
    Sound s₀ es (p.note (.stopServer v ok) (p.site.updateServer v sv net))
      { x with server := none } := by
  have hserving : Serving s₀.nextServer p.site.servers (some (v, b)) := hx ▸ h.accounts.servers
  have haccounts : AccountedFor s₀
      (es ++ p.events ++ [⟨.stopServer v ok, p.site, p.site.updateServer v sv net⟩])
      (p.site.updateServer v sv net) { x with server := none } :=
    ⟨h.accounts.entries.append (by cases ok <;> rfl) (by cases ok <;> rfl),
      h.accounts.authorities, hserving.stop hrunning hcalls, h.accounts.ready⟩
  exact h.note (by intro r hr; cases hr) haccounts
    (haccounts.guarded hready (by intro w hw; cases hw))

/-- **The server is stopped**, if there is one. -/
theorem releaseServer (h : Sound s₀ es p x) (hg : Holds p.site.gateway x) (hready : x.ready = false)
    (c : Conditions) :
    Sound s₀ es (p.releaseServer c).2 { x with server := none } ∧
      Holds (p.releaseServer c).2.site.gateway { x with server := none } := by
  refine ⟨?_, ?_⟩
  · cases hx : x.server with
    | none =>
        rw [Progress.releaseServer_of_none (by rw [hg.server, hx]; rfl), ← hx]
        exact h
    | some vb =>
        obtain ⟨v, b⟩ := vb
        obtain ⟨-, -, sv, hsv, -, hcalls⟩ := h.accounts.servers.held v b hx
        rw [Progress.releaseServer_eq (by rw [hg.server, hx]; rfl) hsv]
        -- it runs until it is stopped, but the authority behind it is still held
        have hheld := h.hold (fun g => { g with server := none }) hready
          fun w hw => h.backed_of_running hw
        exact hheld.serverStopped hx hready rfl (by rw [Server.stop, hcalls]) _ _
  · obtain ⟨_, _, hsite⟩ := p.releaseServer_site c
    rw [hsite]
    exact ⟨hg.authority, hg.entry, rfl⟩

theorem entryReleased (h : Sound s₀ es p x) (hready : x.ready = false) (hserver : x.server = none)
    {e : RegistryEntry} {ok : Bool} {ids : IdSource} {reg : Registry Capability}
    (hreg : ∀ ev : Event, ev.call = .withdraw e ok →
      Registered (es ++ p.events ++ [ev]) ids reg none) (journal : List RegistryCall) :
    Sound s₀ es
      (p.note (.withdraw e ok) { p.site with registry := reg, journal, entryIds := ids })
      { x with entry := none } := by
  have haccounts : ∀ ev : Event, ev.call = .withdraw e ok →
      AccountedFor s₀ (es ++ p.events ++ [ev])
        { p.site with registry := reg, journal, entryIds := ids } { x with entry := none } :=
    fun ev hev => ⟨hreg ev hev, h.accounts.authorities, h.accounts.servers, h.accounts.ready⟩
  refine h.note (by intro r hr; cases hr) (haccounts _ rfl) ?_
  refine (haccounts ⟨.withdraw e ok, p.site, p.site⟩ rfl).guarded hready fun w hw => ?_
  have hsome : x.server = some (w, true) := hw
  rw [hserver] at hsome
  cases hsome

/-- **The entry is withdrawn**, if there is one, or lost. -/
theorem releaseRegistration (h : Sound s₀ es p x) (hg : Holds p.site.gateway x)
    (hready : x.ready = false) (hserver : x.server = none) (c : Conditions) :
    Sound s₀ es (p.releaseRegistration c).2 { x with entry := none } ∧
      Holds (p.releaseRegistration c).2.site.gateway { x with entry := none } := by
  refine ⟨?_, ?_⟩
  · cases hx : x.entry with
    | none =>
        rw [Progress.releaseRegistration_of_none (by rw [hg.entry, hx]; rfl), ← hx]
        exact h
    | some er =>
        obtain ⟨e, r⟩ := er
        have hentry : p.site.gateway.registration = some e := by rw [hg.entry, hx]; rfl
        have hheld := h.hold (fun g => { g with registration := none }) hready
          (by intro w hw; rw [hserver] at hw; cases hw)
        have hreg : Registered (es ++ p.events) p.site.entryIds p.site.registry (some (e, r)) :=
          hx ▸ h.accounts.entries
        cases hc : c.withdraw with
        | works =>
            rw [Progress.releaseRegistration_of_ok hentry
              (Progress.withdrawUnder_works hc hreg.holds)]
            exact hheld.entryReleased hready hserver (fun ev hev => hreg.withdraw
              (by simp [Event.published?, hev]) (by simp [Event.lost?, hev])) _
        | refused er =>
            rw [Progress.releaseRegistration_of_error hentry
              (Progress.withdrawUnder_refused hc _ e)]
            exact hheld.entryReleased hready hserver (fun ev hev => hreg.refused
              (by simp [Event.published?, hev]) (by simp [Event.lost?, hev])) p.site.journal
        | misses =>
            rw [Progress.releaseRegistration_of_error hentry
              (Progress.withdrawUnder_misses hc hreg.holds hreg.find?_current)]
            exact hheld.entryReleased hready hserver (fun ev hev => hreg.misses
              (by simp [Event.published?, hev]) (by simp [Event.lost?, hev])) _
  · obtain ⟨_, _, _, hsite⟩ := p.releaseRegistration_site c
    rw [hsite]
    exact ⟨hg.authority, rfl, hg.server⟩

/-- **The authority is stopped**, if there is one; by then it is not published. -/
theorem releaseAuthority {a : Option (AuthorityRef × Bool)} (h : Sound s₀ es p { authority := a })
    (hg : Holds p.site.gateway { authority := a }) : Released s₀ es p.releaseAuthority := by
  cases a with
  | none =>
      rw [Progress.releaseAuthority_of_none hg.authority]
      exact ⟨h.accounts, h.points, fun done t ht => h.unexposed ht.subset t⟩
  | some rb =>
      obtain ⟨r, b⟩ := rb
      rw [Progress.releaseAuthority_eq (r := r) hg.authority]
      have hheld := h.hold (fun g => { g with authority := none }) rfl (by intro w hw; cases hw)
      generalize hq : (p.hold fun g => { g with authority := none }) = q at hheld
      have hroster : q.site.toBackend = p.site.toBackend := by rw [← hq]; rfl
      rw [← hroster]
      have haccounts : ∀ ev : Event, ev.call = .stopAuthority r →
          AccountedFor s₀ (es ++ (q.events ++ [ev]))
            (q.site.withBackend (q.site.toBackend.stopAuthority r)) {} := by
        intro ev hev
        rw [← List.append_assoc]
        refine (hheld.accounts.append ?_ ?_).stopAuthority rfl
        · simp [Event.published?, hev]
        · simp [Event.lost?, hev]
      have hafter := haccounts ⟨.stopAuthority r, q.site,
        q.site.withBackend (q.site.toBackend.stopAuthority r)⟩ rfl
      refine ⟨hafter, ?_, ?_⟩
      · intro done t ht
        rcases ht.of_concat with ht | ⟨-, rfl⟩ | ⟨-, rfl⟩
        · exact hheld.points done t ht
        · exact hheld.guarded
        · exact hafter.guarded rfl (by intro w hw; cases hw)
      · intro done t ht
        rcases ht.of_concat with ht | ⟨rfl, rfl⟩ | ⟨rfl, rfl⟩
        · exact hheld.unexposed ht.subset t
        · exact hheld.unexposed (fun ev hev => hev) _
        · intro ev hev r' hcall e he hlive
          rcases hafter.entries.live e he hlive with hnone | hlost
          · cases hnone
          · exact hlost

end Sound

theorem Released.settle {s₀ : Site} {es : List Event} {p : Progress} (h : Released s₀ es p) :
    Released s₀ es p.settle := by
  refine ⟨?_, ?_, ?_⟩
  · rw [Progress.events_settle]
    unfold Progress.settle
    dsimp only
    split
    · exact h.accounts.hold _
    · exact (h.accounts.hold _).enter .stopped
  · rw [Progress.events_settle]
    exact h.guarded
  · rw [Progress.events_settle]
    exact h.unexposed

namespace Sound

variable {s₀ : Site} {es : List Event} {p : Progress} {x : Resources}

/-! ### A stop as a whole -/

/-- **A stop releases whatever is held.** -/
theorem stop (h : Sound s₀ es p x) (hg : Holds p.site.gateway x) (c : Conditions) :
    Released s₀ es (p.stop c).2 := by
  have hready := h.setReady_false
  obtain ⟨hserver, hgserver⟩ := hready.releaseServer (x := { x with ready := false })
    ⟨hg.authority, hg.entry, hg.server⟩ rfl c
  obtain ⟨hentry, hgentry⟩ := hserver.releaseRegistration hgserver rfl rfl c
  exact (hentry.releaseAuthority hgentry).settle

/-- **A stop under a working registry loses no entry.** -/
theorem lostBy_stop (h : Sound s₀ es p x) (hg : Holds p.site.gateway x) {c : Conditions}
    (hc : c.withdraw = .works) : lostBy (p.stop c).2.events = lostBy p.events := by
  have hready := h.setReady_false
  obtain ⟨hserver, hgserver⟩ := hready.releaseServer (x := { x with ready := false })
    ⟨hg.authority, hg.entry, hg.server⟩ rfl c
  rw [Progress.stop_eq, Progress.events_settle, Progress.lostBy_releaseAuthority]
  calc lostBy (((p.setReady false).releaseServer c).2.releaseRegistration c).2.events
      = lostBy ((p.setReady false).releaseServer c).2.events := by
        generalize ((p.setReady false).releaseServer c).2 = q at hserver hgserver
        cases hx : x.entry with
        | none =>
            rw [Progress.releaseRegistration_of_none (by rw [hgserver.entry, hx]; rfl)]
        | some er =>
            have hreg : Registered (es ++ q.events) q.site.entryIds q.site.registry (some er) :=
              hx ▸ hserver.accounts.entries
            rw [Progress.releaseRegistration_of_ok (by rw [hgserver.entry, hx]; rfl)
              (Progress.withdrawUnder_works hc hreg.holds)]
            simp [lostBy, Event.lost?]
    _ = lostBy (p.setReady false).events := Progress.lostBy_releaseServer _ c
    _ = lostBy p.events := by simp [Progress.setReady, lostBy, Event.lost?]

end Sound

end ConferenceAuth
