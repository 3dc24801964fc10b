/-
**The journal of a registry that one gateway uses alone.**

A recording registry notes every publication and every withdrawal.  When nobody but the gateway uses
it, the journal consists of rounds, each a publication and the withdrawal of the same entry, and
perhaps of one publication more, whose entry the gateway still holds.  Together with what is known
of servers and authorities this says that everything that is ever acquired is released once.

Of a site, only four things matter to the journal; they are its books.  A start enters at most one
publication into them, a stop the withdrawal of what is held, and no other step touches them.

Main definitions:

* `RegistryCall.round` — a publication and its withdrawal;
* `Books`, `Site.books`, `Books.publish`, `Books.withdraw` — the books, and what is entered;
* `Books.Balanced` — the journal consists of given rounds and the publication of what is held;
* `Aside` — what others may do without using the registry.

Main results:

* `Progress.books_tryStart`, `Progress.books_stop` — what a start and a stop enter;
* `Books.Balanced.publish`, `Books.Balanced.withdraw` — the books stay balanced;
* `Site.Run.balanced` — **in a whole run the books are balanced**;
* `acquired_resources_are_released_once` — **every resource that has been acquired is held, or has
  been released exactly once**.
-/
import ConferenceAuth.Proofs.Gateway.Invariant

set_option autoImplicit false

namespace ConferenceAuth

/-! ### Books -/

/-- A publication and the withdrawal of its entry. -/
def RegistryCall.round (entry : RegistryEntry) : List RegistryCall :=
  [.publish entry, .withdraw entry]

/-- What a gateway and its registry know of publications. -/
structure Books where
  /-- The entry that the gateway holds. -/
  held : Option RegistryEntry
  registry : Registry Capability
  journal : List RegistryCall
  entryIds : IdSource

def Site.books (s : Site) : Books := ⟨s.gateway.registration, s.registry, s.journal, s.entryIds⟩

namespace Books

/-- The entry that the next publication of an authority gets. -/
def nextEntry (b : Books) : RegistryEntry := ⟨b.entryIds.current, authorityService⟩

/-- The books after the gateway has published a value. -/
def publish (b : Books) (value : Capability) : Books where
  held := some b.nextEntry
  registry := b.registry.publish b.nextEntry value
  journal := b.journal ++ [.publish b.nextEntry]
  entryIds := b.entryIds.advance

/-- The books after the gateway has withdrawn the entry that it holds, if it holds one. -/
def withdraw (b : Books) : Books :=
  match b.held with
  | none => b
  | some e =>
      { b with
        held := none
        registry := ⟨b.registry.published.erase e.id⟩
        journal := b.journal ++ [.withdraw e] }

end Books

/-! ### What the steps of a call enter -/

namespace Progress

/-! Whatever is changed besides the registry and the held entry, the books are the same. -/

@[simp] theorem books_enter (p : Progress) (state : LifecycleState) :
    (p.enter state).site.books = p.site.books := rfl

@[simp] theorem books_setReady (p : Progress) (ready : Bool) :
    (p.setReady ready).site.books = p.site.books := rfl

@[simp] theorem books_configured (p : Progress) : p.configured.site.books = p.site.books := rfl

@[simp] theorem books_select (p : Progress) (a : Authority) :
    (p.select a).site.books = p.site.books := rfl

@[simp] theorem books_published (p : Progress) (r : AuthorityRef) :
    (p.published r).site.books = p.site.books.publish (.authority r) := rfl

@[simp] theorem books_finish (p : Progress) (c : Conditions) (policy : ServerPolicy)
    (r : AuthorityRef) (kind : AuthorityKind) :
    (p.finish c policy r kind).2.site.books = p.site.books := by
  obtain ⟨_, _, _, _, _, hsite⟩ := p.finish_site c policy r kind
  rw [hsite]
  rfl

/-- **A start enters one publication at most.** -/
theorem books_tryStart (p : Progress) (c : Conditions) :
    (p.tryStart c).2.site.books = p.site.books ∨
      ∃ value, (p.tryStart c).2.site.books = p.site.books.publish value := by
  cases ha : Authority.create? (GatewayConfig.resolve c.config) with
  | none =>
      rw [tryStart_of_disabled ha]
      exact Or.inl (by simp)
  | some a =>
      rw [tryStart_of_selected ha]
      cases c.publish with
      | some e => exact Or.inl rfl
      | none => exact Or.inr ⟨.authority p.site.nextRef, by simp⟩

@[simp] theorem books_releaseServer (p : Progress) (c : Conditions) :
    (p.releaseServer c).2.site.books = p.site.books := by
  obtain ⟨_, _, hsite⟩ := p.releaseServer_site c
  rw [hsite]
  rfl

/-- A registry that works enters the withdrawal of the held entry. -/
theorem books_releaseRegistration {p : Progress} {c : Conditions} (hc : c.withdraw = .works)
    (h : ∀ e, p.site.gateway.registration = some e → p.site.registry.holds e = true) :
    (p.releaseRegistration c).2.site.books = p.site.books.withdraw := by
  cases he : p.site.gateway.registration with
  | none =>
      have hheld : p.site.books.held = none := he
      rw [releaseRegistration_of_none he, Books.withdraw, hheld]
  | some e =>
      have hheld : p.site.books.held = some e := he
      rw [releaseRegistration_of_ok he (withdrawUnder_works hc (h e he)), Books.withdraw, hheld]
      rfl

@[simp] theorem books_releaseAuthority (p : Progress) :
    p.releaseAuthority.site.books = p.site.books := by
  rw [releaseAuthority_site]
  rfl

@[simp] theorem books_settle (p : Progress) : p.settle.site.books = p.site.books := by
  obtain ⟨_, hsite⟩ := p.settle_site
  rw [hsite]
  rfl

/-- **A stop enters the withdrawal of what is held.** -/
theorem books_stop {p : Progress} {c : Conditions} (hc : c.withdraw = .works)
    (h : ∀ e, p.site.books.held = some e → p.site.books.registry.holds e = true) :
    (p.stop c).2.site.books = p.site.books.withdraw := by
  have hbooks : ((p.setReady false).releaseServer c).2.site.books = p.site.books := by simp
  rw [← hbooks] at h ⊢
  rw [stop_eq, books_settle, books_releaseAuthority]
  exact books_releaseRegistration hc h

end Progress

/-! ### Balanced books -/

namespace Books

/-- **The journal consists of given rounds and the publication of what is held**, the registry holds
what is held, and no two entries have the same identifier. -/
structure Balanced (b : Books) (rounds : List RegistryEntry) : Prop where
  journal : b.journal = rounds.flatMap RegistryCall.round ++ b.held.toList.map .publish
  registry : b.registry.published.toList.map (·.entry) = b.held.toList
  service : ∀ e ∈ rounds ++ b.held.toList, e.service = authorityService
  nodup : ((rounds ++ b.held.toList).map (·.id)).Nodup
  distinct : b.entryIds.Distinct
  /-- All of them have identifiers that have been given out. -/
  issued : ∀ e ∈ rounds ++ b.held.toList, b.entryIds.HasIssued e.id

namespace Balanced

variable {b : Books} {rounds : List RegistryEntry}

theorem new {ids : IdSource} (h : ids.Distinct) : Balanced ⟨none, {}, [], ids⟩ [] where
  journal := rfl
  registry := rfl
  service := by intro e he; cases he
  nodup := by simp
  distinct := h
  issued := by intro e he; cases he

/-- What is held can be withdrawn. -/
theorem holds (h : b.Balanced rounds) {e : RegistryEntry} (he : b.held = some e) :
    b.registry.holds e = true := by
  have hmem : e ∈ b.registry.published.toList.map (·.entry) := by
    rw [h.registry, he]
    exact List.mem_singleton_self e
  obtain ⟨p, hp, hpe⟩ := List.mem_map.1 hmem
  exact Registry.holds_iff.2 ⟨p, hp, by rw [hpe]⟩

/-- **A publication keeps the books balanced**, when nothing is held: it begins a round. -/
theorem publish (h : b.Balanced rounds) (hheld : b.held = none) (value : Capability) :
    (b.publish value).Balanced rounds := by
  have hjournal := h.journal
  have hregistry := h.registry
  have hservice := h.service
  have hnodup := h.nodup
  have hissued := h.issued
  rw [hheld] at hjournal hregistry hservice hnodup hissued
  simp only [Option.toList_none, List.map_nil, List.append_nil] at *
  have hempty : b.registry.published.toList = [] := List.map_eq_nil_iff.1 hregistry
  refine ⟨?_, ?_, ?_, ?_, h.distinct, ?_⟩
  · show b.journal ++ [.publish b.nextEntry] = _
    rw [hjournal]
    rfl
  · show ((b.registry.published.insert ⟨b.nextEntry, value⟩).toList).map (·.entry) = _
    rw [Table.toList_insert, hempty]
    rfl
  · intro e he
    rcases List.mem_append.1 he with he | he
    · exact hservice e he
    · rw [List.mem_singleton.1 he]
      rfl
  · show ((rounds ++ [b.nextEntry]).map (·.id)).Nodup
    rw [List.map_append, List.nodup_append]
    refine ⟨hnodup, by simp, ?_⟩
    intro i hi j hj
    obtain ⟨e, he, rfl⟩ := List.mem_map.1 hi
    simp only [List.map_cons, List.map_nil, List.mem_singleton] at hj
    -- the new identifier is none of those that have been given out
    exact hj ▸ h.distinct.ne_current (hissued e he)
  · intro e he
    rcases List.mem_append.1 he with he | he
    · exact (hissued e he).advance
    · rw [List.mem_singleton.1 he]
      exact b.entryIds.hasIssued_advance_current

/-- **A withdrawal keeps the books balanced**: it completes the round of what is held. -/
theorem withdraw (h : b.Balanced rounds) : b.withdraw.Balanced (rounds ++ b.held.toList) := by
  cases he : b.held with
  | none =>
      rw [Books.withdraw, he]
      simpa using h
  | some e =>
      have hjournal := h.journal
      have hregistry := h.registry
      have hall := h.service
      have hnodup := h.nodup
      have hissued := h.issued
      rw [he] at hjournal hregistry hall hnodup hissued
      simp only [Books.withdraw, he]
      refine ⟨?_, ?_, ?_, ?_, h.distinct, ?_⟩
      · show b.journal ++ [.withdraw e] = _
        rw [hjournal]
        simp [RegistryCall.round]
      · show ((b.registry.published.erase e.id).toList).map (·.entry) = []
        -- the publication of what is held is the only one
        rw [List.map_eq_nil_iff, Table.toList_erase, List.filter_eq_nil_iff]
        intro p hp
        have hpe : p.entry ∈ (some e).toList := hregistry ▸ List.mem_map_of_mem hp
        rw [List.mem_singleton.1 hpe]
        simp
      · simpa using hall
      · simpa using hnodup
      · simpa using hissued

/-- Identifiers that others draw are of no account. -/
theorem draw (h : b.Balanced rounds) : { b with entryIds := b.entryIds.advance }.Balanced rounds where
  journal := h.journal
  registry := h.registry
  service := h.service
  nodup := h.nodup
  distinct := h.distinct
  issued := fun e he => (h.issued e he).advance

end Balanced

end Books

/-! ### One call -/

namespace Site

variable {s : Site} {rounds : List RegistryEntry}

theorem balanced_stop (h : s.books.Balanced rounds) {c : Conditions} (hc : c.withdraw = .works) :
    ∃ rounds, (s.stop c).site.books.Balanced rounds := by
  have hbooks : (s.stop c).site.books = s.books.withdraw :=
    Progress.books_stop (p := ⟨s, []⟩) hc fun _ he => h.holds he
  exact ⟨_, hbooks ▸ h.withdraw⟩

/-- **A start keeps the books balanced**: when it fails, it is followed by a stop, which completes
the round that it has begun. -/
theorem balanced_start (h : s.books.Balanced rounds) (hg : s.gateway = {}) {c : Conditions}
    (hc : c.withdraw = .works) : ∃ rounds, (s.start c).site.books.Balanced rounds := by
  have hheld : s.books.held = none := by rw [books, hg]
  have htried : (Progress.tryStart ⟨s, []⟩ c).2.site.books.Balanced rounds := by
    rcases Progress.books_tryStart ⟨s, []⟩ c with hsame | ⟨value, hpublished⟩
    · exact hsame ▸ h
    · exact hpublished ▸ h.publish hheld value
  rcases htry : Progress.tryStart ⟨s, []⟩ c with ⟨_ | _, p⟩
  · rw [htry] at htried
    rw [start_of_error hg htry]
    have hbooks : (p.stop c).2.site.books = p.site.books.withdraw :=
      Progress.books_stop hc fun _ he => htried.holds he
    exact ⟨_, hbooks ▸ htried.withdraw⟩
  · rw [htry] at htried
    rw [start_of_ok hg htry]
    exact ⟨rounds, htried⟩

end Site

/-! ### A whole run -/

/-- What others may do between two calls without using the registry, in whose journal every use is
noted. -/
def Aside (es : List Event) (s s' : Site) : Prop := Visit es s s' ∧ s'.journal = s.journal

theorem Aside.balanced {es : List Event} {s s' : Site} {rounds : List RegistryEntry}
    (h : Aside es s s') (hbooks : s.books.Balanced rounds) : s'.books.Balanced rounds := by
  obtain ⟨hv, hjournal⟩ := h
  cases hv with
  | publish service value => simp [Site.publishEntry] at hjournal
  | draw => exact hbooks.draw
  | withdraw _ hs =>
      obtain ⟨registry, -, rfl⟩ := Site.eq_of_withdrawEntry hs
      simp at hjournal
  | _ => exact hbooks

namespace Site.Run

variable {admits : Conditions → Prop} {others others' : List Event → Site → Site → Prop}
  {s₀ s : Site} {es : List Event}

/-- Others who may do more may do the same. -/
theorem weaken (hothers : ∀ es s s', others es s s' → others' es s s')
    (h : Site.Run admits others s₀ es s) : Site.Run admits others' s₀ es s :=
  h.mono (fun _ hc => hc) hothers

/-- **In a whole run the books are balanced.** -/
theorem balanced (h : Site.Run (·.withdraw = .works) Aside s₀ es s) (h₀ : s₀.IsNew)
    (hbooks : s₀.books.Balanced []) : ∃ rounds, s.books.Balanced rounds := by
  induction h with
  | new => exact ⟨[], hbooks⟩
  | @start es s hrun c hc ih =>
      obtain ⟨rounds, ih⟩ := ih
      have hstarted : s.gateway.state.isStarted = true →
          ∃ rounds, (s.start c).site.books.Balanced rounds := by
        intro hs
        rw [Site.start_of_isStarted hs]
        exact ⟨rounds, ih⟩
      have hvisits : Site.Run (·.withdraw = .works) Visit s₀ es s :=
        hrun.weaken fun _ _ _ hv => hv.1
      cases hvisits.atRest h₀ with
      | stopped hg _ => exact Site.balanced_start ih hg hc
      | disabled hg _ => exact hstarted (by rw [hg]; rfl)
      | started hg _ _ => exact hstarted (by rw [hg]; rfl)
  | stop _ hc ih =>
      obtain ⟨rounds, ih⟩ := ih
      exact Site.balanced_stop ih hc
  | visit _ hv ih =>
      obtain ⟨rounds, ih⟩ := ih
      exact ⟨rounds, hv.balanced ih⟩

end Site.Run

/-! ### Acquired and released -/

/-- **Whatever has been acquired is held, or has been released once**, where the rounds of the
journal are given. -/
structure Site.ReleasedOnce (s : Site) (rounds : List RegistryEntry) : Prop where
  /-- The journal is a row of rounds, with one publication behind it while an entry is held. -/
  journal : s.journal =
    rounds.flatMap RegistryCall.round ++ s.gateway.registration.toList.map .publish
  /-- No two publications had the same identifier. -/
  nodup : ((rounds ++ s.gateway.registration.toList).map (·.id)).Nodup
  service : ∀ e ∈ rounds ++ s.gateway.registration.toList, e.service = authorityService
  /-- An entry is held exactly while the gateway has started. -/
  started_iff : s.gateway.registration.isSome = true ↔ s.gateway.state = .started
  size : s.registry.size = if s.gateway.state = .started then 1 else 0
  /-- A held server is the last one; it runs, and has not been stopped. -/
  held : ∀ v, s.gateway.server = some v → v + 1 = s.servers.length ∧
    ∃ sv, s.server? v = some sv ∧ sv.running = true ∧ sv.stopCalls = 0
  /-- Every other server has been stopped, and only once. -/
  stopped : ∀ v sv, s.server? v = some sv → s.gateway.server ≠ some v →
    sv.running = false ∧ sv.stopCalls = 1
  /-- No authority runs but the one that is held. -/
  authority : ∀ r, s.running r = true → s.gateway.authority = some r

/-- **Every resource that has been acquired is held, or has been released exactly once.**  Take any
run of a gateway among services of its own that record what is asked of them, where each start may
find the registry refusing to publish, no runtime, or servers that do not start, and where servers
may report failures when they stop. -/
theorem acquired_resources_are_released_once {sessionIds entryIds : IdSource}
    (hids : entryIds.Distinct) {factory : ServerFactory} {es : List Event} {s : Site}
    (h : Site.Run (·.withdraw = .works) Aside (.rehearsal sessionIds entryIds factory) es s) :
    ∃ rounds, s.ReleasedOnce rounds := by
  have h₀ : (Site.rehearsal sessionIds entryIds factory).IsNew := Site.isNew_rehearsal _ hids _
  obtain ⟨rounds, hbooks⟩ := h.balanced h₀ (.new hids)
  have hsize : s.registry.size = s.gateway.registration.toList.length := by
    have hlength := congrArg List.length hbooks.registry
    rw [List.length_map] at hlength
    exact hlength
  -- where nothing is held, all servers have been stopped, and no authority runs
  have hidle : ∀ {state : LifecycleState} {ready : Bool}, s.gateway = { state } →
      state ≠ .started → AccountedFor (.rehearsal sessionIds entryIds factory) es s { ready } →
      s.ReleasedOnce rounds := by
    intro state ready hg hstate hx
    refine ⟨hbooks.journal, hbooks.nodup, hbooks.service, ?_, ?_, ?_, ?_, ?_⟩
    · simp [hg, hstate]
    · simp [hsize, hg, hstate]
    · intro v hv
      rw [hg] at hv
      cases hv
    · intro v sv hsv _
      exact hx.servers.stopped v sv (Nat.zero_le v) hsv (by simp)
    · intro r hr
      cases hx.authority_of_running (Nat.zero_le r) hr
  refine ⟨rounds, ?_⟩
  have hvisits : Site.Run (·.withdraw = .works) Visit _ es s := h.weaken fun _ _ _ hv => hv.1
  cases hvisits.atRest h₀ with
  | stopped hg hx => exact hidle hg (by decide) hx
  | disabled hg hx => exact hidle hg (by decide) hx
  | @started v r e server hg _ hx =>
      have hserver : s.gateway.server = server := by rw [hg]
      refine ⟨hbooks.journal, hbooks.nodup, hbooks.service, ?_, ?_, ?_, ?_, ?_⟩
      · simp [hg]
      · simp [hsize, hg]
      · intro w hw
        rw [hserver] at hw
        obtain ⟨-, hlast, sv, hsv, hrunning, hcalls⟩ := hx.servers.held w true (by rw [hw]; rfl)
        exact ⟨hlast, sv, hsv, hrunning, hcalls⟩
      · intro w sv hsv hne
        refine hx.servers.stopped w sv (Nat.zero_le w) hsv ?_
        rw [hserver] at hne
        simpa using hne
      · intro r' hr'
        cases hx.authority_of_running (Nat.zero_le r') hr'
        rw [hg]

/-- In a rehearsal of single sign-on, a start finds no runtime, the next one servers that refuse to
start and to stop, the third a registry that refuses to publish, and the fourth succeeds: there have
been two rounds, and the last publication stands. -/
theorem two_rounds_released_before_a_start :
    let s₀ := Site.rehearsal (.numbered "session-") (.numbered "entry-") .recording
    let config := ConfigSource.ofProperties Deployment.shibboleth.settings
    let o := s₀.start (.ofRefusals config false [])
    let o' := o.site.start (.ofRefusals config true [.serverStart, .serverStop])
    let o'' := o'.site.start (.ofRefusals config true [.publish])
    let o''' := o''.site.start (.ofRefusals config true [])
    o'''.site.journal.map (·.text) =
        ["publish AuthenticationAuthority#entry-0", "withdraw AuthenticationAuthority#entry-0",
          "publish AuthenticationAuthority#entry-1", "withdraw AuthenticationAuthority#entry-1",
          "publish AuthenticationAuthority#entry-2"] ∧
      o'''.site.gateway.state = .started ∧ ∃ rounds, o'''.site.ReleasedOnce rounds := by
  intro s₀ config o o' o'' o'''
  have hrun : Site.Run (·.withdraw = .works) Aside s₀ o.events o.site := .first rfl
  exact ⟨by decide +kernel, by decide +kernel,
    acquired_resources_are_released_once (IdSource.distinct_numbered _)
      (((hrun.start rfl).start rfl).start rfl)⟩

end ConferenceAuth
