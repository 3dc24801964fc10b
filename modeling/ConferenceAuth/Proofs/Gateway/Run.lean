/-
**Runs of a gateway.**

A run begins at a site with a new gateway, which is then started and stopped any number of times,
each time under conditions of its own.  Between two calls others may be at work: they use the
registry for entries of their own, open sessions and end conferences, send requests, take addresses
of the host, and time passes.  What the gateway has asked of the services is kept as the history of
the run, and it tells which publications are the gateway's own.

Main definitions:

* `Event.published?`, `Event.lost?` — the entry that an event published, or failed to withdraw;
* `publishedBy`, `lostBy`, `liveOf` — the gateway's own publications, those whose withdrawal has
  failed, and those that are live;
* `PointOf` — the points of a row of events: before and after each call;
* `Site.IsNew` — a site with a new gateway;
* `Visit` — what others may do between two calls;
* `Site.Run` — the runs.
-/
import ConferenceAuth.Gateway.Lifecycle
import ConferenceAuth.Proofs.Issued

set_option autoImplicit false

namespace ConferenceAuth

/-! ### The gateway's own publications -/

/-- The entry that an event published, if it did. -/
def Event.published? (ev : Event) : Option RegistryEntry :=
  match ev.call with
  | .publish service true => some (ev.before.nextEntry service)
  | _ => none

/-- The entry that an event failed to withdraw, if it did. -/
def Event.lost? (ev : Event) : Option RegistryEntry :=
  match ev.call with
  | .withdraw entry false => some entry
  | _ => none

/-- **The gateway's own publications**, in the order in which they were made. -/
def publishedBy (es : List Event) : List RegistryEntry := es.filterMap Event.published?

/-- The entries whose withdrawal has failed. -/
def lostBy (es : List Event) : List RegistryEntry := es.filterMap Event.lost?

/-- Those of the gateway's own publications that are in the registry. -/
def liveOf (es : List Event) (s : Site) : List RegistryEntry :=
  (publishedBy es).filter s.registry.holds

@[simp] theorem publishedBy_nil : publishedBy [] = [] := rfl

@[simp] theorem publishedBy_append (es es' : List Event) :
    publishedBy (es ++ es') = publishedBy es ++ publishedBy es' := List.filterMap_append

@[simp] theorem lostBy_nil : lostBy [] = [] := rfl

@[simp] theorem lostBy_append (es es' : List Event) :
    lostBy (es ++ es') = lostBy es ++ lostBy es' := List.filterMap_append

/-! ### Points -/

/-- The points of a row of events: the events so far, and the site. -/
inductive PointOf : List Event → List Event → Site → Prop
  | before (done : List Event) (ev : Event) (rest : List Event) :
      PointOf (done ++ ev :: rest) done ev.before
  | after (done : List Event) (ev : Event) (rest : List Event) :
      PointOf (done ++ ev :: rest) (done ++ [ev]) ev.after

theorem PointOf.not_nil {done : List Event} {t : Site} (h : PointOf [] done t) : False := by
  generalize hes : ([] : List Event) = es at h
  cases h <;> simp at hes

/-- One more event has two more points. -/
theorem PointOf.of_concat {es done : List Event} {ev : Event} {t : Site}
    (h : PointOf (es ++ [ev]) done t) :
    PointOf es done t ∨ (done = es ∧ t = ev.before) ∨ (done = es ++ [ev] ∧ t = ev.after) := by
  generalize hall : es ++ [ev] = all at h
  cases h with
  | before done ev' rest =>
      rcases cut_concat hall with ⟨rfl, rfl, rfl⟩ | ⟨rest, rfl, rfl⟩
      · exact Or.inr (Or.inl ⟨rfl, rfl⟩)
      · exact Or.inl (.before ..)
  | after done ev' rest =>
      rcases cut_concat hall with ⟨rfl, rfl, rfl⟩ | ⟨rest, rfl, rfl⟩
      · exact Or.inr (Or.inr ⟨rfl, rfl⟩)
      · exact Or.inl (.after ..)

theorem PointOf.last {es : List Event} {ev : Event} (h : es.getLast? = some ev) :
    PointOf es es ev.after := by
  obtain ⟨init, rfl⟩ := List.getLast?_eq_some_iff.1 h
  exact .after init ev []

/-! ### Runs -/

/-- A site with a new gateway, which is not ready.  The identifiers of entries never repeat, and
what is in the registry already has been published under identifiers given out earlier. -/
structure Site.IsNew (s : Site) : Prop where
  gateway : s.gateway = {}
  ready : s.ready = false
  /-- No identifier is given out twice. -/
  distinct : s.entryIds.Distinct
  /-- What is published has an identifier that has been given out. -/
  issued : ∀ p ∈ s.registry.published.toList, s.entryIds.HasIssued p.entry.id

/-- **What others may do between two calls**, where the history of the gateway is given: others
withdraw nothing that the gateway has published. -/
inductive Visit (es : List Event) (s : Site) : Site → Prop
  | publish (service : String) (value : Capability) : Visit es s (s.publishEntry service value)
  | draw : Visit es s s.drawEntry
  /-- They withdraw an entry that is not the gateway's. -/
  | withdraw {entry : RegistryEntry} {s' : Site} (hown : ∀ e ∈ publishedBy es, e.id ≠ entry.id)
      (h : s.withdrawEntry entry = .ok s') : Visit es s s'
  | request (c : Chain) (r : Request) : Visit es s (s.withBackend (c.router r s.toBackend).2)
  | authenticate (r : AuthorityRef) (machineUid identity room : String) :
      Visit es s (s.withBackend (s.toBackend.authenticate r machineUid identity room).2)
  | conferenceEnded (r : AuthorityRef) (room : String) :
      Visit es s (s.withBackend (s.toBackend.conferenceEnded r room))
  | elapse (ms : Nat) : Visit es s (s.withBackend (s.toBackend.elapse ms))
  /-- They take addresses of the host, or give them back. -/
  | rewire (net : Network) : Visit es s { s with network := net }

/-- **A run of a gateway**: its history and the site that it has led to.  The calls take place under
admitted conditions, and others may do in between what is granted to them. -/
inductive Site.Run (admits : Conditions → Prop) (others : List Event → Site → Site → Prop)
    (s₀ : Site) : List Event → Site → Prop
  | new : Site.Run admits others s₀ [] s₀
  | start {es : List Event} {s : Site} (h : Site.Run admits others s₀ es s) {c : Conditions}
      (hc : admits c) : Site.Run admits others s₀ (es ++ (s.start c).events) (s.start c).site
  | stop {es : List Event} {s : Site} (h : Site.Run admits others s₀ es s) {c : Conditions}
      (hc : admits c) : Site.Run admits others s₀ (es ++ (s.stop c).events) (s.stop c).site
  | visit {es : List Event} {s s' : Site} (h : Site.Run admits others s₀ es s)
      (hv : others es s s') : Site.Run admits others s₀ es s'

/-- A run under conditions that are admitted is one under those that are admitted more freely, and
others who may do more may do the same. -/
theorem Site.Run.mono {admits admits' : Conditions → Prop}
    {others others' : List Event → Site → Site → Prop} {s₀ s : Site} {es : List Event}
    (hadmits : ∀ c, admits c → admits' c) (hothers : ∀ es s s', others es s s' → others' es s s')
    (h : Site.Run admits others s₀ es s) : Site.Run admits' others' s₀ es s := by
  induction h with
  | new => exact .new
  | start _ hc ih => exact .start ih (hadmits _ hc)
  | stop _ hc ih => exact .stop ih (hadmits _ hc)
  | visit _ hv ih => exact .visit ih (hothers _ _ _ hv)

theorem Site.Run.first {admits : Conditions → Prop} {others : List Event → Site → Site → Prop}
    {s₀ : Site} {c : Conditions} (hc : admits c) :
    Site.Run admits others s₀ (s₀.start c).events (s₀.start c).site := by
  have h : Site.Run admits others s₀ ([] ++ (s₀.start c).events) (s₀.start c).site :=
    .start .new hc
  rw [List.nil_append] at h
  exact h

end ConferenceAuth
