/-
**The publications of a gateway in a shared registry.**

Others use the registry as well, but identifiers never repeat.  So what the gateway has published
and still holds is there, under its own entry and with the authority as its value, and nothing else
that it has ever published is, unless a withdrawal has failed.  This module says so of a registry
with the history of a gateway, and shows that it remains true when the gateway publishes and
withdraws and when others do.

Main definitions:

* `Numbered` — what is published has been given its identifier by the source;
* `Registered` — the only live publication of the gateway, if there is one, is the given one.

Main results:

* `Registered.publish`, `Registered.withdraw`, `Registered.refused`, `Registered.misses` — what the
  gateway does;
* `Registered.visitPublish`, `Registered.visitWithdraw`, `Registered.draw` — what others do.
-/
import ConferenceAuth.Proofs.Gateway.Run

set_option autoImplicit false

namespace ConferenceAuth

/-! ### Identifiers -/

/-- **What is published has been given its identifier by the source**, which gives none out
twice. -/
structure Numbered (ids : IdSource) (reg : Registry Capability) : Prop where
  /-- No identifier is given out twice. -/
  distinct : ids.Distinct
  /-- What is published has an identifier that has been given out. -/
  issued : ∀ p ∈ reg.published.toList, ids.HasIssued p.entry.id

namespace Numbered

variable {ids : IdSource} {reg : Registry Capability}

theorem draw (h : Numbered ids reg) : Numbered ids.advance reg :=
  ⟨h.distinct, fun p hp => (h.issued p hp).advance⟩

theorem publish (h : Numbered ids reg) (service : String) (value : Capability) :
    Numbered ids.advance (reg.publish ⟨ids.current, service⟩ value) := by
  refine ⟨h.distinct, fun p hp => ?_⟩
  rcases List.mem_append.1 hp with hp | hp
  · exact (h.issued p (List.mem_filter.1 hp).1).advance
  · rw [List.mem_singleton.1 hp]
    exact ids.hasIssued_advance_current

theorem erase (h : Numbered ids reg) (id : String) : Numbered ids ⟨reg.published.erase id⟩ :=
  ⟨h.distinct, fun p hp => h.issued p (List.mem_filter.1 hp).1⟩

/-- Nothing is known by the identifier that is given out next. -/
theorem find?_current (h : Numbered ids reg) : reg.published.find? ids.current = none :=
  Table.find?_eq_none_iff.2 fun p hp => h.distinct.ne_current (h.issued p hp)

end Numbered

/-! ### The publications of a gateway -/

/-- **The only live publication of a gateway is the given one**: of a registry, the identifiers that
have been given out, and the history of the gateway. -/
structure Registered (es : List Event) (ids : IdSource) (reg : Registry Capability)
    (x : Option (RegistryEntry × AuthorityRef)) : Prop extends Numbered ids reg where
  /-- What the gateway has published has been given its identifier as well. -/
  own_issued : ∀ e ∈ publishedBy es, ids.HasIssued e.id
  /-- The gateway has published under entries of different identifiers. -/
  own_nodup : ((publishedBy es).map (·.id)).Nodup
  /-- The given publication is one of the gateway's own, and live. -/
  held : ∀ e r, x = some (e, r) → e ∈ publishedBy es ∧ e.service = authorityService ∧
    reg.published.find? e.id = some ⟨e, .authority r⟩
  /-- No other of the gateway's own is live, unless its withdrawal has failed. -/
  live : ∀ e ∈ publishedBy es, reg.holds e = true → x.map (·.1) = some e ∨ e ∈ lostBy es

namespace Registered

variable {es : List Event} {ids : IdSource} {reg : Registry Capability}
  {x : Option (RegistryEntry × AuthorityRef)}

theorem nil (h : Numbered ids reg) : Registered [] ids reg none where
  toNumbered := h
  own_issued := by intro e he; simp at he
  own_nodup := by simp
  held := by intro e r he; cases he
  live := by intro e he; simp at he

/-- An event that neither publishes nor fails to withdraw is of no account here. -/
theorem append (h : Registered es ids reg x) {ev : Event} (hpublished : ev.published? = none)
    (hlost : ev.lost? = none) : Registered (es ++ [ev]) ids reg x := by
  have hp : publishedBy (es ++ [ev]) = publishedBy es := by simp [publishedBy, hpublished]
  have hl : lostBy (es ++ [ev]) = lostBy es := by simp [lostBy, hlost]
  refine ⟨h.toNumbered, ?_, ?_, ?_, ?_⟩
  · rw [hp]; exact h.own_issued
  · rw [hp]; exact h.own_nodup
  · rw [hp]; exact h.held
  · rw [hp, hl]; exact h.live

theorem holds {e : RegistryEntry} {r : AuthorityRef} (h : Registered es ids reg (some (e, r))) :
    reg.holds e = true := by
  obtain ⟨-, -, hfind⟩ := h.held e r rfl
  rw [Registry.holds, hfind]
  rfl

theorem live_eq_nil (h : Registered es ids reg none) (hlost : lostBy es = []) :
    (publishedBy es).filter reg.holds = [] := by
  refine List.filter_eq_nil_iff.2 fun e he hlive => ?_
  rcases h.live e he hlive with hnone | hmem
  · cases hnone
  · rw [hlost] at hmem
    cases hmem

/-- **The held publication is the only live one**, when none has been lost. -/
theorem live_eq_singleton {e : RegistryEntry} {r : AuthorityRef}
    (h : Registered es ids reg (some (e, r))) (hlost : lostBy es = []) :
    (publishedBy es).filter reg.holds = [e] := by
  have hall : ∀ e' ∈ (publishedBy es).filter reg.holds, e' = e := by
    intro e' he'
    obtain ⟨hown, hlive⟩ := List.mem_filter.1 he'
    rcases h.live e' hown hlive with heq | hmem
    · cases heq; rfl
    · rw [hlost] at hmem
      cases hmem
  have hmem : e ∈ (publishedBy es).filter reg.holds :=
    List.mem_filter.2 ⟨(h.held e r rfl).1, h.holds⟩
  have hown : (publishedBy es).Nodup :=
    (List.pairwise_map.1 h.own_nodup).imp fun hne heq => hne (congrArg _ heq)
  have hnodup : ((publishedBy es).filter reg.holds).Nodup := List.Pairwise.filter _ hown
  -- a row without repetitions in which every member is the same has one member at most
  rw [List.eq_replicate_of_mem hall] at hmem hnodup ⊢
  have hle := List.nodup_replicate.1 hnodup
  have hne := (List.mem_replicate.1 hmem).1
  rw [show ((publishedBy es).filter reg.holds).length = 1 by omega]
  rfl

/-! ### What the gateway does -/

/-- **The gateway publishes**, under the next identifier. -/
theorem publish (h : Registered es ids reg none) (r : AuthorityRef) {ev : Event}
    (hev : ev.published? = some ⟨ids.current, authorityService⟩) (hlost : ev.lost? = none) :
    Registered (es ++ [ev]) ids.advance
      (reg.publish ⟨ids.current, authorityService⟩ (.authority r))
      (some (⟨ids.current, authorityService⟩, r)) := by
  have hp : publishedBy (es ++ [ev]) = publishedBy es ++ [⟨ids.current, authorityService⟩] := by
    simp [publishedBy, hev]
  have hl : lostBy (es ++ [ev]) = lostBy es := by simp [lostBy, hlost]
  have hgiven : ids.advance.GivenOut ((publishedBy (es ++ [ev])).map (·.id)) := by
    rw [hp, List.map_append]
    exact (IdSource.GivenOut.mk h.distinct (List.forall_mem_map.2 h.own_issued) h.own_nodup).concat
  refine ⟨h.toNumbered.publish _ _, List.forall_mem_map.1 hgiven.issued, hgiven.nodup, ?_, ?_⟩
  · rintro e r' he
    cases he
    refine ⟨by rw [hp]; simp, rfl, ?_⟩
    rw [Registry.publish, Table.find?_insert, if_pos rfl]
  · intro e he hlive
    rw [hp] at he
    rcases List.mem_append.1 he with he | he
    · -- an earlier entry was live before, because its identifier is not the new one
      have hne : ids.current ≠ e.id := (h.distinct.ne_current (h.own_issued e he)).symm
      rw [Registry.holds, Registry.publish, Table.find?_insert, if_neg hne] at hlive
      rcases h.live e he hlive with hnone | hlost'
      · cases hnone
      · exact Or.inr (hl ▸ hlost')
    · rw [List.mem_singleton.1 he]
      exact Or.inl rfl

/-- **The gateway withdraws** the entry that it holds. -/
theorem withdraw {e : RegistryEntry} {r : AuthorityRef} (h : Registered es ids reg (some (e, r)))
    {ev : Event} (hpublished : ev.published? = none) (hlost : ev.lost? = none) :
    Registered (es ++ [ev]) ids ⟨reg.published.erase e.id⟩ none := by
  refine append ⟨h.toNumbered.erase e.id, h.own_issued, h.own_nodup, ?_, ?_⟩ hpublished hlost
  · intro e' r' he'
    cases he'
  · intro e' he' hlive
    obtain ⟨hbefore, hne⟩ := Registry.holds_erase_iff.1 hlive
    rcases h.live e' he' hbefore with heq | hlost'
    · cases heq
      exact absurd rfl hne
    · exact Or.inr hlost'

/-- **A withdrawal is refused**: the publication stays, but the gateway no longer holds it. -/
theorem refused {e : RegistryEntry} {r : AuthorityRef} (h : Registered es ids reg (some (e, r)))
    {ev : Event} (hpublished : ev.published? = none) (hlost : ev.lost? = some e) :
    Registered (es ++ [ev]) ids reg none := by
  have hp : publishedBy (es ++ [ev]) = publishedBy es := by simp [publishedBy, hpublished]
  have hl : lostBy (es ++ [ev]) = lostBy es ++ [e] := by simp [lostBy, hlost]
  refine ⟨h.toNumbered, ?_, ?_, ?_, ?_⟩
  · rw [hp]; exact h.own_issued
  · rw [hp]; exact h.own_nodup
  · intro e' r' he'
    cases he'
  · rw [hp, hl]
    intro e' he' hlive
    rcases h.live e' he' hlive with heq | hlost'
    · cases heq
      exact Or.inr (by simp)
    · exact Or.inr (List.mem_append_left _ hlost')

/-! ### What others do -/

theorem draw (h : Registered es ids reg x) : Registered es ids.advance reg x where
  toNumbered := h.toNumbered.draw
  own_issued := fun e he => (h.own_issued e he).advance
  own_nodup := h.own_nodup
  held := h.held
  live := h.live

/-- **Others publish.** -/
theorem visitPublish (h : Registered es ids reg x) (service : String) (value : Capability) :
    Registered es ids.advance (reg.publish ⟨ids.current, service⟩ value) x where
  toNumbered := h.toNumbered.publish service value
  own_issued := fun e he => (h.own_issued e he).advance
  own_nodup := h.own_nodup
  held := by
    intro e r he
    obtain ⟨hown, hservice, hfind⟩ := h.held e r he
    have hne : ids.current ≠ e.id := (h.distinct.ne_current (h.own_issued e hown)).symm
    refine ⟨hown, hservice, ?_⟩
    rw [Registry.publish, Table.find?_insert, if_neg hne, hfind]
  live := by
    intro e he hlive
    have hne : ids.current ≠ e.id := (h.distinct.ne_current (h.own_issued e he)).symm
    rw [Registry.holds, Registry.publish, Table.find?_insert, if_neg hne] at hlive
    exact h.live e he hlive

/-- **Others withdraw** an entry that is not the gateway's. -/
theorem visitWithdraw (h : Registered es ids reg x) {entry : RegistryEntry}
    (hown : ∀ e ∈ publishedBy es, e.id ≠ entry.id) :
    Registered es ids ⟨reg.published.erase entry.id⟩ x where
  toNumbered := h.toNumbered.erase entry.id
  own_issued := h.own_issued
  own_nodup := h.own_nodup
  held := by
    intro e r he
    obtain ⟨he', hservice, hfind⟩ := h.held e r he
    refine ⟨he', hservice, ?_⟩
    rw [Table.erase, Table.find?_keep, hfind, Option.filter_some, if_pos]
    exact bne_iff_ne.2 (hown e he')
  live := fun e he hlive => h.live e he (Registry.holds_erase_iff.1 hlive).1

/-- **A withdrawal misses**: the publication is gone, an identifier has been given out for an entry
that nobody knows, and the gateway no longer holds anything. -/
theorem misses {e : RegistryEntry} {r : AuthorityRef} (h : Registered es ids reg (some (e, r)))
    {ev : Event} (hpublished : ev.published? = none) (hlost : ev.lost? = some e) :
    Registered (es ++ [ev]) ids.advance ⟨reg.published.erase e.id⟩ none := by
  have hrefused := (h.refused hpublished hlost).draw
  refine ⟨hrefused.toNumbered.erase e.id, hrefused.own_issued, hrefused.own_nodup, ?_, ?_⟩
  · intro e' r' he'
    cases he'
  · intro e' he' hlive
    -- as after a refusal, for an erased publication only leaves less live
    exact hrefused.live e' he' (Registry.holds_erase_iff.1 hlive).1

end Registered

end ConferenceAuth
