/-
**The settings of the gateway, whatever the texts are.**

Each setting is made of the text of its own property and of nothing else.  The lifetime of sessions
is what the text reads as, if that is a positive integer of sixty-four bits, and a day otherwise; the
flags are on exactly if the text says `true`; and the addresses are taken as they stand.  So a text
that cannot be used gives its own setting the default, and no other setting is touched.

Main definitions:

* `GatewayConfig.AgreeBut` — settings that differ in the field of one property at most.

Main results:

* `GatewayConfig.lifetime_of_reads`, `GatewayConfig.lifetime_of_not_reads` — what the text of the
  lifetime comes to;
* `GatewayConfig.agreeBut_resolve` — **a property touches its own field only**;
* `gateway_settings_of_any_texts` — **what any texts come to**.
-/
import ConferenceAuth.Config.Gateway
import ConferenceAuth.Proofs.Config.Agreement
import ConferenceAuth.Proofs.Config.Reading

set_option autoImplicit false

namespace ConferenceAuth

namespace GatewayConfig

/-! ### The lifetime -/

theorem readLifetime_of_pos {n : Nat} (h : 0 < n) : readLifetime (some n) = n := by
  have hpos : (0 : Int) < n := by omega
  rw [readLifetime, if_pos hpos, Int.toNat_natCast]

theorem readLifetime_of_not_pos {n : Int} (h : n < 1) :
    readLifetime (some n) = defaultLifetime := by
  have hnot : ¬ 0 < n := by omega
  rw [readLifetime, if_neg hnot]

variable {source : ConfigSource}

/-- A positive lifetime of sixty-four bits is taken as it is given. -/
theorem lifetime_of_reads {n : Nat} (h : source.ReadsAs Property.authLifetime.name n)
    (hpos : 1 ≤ n) (hmax : n ≤ 2 ^ 63 - 1) : (resolve source).lifetime = n := by
  have hn : source.int? Property.authLifetime.name = some (n : Int) :=
    ConfigSource.int?_eq_some_iff.2 ⟨h, by omega, by omega⟩
  show readLifetime (source.int? _) = _
  rw [hn, readLifetime_of_pos hpos]

/-- Every other text gives the default. -/
theorem lifetime_of_not_reads
    (h : ∀ n, source.ReadsAs Property.authLifetime.name n → n < 1 ∨ 2 ^ 63 - 1 < n) :
    (resolve source).lifetime = defaultLifetime := by
  show readLifetime (source.int? _) = _
  cases hn : source.int? Property.authLifetime.name with
  | none => rfl
  | some n =>
      obtain ⟨hreads, -, hhigh⟩ := ConfigSource.int?_eq_some_iff.1 hn
      exact readLifetime_of_not_pos ((h n hreads).resolve_right (by omega))

/-- **The lifetime is what the text reads as**, if that is positive and of sixty-four bits, and the
default otherwise. -/
theorem lifetime_eq_iff {n : Nat} :
    (resolve source).lifetime = n ↔
      (source.ReadsAs Property.authLifetime.name n ∧ 1 ≤ n ∧ n ≤ 2 ^ 63 - 1) ∨
      (n = defaultLifetime ∧
        ∀ m, source.ReadsAs Property.authLifetime.name m → m < 1 ∨ 2 ^ 63 - 1 < m) := by
  by_cases h : ∃ m : Nat, source.ReadsAs Property.authLifetime.name m ∧ 1 ≤ m ∧ m ≤ 2 ^ 63 - 1
  · obtain ⟨m, hreads, hpos, hmax⟩ := h
    rw [lifetime_of_reads hreads hpos hmax]
    constructor
    · rintro rfl
      exact .inl ⟨hreads, hpos, hmax⟩
    · rintro (⟨hn, -⟩ | ⟨-, hnot⟩)
      · exact Int.ofNat.inj (hreads.unique hn)
      · have hm := hnot m hreads
        omega
  · have hnot : ∀ m, source.ReadsAs Property.authLifetime.name m → m < 1 ∨ 2 ^ 63 - 1 < m := by
      intro m hreads
      by_contra hm
      have hnat : (m.toNat : Int) = m := Int.toNat_of_nonneg (by omega)
      exact h ⟨m.toNat, by rwa [hnat], by omega, by omega⟩
    rw [lifetime_of_not_reads hnot]
    constructor
    · rintro rfl
      exact .inr ⟨rfl, hnot⟩
    · rintro (hn | ⟨rfl, -⟩)
      · exact absurd ⟨n, hn⟩ h
      · rfl

/-- A lifetime is positive and fits sixty-four bits, whatever the text is. -/
theorem lifetime_bounds (source : ConfigSource) :
    1 ≤ (resolve source).lifetime ∧ (resolve source).lifetime ≤ 2 ^ 63 - 1 := by
  obtain ⟨-, hbounds⟩ | ⟨hdefault, -⟩ := lifetime_eq_iff.1 (rfl : (resolve source).lifetime = _)
  · exact hbounds
  · rw [hdefault]
    decide

/-! ### The server policy -/

/-- A server is wanted always exactly if the text says `true`. -/
theorem serverPolicy_eq_always_iff :
    (resolve source).serverPolicy = .always ↔ source.SaysTrue Property.httpAlwaysStart.name := by
  rw [← ConfigSource.isTrue_iff]
  show (if source.isTrue Property.httpAlwaysStart.name = true then ServerPolicy.always
    else .webVariantOnly) = .always ↔ _
  split <;> simp_all

/-! ### One property at a time -/

/-- **Settings agree but for one property**: they differ in its field at most. -/
structure AgreeBut (p : Property) (c d : GatewayConfig) : Prop where
  loginUrl : p ≠ .loginUrl → c.loginUrl = d.loginUrl
  logoutUrl : p ≠ .logoutUrl → c.logoutUrl = d.logoutUrl
  disableAutologin : p ≠ .disableAutologin → c.disableAutologin = d.disableAutologin
  lifetime : p ≠ .authLifetime → c.lifetime = d.lifetime
  serverPolicy : p ≠ .httpAlwaysStart → c.serverPolicy = d.serverPolicy

/-- **A property touches its own field only.** -/
theorem agreeBut_resolve {p : Property} {a b : ConfigSource}
    (h : ∀ q : Property, q ≠ p → a.text? q.name = b.text? q.name) :
    AgreeBut p (resolve a) (resolve b) where
  loginUrl hp := ConfigSource.nonEmpty?_congr (h _ hp.symm)
  logoutUrl hp := ConfigSource.nonEmpty?_congr (h _ hp.symm)
  disableAutologin hp := ConfigSource.isTrue_congr (h _ hp.symm)
  lifetime hp := congrArg readLifetime (ConfigSource.int?_congr (h _ hp.symm))
  serverPolicy hp := by
    show (if a.isTrue _ then _ else _) = if b.isTrue _ then _ else _
    rw [ConfigSource.isTrue_congr (h _ hp.symm)]

end GatewayConfig

/-- **What any texts come to.**  Take any source of settings.

* The lifetime of sessions is positive and fits sixty-four bits.  It is a number of milliseconds
  exactly if the text of that property reads as this number, which then is positive and fits
  sixty-four bits, or if this is the number of a day and the text reads as no such number.
* Sessions end with their conference, and a server is wanted always, exactly if the text of the
  respective property says `true`.
* Both addresses are the texts as they stand, unless they are empty.
* Whatever another source holds for one property, if it has the same texts for the others, the
  settings that it gives differ in the field of this property at most. -/
theorem gateway_settings_of_any_texts (source : ConfigSource) :
    let c := GatewayConfig.resolve source
    ((1 ≤ c.lifetime ∧ c.lifetime ≤ 2 ^ 63 - 1) ∧
      ∀ n, c.lifetime = n ↔
        (source.ReadsAs Property.authLifetime.name n ∧ 1 ≤ n ∧ n ≤ 2 ^ 63 - 1) ∨
        (n = 86400000 ∧
          ∀ m, source.ReadsAs Property.authLifetime.name m → m < 1 ∨ 2 ^ 63 - 1 < m)) ∧
    ((c.disableAutologin = true ↔ source.SaysTrue Property.disableAutologin.name) ∧
      (c.serverPolicy = .always ↔ source.SaysTrue Property.httpAlwaysStart.name)) ∧
    ((∀ url, c.loginUrl = some url ↔
        source.text? Property.loginUrl.name = some url ∧ url ≠ "") ∧
      ∀ url, c.logoutUrl = some url ↔
        source.text? Property.logoutUrl.name = some url ∧ url ≠ "") ∧
    ∀ (p : Property) (other : ConfigSource),
      (∀ q : Property, q ≠ p → other.text? q.name = source.text? q.name) →
        (GatewayConfig.resolve other).AgreeBut p c := by
  intro c
  exact ⟨⟨GatewayConfig.lifetime_bounds source, fun _ => GatewayConfig.lifetime_eq_iff⟩,
    ⟨ConfigSource.isTrue_iff, GatewayConfig.serverPolicy_eq_always_iff⟩,
    ⟨fun _ => ConfigSource.nonEmpty?_eq_some_iff, fun _ => ConfigSource.nonEmpty?_eq_some_iff⟩,
    fun _ _ => GatewayConfig.agreeBut_resolve⟩

/-- A lifetime one above all integers of sixty-four bits gives the default; where it has a sign and a
zero in front instead, it is taken, and nothing else has changed: the login address of a blank, and
the flag that is set between blanks. -/
theorem gateway_settings_of_odd_texts :
    let texts := [(Property.loginUrl.name, " "), (Property.httpAlwaysStart.name, "yes"),
      (Property.disableAutologin.name, "\u00A0tRuE\n")]
    let source := ConfigSource.ofProperties
      ((Property.authLifetime.name, "9223372036854775808") :: texts)
    let other := ConfigSource.ofProperties ((Property.authLifetime.name, "+060000") :: texts)
    (GatewayConfig.resolve source).lifetime = 86400000 ∧
      (GatewayConfig.resolve other).lifetime = 60000 ∧
      (GatewayConfig.resolve other).AgreeBut .authLifetime (GatewayConfig.resolve source) ∧
      (GatewayConfig.resolve source).loginUrl = some " " ∧
      (GatewayConfig.resolve source).disableAutologin = true := by
  intro texts source other
  obtain ⟨⟨-, hlifetime⟩, ⟨hflag, -⟩, ⟨hlogin, -⟩, hother⟩ := gateway_settings_of_any_texts source
  obtain ⟨⟨-, hlifetime'⟩, -⟩ := gateway_settings_of_any_texts other
  have hlarge : source.ReadsAs Property.authLifetime.name 9223372036854775808 :=
    ConfigSource.readsAs_iff.2 (by decide +kernel)
  have hgiven : other.ReadsAs Property.authLifetime.name (60000 : Nat) :=
    ConfigSource.readsAs_iff.2 (by decide +kernel)
  have hagree : ∀ q ∈ Property.all, q ≠ .authLifetime →
      other.text? q.name = source.text? q.name := by decide +kernel
  refine ⟨(hlifetime _).2 (.inr ⟨rfl, fun m hm => ?_⟩), (hlifetime' _).2 (.inl ⟨hgiven, by decide⟩),
    hother _ _ fun q => hagree q q.mem_all, (hlogin _).2 (by decide +kernel),
    hflag.2 (ConfigSource.isTrue_iff.1 (by decide +kernel))⟩
  have heq := hm.unique hlarge
  omega

end ConferenceAuth
