/-
**The settings of the server, whatever the texts are.**

The two ports are read by different rules.  A negative number switches the plain connector off, but
leaves the port with transport security at its default; a number that is too large gives the default
for both; and a number beyond sixty-four bits counts as none at all, on either side, so that it
switches nothing off.  The connectors follow from the settings alone, and the settings tell whether
there are any.

Main results:

* `HttpConfig.port_eq_none_iff`, `HttpConfig.port_of_reads`, `HttpConfig.port_of_not_reads` — what
  the text of the plain port comes to;
* `HttpConfig.tlsPort_of_reads`, `HttpConfig.tlsPort_of_not_reads` — and that of the port with
  transport security;
* `HttpConfig.connectors_eq` — the connectors, told by the settings;
* `server_settings_of_any_texts` — **what any texts come to**.
-/
import ConferenceAuth.Connector
import ConferenceAuth.Proofs.Config.Reading

set_option autoImplicit false

namespace ConferenceAuth

/-! ### The rules of the two ports -/

/-- Exactly the numbers outside sixteen bits are no ports. -/
theorem readPort?_eq_none_iff {n : Int} : readPort? n = none ↔ n < 0 ∨ 65535 < n := by
  simp only [readPort?, ite_eq_right_iff, reduceCtorEq, imp_false]
  omega

theorem readPort?_toNat (p : UInt16) : readPort? p.toNat = some p := readPort?_eq_some_iff.2 rfl

/-- A text that reads as a port is read within the bounds. -/
theorem ConfigSource.int?_of_readsAs_port {source : ConfigSource} {name : String} {p : UInt16}
    (h : source.ReadsAs name p.toNat) : source.int? name = some (p.toNat : Int) := by
  have hlt : p.toNat < 65536 := p.toNat_lt
  exact int?_eq_some_iff.2 ⟨h, by omega, by omega⟩

namespace HttpConfig

/-- The plain port is off for a negative number, and for nothing else. -/
theorem readPlainPort_eq_none_iff {n : Option Int} :
    readPlainPort n = none ↔ ∃ m, n = some m ∧ m < 0 := by
  cases n with
  | none => simp [readPlainPort]
  | some n => simp [readPlainPort]

theorem readPlainPort_of_port (p : UInt16) : readPlainPort (some p.toNat) = some p := by
  have hpos : ¬ (p.toNat : Int) < 0 := by omega
  rw [readPlainPort, if_neg hpos, readPort?_toNat, Option.getD_some]

theorem readPlainPort_of_large {n : Int} (h : 65535 < n) :
    readPlainPort (some n) = some defaultHttpPort := by
  have hpos : ¬ n < 0 := by omega
  rw [readPlainPort, if_neg hpos, readPort?_eq_none_iff.2 (.inr h), Option.getD_none]

theorem readTlsPort_of_port (p : UInt16) : readTlsPort (some p.toNat) = p := by
  rw [readTlsPort, Option.bind_some, readPort?_toNat, Option.getD_some]

theorem readTlsPort_of_not_port {n : Int} (h : n < 0 ∨ 65535 < n) :
    readTlsPort (some n) = defaultTlsPort := by
  rw [readTlsPort, Option.bind_some, readPort?_eq_none_iff.2 h, Option.getD_none]

/-! ### What the texts come to -/

variable {source : ConfigSource}

/-- **There is no plain port exactly if the text reads as a negative integer** of sixty-four
bits. -/
theorem port_eq_none_iff :
    (resolve source).port = none ↔
      ∃ n, source.ReadsAs Property.httpPort.name n ∧ -2 ^ 63 ≤ n ∧ n ≤ -1 := by
  refine readPlainPort_eq_none_iff.trans (exists_congr fun n => ?_)
  rw [ConfigSource.int?_eq_some_iff]
  constructor
  · rintro ⟨⟨hreads, hlow, -⟩, hneg⟩
    exact ⟨hreads, hlow, by omega⟩
  · rintro ⟨hreads, hlow, hneg⟩
    exact ⟨⟨hreads, hlow, by omega⟩, by omega⟩

/-- A plain port is taken as it is given. -/
theorem port_of_reads {p : UInt16} (h : source.ReadsAs Property.httpPort.name p.toNat) :
    (resolve source).port = some p := by
  show readPlainPort (source.int? _) = _
  rw [ConfigSource.int?_of_readsAs_port h, readPlainPort_of_port]

/-- Every other text gives the default. -/
theorem port_of_not_reads
    (h : ∀ n, source.ReadsAs Property.httpPort.name n → n < -2 ^ 63 ∨ 65535 < n) :
    (resolve source).port = some defaultHttpPort := by
  show readPlainPort (source.int? _) = _
  cases hn : source.int? Property.httpPort.name with
  | none => rfl
  | some n =>
      obtain ⟨hreads, hlow, -⟩ := ConfigSource.int?_eq_some_iff.1 hn
      exact readPlainPort_of_large ((h n hreads).resolve_left (by omega))

/-- A port with transport security is taken as it is given. -/
theorem tlsPort_of_reads {p : UInt16} (h : source.ReadsAs Property.tlsPort.name p.toNat) :
    (resolve source).tlsPort = p := by
  show readTlsPort (source.int? _) = _
  rw [ConfigSource.int?_of_readsAs_port h, readTlsPort_of_port]

/-- Every other text gives the default. -/
theorem tlsPort_of_not_reads
    (h : ∀ n, source.ReadsAs Property.tlsPort.name n → n < 0 ∨ 65535 < n) :
    (resolve source).tlsPort = defaultTlsPort := by
  show readTlsPort (source.int? _) = _
  cases hn : source.int? Property.tlsPort.name with
  | none => rfl
  | some n => exact readTlsPort_of_not_port (h n (ConfigSource.int?_eq_some_iff.1 hn).1)

/-- **The connectors, told by the settings**: at most one of each transport, the plain one first. -/
theorem connectors_eq (c : HttpConfig) :
    c.connectors = c.port.toList.map (Connector.http c.host) ++
      c.keyStorePath.toList.map fun _ => Connector.tls c.host c.tlsPort := by
  rw [connectors, tlsEnabled]
  cases c.port <;> cases c.keyStorePath <;> rfl

end HttpConfig

/-- **What any texts come to.**  Take any source of settings.

* The server has no plain port exactly if the text of that property reads as a negative integer of
  sixty-four bits.  If it reads as a port, this is the port, and in every other case it is 8888.
* If the text of the port with transport security reads as a port, this is the port, and in every
  other case it is 8843.
* The host and the path of the key store are the texts as they stand, unless they are empty.
* There is one connector for the plain port, if there is one, and behind it one with transport
  security, if there is a key store; both listen on the host.  None of them is for forwarded
  requests, and there are any exactly if the settings say so. -/
theorem server_settings_of_any_texts (source : ConfigSource) :
    let c := HttpConfig.resolve source
    ((c.port = none ↔ ∃ n, source.ReadsAs Property.httpPort.name n ∧ -2 ^ 63 ≤ n ∧ n ≤ -1) ∧
      (∀ p : UInt16, source.ReadsAs Property.httpPort.name p.toNat → c.port = some p) ∧
      ((∀ n, source.ReadsAs Property.httpPort.name n → n < -2 ^ 63 ∨ 65535 < n) →
        c.port = some 8888)) ∧
    ((∀ p : UInt16, source.ReadsAs Property.tlsPort.name p.toNat → c.tlsPort = p) ∧
      ((∀ n, source.ReadsAs Property.tlsPort.name n → n < 0 ∨ 65535 < n) → c.tlsPort = 8843)) ∧
    ((∀ host, c.host = some host ↔
        source.text? Property.httpHost.name = some host ∧ host ≠ "") ∧
      ∀ path, c.keyStorePath = some path ↔
        source.text? Property.keyStorePath.name = some path ∧ path ≠ "") ∧
    (c.connectors = c.port.toList.map (fun p => ⟨.http, c.host, p⟩) ++
        c.keyStorePath.toList.map (fun _ => ⟨.tls, c.host, c.tlsPort⟩) ∧
      (∀ x ∈ c.connectors, x.kind ≠ .reverseProxy) ∧
      (c.connectors ≠ [] ↔ c.hasConnectors = true)) := by
  intro c
  have hany : c.connectors ≠ [] ↔ c.hasConnectors = true := by
    rw [ne_eq, c.connectors_eq_nil_iff, Bool.not_eq_false]
  exact ⟨⟨HttpConfig.port_eq_none_iff, fun _ => HttpConfig.port_of_reads,
      HttpConfig.port_of_not_reads⟩,
    ⟨fun _ => HttpConfig.tlsPort_of_reads, HttpConfig.tlsPort_of_not_reads⟩,
    ⟨fun _ => ConfigSource.nonEmpty?_eq_some_iff, fun _ => ConfigSource.nonEmpty?_eq_some_iff⟩,
    c.connectors_eq, fun _ => HttpConfig.kind_ne_of_mem_connectors, hany⟩

/-- A host between blanks, a plain port below all integers of sixty-four bits, which is no way to
switch it off, and a port with transport security that has a sign and zeros in front. -/
theorem server_settings_of_odd_texts :
    let source := ConfigSource.ofProperties
      [(Property.httpHost.name, " ::1"), (Property.httpPort.name, "-9223372036854775809"),
        (Property.tlsPort.name, "\u3000+0065535\n"), (Property.keyStorePath.name, " ")]
    (HttpConfig.resolve source).port = some 8888 ∧
      (HttpConfig.resolve source).tlsPort = 65535 ∧
      (HttpConfig.resolve source).connectors =
        [.http (some " ::1") 8888, .tls (some " ::1") 65535] := by
  intro source
  obtain ⟨⟨-, -, hother⟩, ⟨hgiven, -⟩, -⟩ := server_settings_of_any_texts source
  have hbelow : source.ReadsAs Property.httpPort.name (-9223372036854775809) :=
    ConfigSource.readsAs_iff.2 (by decide +kernel)
  have hport : source.ReadsAs Property.tlsPort.name 65535 :=
    ConfigSource.readsAs_iff.2 (by decide +kernel)
  refine ⟨hother fun n hn => ?_, hgiven 65535 hport, by decide +kernel⟩
  have heq := hn.unique hbelow
  omega

end ConferenceAuth
