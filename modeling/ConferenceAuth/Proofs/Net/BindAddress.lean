/-
**A connector binds the address that its host names.**

The text that a connector binds is put together from the text of its host and its port, and nobody
looks into the host but for a colon and a bracket in front.  That is enough: every literal of
version 6 has a colon and none begins with a bracket, and no literal of version 4 has a colon.  So
whatever literal the host is, the text is that of a socket address, of the same address and port,
and it can be given for the metrics listener as it is.

Main definitions:

* `Connector.HostNames` — a host is a literal of an address, for version 6 possibly in brackets.

Main results:

* `Net.SocketAddress.ofText?_of_v4`, `Net.SocketAddress.ofText?_of_v6` — a literal and a port are
  read as a socket address;
* `Connector.address_of_v4`, `Connector.address_of_v6` — where a connector puts brackets;
* `Connector.ofText?_address` — what a connector binds is read as the address of its host;
* `bound_address_is_that_of_the_host` — **a connector binds the address that its host names**.
-/
import ConferenceAuth.Config.Process
import ConferenceAuth.Proofs.Net.Literal

set_option autoImplicit false

namespace ConferenceAuth

/-! ### Socket addresses -/

namespace Net

/-- The digits of a port are read as this port. -/
theorem readPort_toDigits (port : UInt16) :
    readPort (':' :: Nat.toDigits 10 port.toNat) = some (port, []) := by
  have hwrites : portRule.Writes (Nat.toDigits 10 port.toNat) port.toNat :=
    { digits := Text.digits_toDigits port.toNat
      short := by rintro k ⟨⟩
      noZero := .inl rfl
      small := port.toNat_lt }
  have hread := readNumeral_of_writes hwrites (by decide) stops_nil.noDigit.ten
  rw [List.append_nil] at hread
  rw [readPort, hread]
  exact congrArg (fun p => some (p, [])) UInt16.ofNat_toNat

namespace SocketAddress

/-- The address that a text denotes is what is read of all its characters. -/
theorem ofText?_eq (s : String) : ofText? s = whole (readSocketAddress s.toList) := by
  -- the definition is kept folded, so it is opened here only
  delta ofText?
  rfl

variable {text : List Char} (port : UInt16)

/-- **A literal of version 4 and a port are read as a socket address.** -/
theorem ofText?_of_v4 {ip : Ipv4} (h : ip.Written text) :
    ofText? (String.ofList (text ++ ':' :: Nat.toDigits 10 port.toNat)) =
      some { ip := .v4 ip, port } := by
  have hcolon : NoDigit 10 (':' :: Nat.toDigits 10 port.toNat) := noDigit_cons (by decide) _
  rw [ofText?_eq, String.toList_ofList, readSocketAddress, readSocketAddress4,
    readIpv4_of_written h hcolon]
  simp only [readPort_toDigits, Option.map_some, Option.some_or, whole]

/-- **A literal of version 6 in brackets and a port are read as a socket address.** -/
theorem ofText?_of_v6 {ip : Ipv6} (h : ip.Written text) :
    ofText? (String.ofList ('[' :: (text ++ ']' :: ':' :: Nat.toDigits 10 port.toNat))) =
      some { ip := .v6 ip, port } := by
  have hbracket : ∀ u, readIpv4 ('[' :: u) = none := fun u =>
    readIpv4_of_noDigit (noDigit_cons (by decide) u)
  have hscope : ∀ u, readScope (']' :: u) = (0, ']' :: u) := fun _ => rfl
  rw [ofText?_eq, String.toList_ofList, readSocketAddress, readSocketAddress4, hbracket,
    readSocketAddress6, readIpv6_of_written h (stops_bracket _)]
  simp only [hscope, readPort_toDigits, Option.map_some, Option.none_or, whole]

end SocketAddress

/-- No literal of version 4 has a colon. -/
theorem Ipv4.Written.not_colon {text : List Char} {ip : Ipv4} (h : ip.Written text) :
    ':' ∉ text := by
  have hdigits : ∀ {ds : List Char} {n : Nat}, octetRule.Writes ds n → ':' ∉ ds := by
    intro ds n hds hmem
    have hcolon := hds.isDigitIn (by decide) ':' hmem
    exact absurd hcolon (by decide)
  cases h with
  | dotted ha hb hc hd => simp [hdigits ha, hdigits hb, hdigits hc, hdigits hd]

/-- A literal of version 6 has a colon, and no bracket in front. -/
theorem Ipv6.Written.colon_no_bracket {text : List Char} {ip : Ipv6} (h : ip.Written text) :
    ':' ∈ text ∧ text.head? ≠ some '[' := by
  obtain ⟨ds, u, rfl, hds⟩ := h.exists_colon
  refine ⟨List.mem_append_right ds List.mem_cons_self, ?_⟩
  cases ds with
  | nil => rintro ⟨⟩
  | cons c ds =>
      rintro ⟨⟩
      exact absurd (hds '[' List.mem_cons_self) (by decide)

end Net

/-! ### The address of a connector -/

namespace Connector

open Net

/-- **A host names an address**: it is a literal of it, and one of version 6 may stand in
brackets. -/
inductive HostNames : String → IpAddress → Prop
  | plain {host : String} {ip : IpAddress} (h : IpAddress.ofText? host = some ip) :
      HostNames host ip
  | bracketed {host : String} {ip : Ipv6} (h : IpAddress.ofText? host = some (.v6 ip)) :
      HostNames ("[" ++ host ++ "]") (.v6 ip)

variable {host : String} (kind : ConnectorKind) (port : UInt16)

/-- No brackets are put around a literal of version 4. -/
theorem address_of_v4 {ip : Ipv4} (h : ip.Written host.toList) :
    address ⟨kind, some host, port⟩ =
      String.ofList (host.toList ++ ':' :: Nat.toDigits 10 port.toNat) := by
  have hcolon : host.toList.contains ':' = false := by simpa using h.not_colon
  simp only [address, hostPart, bracketed, hcolon, Bool.false_and, Bool.false_eq_true, if_false]

/-- Brackets are put around a literal of version 6, unless it has some. -/
theorem address_of_v6 {ip : Ipv6} (h : ip.Written host.toList) {text : String}
    (htext : text = host ∨ text = "[" ++ host ++ "]") :
    address ⟨kind, some text, port⟩ =
      String.ofList ('[' :: (host.toList ++ ']' :: ':' :: Nat.toDigits 10 port.toNat)) := by
  obtain ⟨hcolon, hbracket⟩ := h.colon_no_bracket
  obtain rfl | rfl := htext
  · simp [address, hostPart, bracketed, hcolon, hbracket]
  · simp [address, hostPart, bracketed]

/-- **What a connector binds denotes the address that its host names**, with its own port. -/
theorem ofText?_address {ip : IpAddress} (h : HostNames host ip) :
    SocketAddress.ofText? (address ⟨kind, some host, port⟩) = some { ip, port } := by
  cases h with
  | plain h =>
      rw [IpAddress.ofText?_eq_some_iff] at h
      cases h with
      | v4 hip => rw [address_of_v4 kind port hip, SocketAddress.ofText?_of_v4 port hip]
      | v6 hip => rw [address_of_v6 kind port hip (.inl rfl), SocketAddress.ofText?_of_v6 port hip]
  | bracketed h =>
      rw [IpAddress.ofText?_eq_some_iff] at h
      cases h with
      | v6 hip => rw [address_of_v6 kind port hip (.inr rfl), SocketAddress.ofText?_of_v6 port hip]

/-- Without a host all interfaces of version 4 are meant. -/
theorem ofText?_address_none :
    SocketAddress.ofText? (address ⟨kind, none, port⟩) =
      some { ip := .v4 .unspecified, port } := by
  have hzero : Ipv4.unspecified.Written "0.0.0.0".toList := by
    have h := (IpAddress.ofText?_eq_some_iff (s := "0.0.0.0")).1
      (show _ = some (.v4 Ipv4.unspecified) by decide +kernel)
    cases h with
    | v4 hip => exact hip
  exact SocketAddress.ofText?_of_v4 port hzero

end Connector

/-- A socket address is taken for the metrics listener, and its text is kept. -/
theorem ProcessConfig.ofVariables_of_get? {vars : Settings} {address : String}
    (hvars : vars.get? metricsVariable = some address)
    (haddress : (Net.SocketAddress.ofText? address).isSome = true) :
    ofVariables vars = .ok ⟨address⟩ := by
  rw [ofVariables_eq_ok_iff, requestedAddress, hvars]
  exact ⟨rfl, haddress⟩

/-- **A connector binds the address that its host names.**  Take any transport and any port.

* The literals of an address are those that can be written by its octets, or by its groups, with
  or without a gap and with or without an address of version 4 at the end.
* Let a host be such a literal, where one of version 6 may also stand in brackets.  The text that a
  connector with this host binds is that of a socket address, and denotes exactly that address with
  the port of the connector.
* The same text is accepted for the metrics listener, and kept as it is.
* A connector without a host binds all interfaces of version 4. -/
theorem bound_address_is_that_of_the_host (kind : ConnectorKind) (port : UInt16) :
    (∀ host ip, Net.IpAddress.ofText? host = some ip ↔ ip.Written host.toList) ∧
    (∀ host ip, Connector.HostNames host ip →
      Net.SocketAddress.ofText? (Connector.address ⟨kind, some host, port⟩) = some { ip, port } ∧
      ∀ vars : Settings,
        vars.get? ProcessConfig.metricsVariable = some (Connector.address ⟨kind, some host, port⟩) →
          ProcessConfig.ofVariables vars = .ok ⟨Connector.address ⟨kind, some host, port⟩⟩) ∧
    Net.SocketAddress.ofText? (Connector.address ⟨kind, none, port⟩) =
      some { ip := .v4 .unspecified, port } := by
  refine ⟨fun host ip => Net.IpAddress.ofText?_eq_some_iff, fun host ip hhost => ?_,
    Connector.ofText?_address_none kind port⟩
  have hread := Connector.ofText?_address kind port hhost
  exact ⟨hread, fun vars hvars => ProcessConfig.ofVariables_of_get? hvars (by rw [hread]; rfl)⟩

/-- A host in brackets, with a gap and an address of version 4 at its end: the connector leaves it as
it is, and what it binds may be given for the metrics listener. -/
theorem bound_address_of_bracketed_host :
    let ip : Net.Ipv6 := ⟨[0x2001, 0xDB8, 0, 0, 0, 0, 0xC000, 0x207], rfl⟩
    let c : Connector := .tls (some "[2001:dB8::192.0.2.7]") 65535
    Net.SocketAddress.ofText? c.address = some { ip := .v6 ip, port := 65535 } ∧
      ProcessConfig.ofVariables [(ProcessConfig.metricsVariable, "[2001:dB8::192.0.2.7]:65535")] =
        .ok ⟨"[2001:dB8::192.0.2.7]:65535"⟩ := by
  intro ip c
  have hliteral : Net.IpAddress.ofText? "2001:dB8::192.0.2.7" = some (.v6 ip) := by decide +kernel
  have haddress : c.address = "[2001:dB8::192.0.2.7]:65535" := by decide +kernel
  obtain ⟨hread, hvars⟩ := (bound_address_is_that_of_the_host .tls 65535).2.1 _ _
    (.bracketed hliteral)
  refine ⟨hread, ?_⟩
  rw [← haddress]
  exact hvars _ (by decide +kernel)

end ConferenceAuth
