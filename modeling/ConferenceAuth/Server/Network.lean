/-
**The network of a host.**

To bind an address, the text of a connector is resolved, its interface has to be one that the host
lets be bound and its port has to be free.  Port zero asks for any free port: the first that is free
of those on offer, whose order is the host's choice.  So is whether clients get through to what
listens.

Main definitions:

* `BindFailure`, `BindFailure.reason` — why an address cannot be bound;
* `Network`, `Network.isFree`, `Network.isolated`;
* `Network.place?` — the address that is bound for a wanted one;
* `Network.bind`, `Network.release`.

Main results:

* `Network.bind_taken` — a bound address is taken, and all others stay as they were;
* `Network.isFree_of_bind` — it was in nobody's way before.
-/
import ConferenceAuth.Net.SocketAddress

set_option autoImplicit false

namespace ConferenceAuth

/-- The ports that hosts customarily keep for those who ask for any. -/
def dynamicPorts : List UInt16 := (List.range' 32768 28232).map UInt16.ofNat

/-- Why an address cannot be bound. -/
inductive BindFailure where
  | inUse
  | unusable
  /-- No listener can have such an address. -/
  | invalid
  | noDevice
  | unresolved
  deriving DecidableEq, Repr

/-- The wording of a failure, as the operating system has it. -/
def BindFailure.reason : BindFailure → String
  | inUse => "Address already in use (os error 98)"
  | unusable => "Cannot assign requested address (os error 99)"
  | invalid => "Invalid argument (os error 22)"
  | noDevice => "No such device (os error 19)"
  | unresolved => "failed to lookup address information: Name or service not known"

/-- The network of a host. -/
structure Network where
  taken : List Net.SocketAddress := []
  /-- Why an address may not be bound whoever listens, if it may not. -/
  barred? : Net.SocketAddress → Option BindFailure := fun _ => none
  hostAddress? : String → Option Net.IpAddress := fun _ => none
  /-- The ports given to those who ask for any, in the order in which they are tried. -/
  offered : List UInt16 := dynamicPorts
  /-- Whether clients get through to what listens. -/
  reachable : Bool := true

namespace Network

/-! ### Hosts on their own -/

/-- Why an address may not be bound on a host none of whose interfaces is up.  Such a host has no
routes by which to tell its own addresses of version 4 from others, so all of them may.  It has none
of version 6, so only the one that stands for every interface may; an address of one link needs a
scope, and the only device is the loopback one, the first. -/
def barredInIsolation (a : Net.SocketAddress) : Option BindFailure :=
  match a.ip.unmapped with
  | .v4 _ => none
  | .v6 ip =>
      if a.ip.isUnspecified then none
      else if ip.isMulticast then some .invalid
      else if !ip.isLinkLocal then some .unusable
      else if a.scope = 0 then some .invalid
      else if a.scope = 1 then some .unusable
      else some .noDevice

/-- The network of a host none of whose interfaces is up.  No client gets through there. -/
def isolated : Network where
  barred? := barredInIsolation
  reachable := false

/-! ### Resolving -/

/-- What stands before and behind the last colon of a text. -/
def splitLastColon (cs : List Char) : List Char × List Char :=
  let back := (cs.reverse.takeWhile (· != ':')).reverse
  ((cs.reverse.dropWhile (· != ':')).drop 1 |>.reverse, back)

/-- The socket address of a text: a literal, or a host name and a port. -/
def resolve? (net : Network) (text : String) : Option Net.SocketAddress :=
  match Net.SocketAddress.ofText? text with
  | some a => some a
  | none =>
      let (host, port) := splitLastColon text.toList
      match net.hostAddress? (String.ofList host), Net.readPort (':' :: port) with
      | some ip, some (port, []) => some { ip, port }
      | _, _ => none

/-! ### Binding -/

/-- Whether nobody listens in the way of an address. -/
def isFree (net : Network) (a : Net.SocketAddress) : Bool := !net.taken.any (·.overlaps a)

/-- The address that is bound for a wanted one, if nobody listens in the way: itself, or with the
first port on offer that is free for those who ask for any. -/
def place? (net : Network) (a : Net.SocketAddress) : Option Net.SocketAddress :=
  if a.port = 0 then
    (net.offered.find? fun p => p != 0 && net.isFree { a with port := p }).map fun p =>
      { a with port := p }
  else if net.isFree a then some a
  else none

/-- **Binds the address of a text.** -/
def bind (net : Network) (text : String) : Except BindFailure (Net.SocketAddress × Network) :=
  match net.resolve? text with
  | none => .error .unresolved
  | some a =>
      match net.barred? a with
      | some failure => .error failure
      | none =>
          match net.place? a with
          | some b => .ok (b, { net with taken := net.taken ++ [b] })
          | none => .error .inUse

def release (net : Network) (addresses : List Net.SocketAddress) : Network :=
  { net with taken := net.taken.filter fun a => !addresses.contains a }

/-- Whether a client gets through to an address. -/
def connects (net : Network) (a : Net.SocketAddress) : Bool := net.reachable && !net.isFree a

/-! ### First facts -/

/-- The address found for a wanted one is in nobody's way, and its port is a real one. -/
theorem isFree_of_place {net : Network} {a b : Net.SocketAddress} (h : net.place? a = some b) :
    net.isFree b = true ∧ b.port ≠ 0 := by
  unfold place? at h
  split at h
  · obtain ⟨p, hp, rfl⟩ := Option.map_eq_some_iff.1 h
    have found := List.find?_some hp
    simp only [Bool.and_eq_true, bne_iff_ne, ne_eq] at found
    exact ⟨found.2, found.1⟩
  · next port =>
    split at h
    · next free =>
      cases h
      exact ⟨free, port⟩
    · cases h

/-- What a successful binding goes through. -/
theorem place_of_bind {net net' : Network} {text : String} {b : Net.SocketAddress}
    (h : net.bind text = .ok (b, net')) :
    ∃ a, net.resolve? text = some a ∧ net.barred? a = none ∧ net.place? a = some b ∧
      net' = { net with taken := net.taken ++ [b] } := by
  unfold bind at h
  split at h
  · cases h
  · next a resolved =>
    split at h
    · cases h
    · next admitted =>
      split at h
      · next placed =>
        cases h
        exact ⟨a, resolved, admitted, placed, rfl⟩
      · cases h

/-- A bound address is taken, and all others stay as they were. -/
theorem bind_taken {net net' : Network} {text : String} {a : Net.SocketAddress}
    (h : net.bind text = .ok (a, net')) : net'.taken = net.taken ++ [a] := by
  obtain ⟨_, _, _, _, rfl⟩ := place_of_bind h
  rfl

/-- A bound address was in nobody's way. -/
theorem isFree_of_bind {net net' : Network} {text : String} {a : Net.SocketAddress}
    (h : net.bind text = .ok (a, net')) : net.isFree a = true := by
  obtain ⟨_, _, _, placed, _⟩ := place_of_bind h
  exact (isFree_of_place placed).1

end Network

end ConferenceAuth
