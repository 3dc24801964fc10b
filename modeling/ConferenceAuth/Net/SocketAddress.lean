/-
**Socket addresses and their literals.**

A socket address is an internet address with a port.  In its literal an address of version 6 stands
in square brackets, within which a numeric scope may follow behind a percent sign.

Main definitions:

* `Net.SocketAddress`, `Net.SocketAddress.ofText?` — the address that a text denotes;
* `Net.SocketAddress.overlaps` — whether two listeners would be in each other's way.
-/
import ConferenceAuth.Net.IpAddress

set_option autoImplicit false

namespace ConferenceAuth

namespace Net

/-- An internet address with a port. -/
structure SocketAddress where
  ip : IpAddress
  port : UInt16
  /-- The scope of an address of version 6. -/
  scope : Nat := 0
  deriving DecidableEq, Repr

/-! ### Reading -/

def readPort : List Char → Option (UInt16 × List Char)
  | ':' :: cs => (readNumeral portRule cs).map fun (n, rest) => (UInt16.ofNat n, rest)
  | _ => none

/-- The scope behind a percent sign, or zero where there is none. -/
def readScope (cs : List Char) : Nat × List Char :=
  match cs with
  | '%' :: rest => (readNumeral scopeRule rest).getD (0, cs)
  | _ => (0, cs)

def readSocketAddress4 (cs : List Char) : Option (SocketAddress × List Char) :=
  match readIpv4 cs with
  | none => none
  | some (ip, cs) => (readPort cs).map fun (port, rest) => ({ ip := .v4 ip, port }, rest)

def readSocketAddress6 : List Char → Option (SocketAddress × List Char)
  | '[' :: cs =>
      match readIpv6 cs with
      | none => none
      | some (ip, cs) =>
          let (scope, cs) := readScope cs
          match cs with
          | ']' :: cs => (readPort cs).map fun (port, rest) => ({ ip := .v6 ip, port, scope }, rest)
          | _ => none
  | _ => none

/-- A socket address at the front of a text. -/
def readSocketAddress (cs : List Char) : Option (SocketAddress × List Char) :=
  (readSocketAddress4 cs).or (readSocketAddress6 cs)

/-- **The socket address that a text denotes.**  Elaboration keeps it folded: a text that is only
known in part is no reason to run the readers. -/
@[irreducible] def SocketAddress.ofText? (s : String) : Option SocketAddress :=
  whole (readSocketAddress s.toList)

/-! ### Listeners in each other's way -/

/-- Whether listeners on two addresses would be in each other's way: they have one port, and one
interface is the other or stands for all of them.  All interfaces of version 6 include those of
version 4, and a mapped address is the one it stands for. -/
def SocketAddress.overlaps (x y : SocketAddress) : Bool :=
  x.port == y.port &&
    match x.ip.unmapped, y.ip.unmapped with
    | .v4 a, .v4 b => a == b || a == .unspecified || b == .unspecified
    | .v6 a, .v6 b => a == b || (IpAddress.v6 a).isUnspecified || (IpAddress.v6 b).isUnspecified
    | .v4 _, .v6 b => (IpAddress.v6 b).isUnspecified
    | .v6 a, .v4 _ => (IpAddress.v6 a).isUnspecified

@[simp] theorem SocketAddress.overlaps_self (x : SocketAddress) : x.overlaps x = true := by
  unfold overlaps
  cases x.ip.unmapped <;> simp

end Net

end ConferenceAuth
