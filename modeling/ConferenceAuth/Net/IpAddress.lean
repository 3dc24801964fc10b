/-
**Internet addresses and their literals.**

The reader takes the dotted form of version 4 (four decimal octets without leading zeros) and the
forms of version 6: eight groups of up to four hexadecimal digits, the last two of which may be
written as a dotted version 4 address, or fewer with one `::` that stands for at least one group of
zeros.  Every reader takes a literal off the front of a text and gives back the rest.

Main definitions:

* `Net.Ipv4`, `Net.Ipv6`, `Net.IpAddress` — the addresses;
* `Net.IpAddress.unmapped` — mapped addresses as what they stand for;
* `Net.NumeralRule`, `Net.readNumeral` — unsigned numerals with a limit on digits and value;
* `Net.readIpv4`, `Net.readIpv6`, `Net.readIpAddress` — the readers;
* `Net.IpAddress.text` — the customary text of an address.

Main results:

* `Net.readNumeral_lt` — a numeral is below its bound.
-/
set_option autoImplicit false

namespace ConferenceAuth

namespace Net

/-! ### Addresses -/

/-- An address of version 4: four octets. -/
structure Ipv4 where
  a : UInt8
  b : UInt8
  c : UInt8
  d : UInt8
  deriving DecidableEq, Repr

/-- An address of version 6: eight groups of sixteen bits. -/
structure Ipv6 where
  /-- The groups, the most significant one first. -/
  groups : List UInt16
  /-- There are eight of them. -/
  length_eq : groups.length = 8
  deriving DecidableEq, Repr

/-- An internet address. -/
inductive IpAddress where
  | v4 (ip : Ipv4)
  | v6 (ip : Ipv6)
  deriving DecidableEq, Repr

/-- The two groups that an address of version 4 takes at the end of one of version 6. -/
def Ipv4.groups (ip : Ipv4) : List UInt16 :=
  [ip.a.toUInt16 * 256 + ip.b.toUInt16, ip.c.toUInt16 * 256 + ip.d.toUInt16]

/-- The address of version 4 that stands for every interface. -/
def Ipv4.unspecified : Ipv4 := ⟨0, 0, 0, 0⟩

/-- Whether an address stands for every interface of the host. -/
def IpAddress.isUnspecified : IpAddress → Bool
  | .v4 ip => ip == .unspecified
  | .v6 ip => ip.groups.all (· == 0)

/-- The address of version 4 that one of version 6 stands for, if it is a mapped one. -/
def Ipv6.mapped? (ip : Ipv6) : Option Ipv4 :=
  match ip.groups with
  | [0, 0, 0, 0, 0, 0xFFFF, x, y] =>
      some ⟨(x / 256).toUInt8, x.toUInt8, (y / 256).toUInt8, y.toUInt8⟩
  | _ => none

/-- An address with a mapped one replaced by the address of version 4 that it stands for. -/
def IpAddress.unmapped : IpAddress → IpAddress
  | .v4 ip => .v4 ip
  | .v6 ip => (ip.mapped?.map .v4).getD (.v6 ip)

/-- Whether an address of version 6 is one of a group of receivers. -/
def Ipv6.isMulticast (ip : Ipv6) : Bool := ip.groups.head?.any fun g => g / 256 == 0xFF

/-- Whether an address of version 6 means something on one link only. -/
def Ipv6.isLinkLocal (ip : Ipv6) : Bool := ip.groups.head?.any fun g => g / 64 == 0x3FA

/-! ### Numerals -/

/-- Which unsigned numerals a place in a literal takes. -/
structure NumeralRule where
  base : Nat
  /-- The largest number of digits, if there is one. -/
  maxDigits : Option Nat
  /-- Whether a zero may stand in front of other digits. -/
  leadingZeros : Bool
  /-- The first number that is too large. -/
  bound : Nat

/-- An octet of version 4: up to three digits, no zero in front of others. -/
def octetRule : NumeralRule := ⟨10, some 3, false, 256⟩

/-- A group of version 6: up to four hexadecimal digits. -/
def groupRule : NumeralRule := ⟨16, some 4, true, 65536⟩

/-- A port: any number of digits. -/
def portRule : NumeralRule := ⟨10, none, true, 65536⟩

/-- A scope of version 6: any number of digits. -/
def scopeRule : NumeralRule := ⟨10, none, true, 4294967296⟩

/-- The value of a hexadecimal digit in either letter case. -/
def hexValue? (c : Char) : Option Nat :=
  if '0' ≤ c ∧ c ≤ '9' then some (c.toNat - 48)
  else if 'a' ≤ c ∧ c ≤ 'f' then some (c.toNat - 87)
  else if 'A' ≤ c ∧ c ≤ 'F' then some (c.toNat - 55)
  else none

/-- Whether a character is a digit in a base of at most sixteen. -/
def isDigitIn (base : Nat) (c : Char) : Bool := (hexValue? c).any (· < base)

/-- The value of digits, the most significant one first. -/
def valueOfDigits (base : Nat) (ds : List Char) : Nat :=
  ds.foldl (fun n d => n * base + (hexValue? d).getD 0) 0

/-- Whether digits may be written where a rule holds. -/
def NumeralRule.allows (rule : NumeralRule) (ds : List Char) : Bool :=
  !ds.isEmpty && rule.maxDigits.all (ds.length ≤ ·) &&
    (rule.leadingZeros || ds.length ≤ 1 || ds.head? != some '0') &&
    valueOfDigits rule.base ds < rule.bound

/-- The numeral at the front of a text, which takes all the digits there. -/
def readNumeral (rule : NumeralRule) (cs : List Char) : Option (Nat × List Char) :=
  let ds := cs.takeWhile (isDigitIn rule.base)
  if rule.allows ds then
    some (valueOfDigits rule.base ds, cs.dropWhile (isDigitIn rule.base))
  else none

/-- A numeral is below its bound. -/
theorem readNumeral_lt {rule : NumeralRule} {cs rest : List Char} {n : Nat}
    (h : readNumeral rule cs = some (n, rest)) : n < rule.bound := by
  simp only [readNumeral] at h
  split at h
  · next ha =>
    cases h
    simp only [NumeralRule.allows, Bool.and_eq_true, decide_eq_true_eq] at ha
    exact ha.2
  · cases h

/-! ### Version 4 -/

def readOctet (cs : List Char) : Option (UInt8 × List Char) :=
  (readNumeral octetRule cs).map fun (n, rest) => (UInt8.ofNat n, rest)

def readDottedOctet : List Char → Option (UInt8 × List Char)
  | '.' :: cs => readOctet cs
  | _ => none

def readIpv4 (cs : List Char) : Option (Ipv4 × List Char) :=
  match readOctet cs with
  | none => none
  | some (a, cs) =>
      match readDottedOctet cs with
      | none => none
      | some (b, cs) =>
          match readDottedOctet cs with
          | none => none
          | some (c, cs) =>
              match readDottedOctet cs with
              | none => none
              | some (d, cs) => some (⟨a, b, c, d⟩, cs)

/-! ### Version 6 -/

/-- A text from the place where a group may start: behind a colon, unless the group comes first. -/
def behindColon (first : Bool) (cs : List Char) : Option (List Char) :=
  if first then some cs
  else
    match cs with
    | ':' :: cs => some cs
    | _ => none

/-- Groups read off the front of a text. -/
structure GroupRun where
  groups : List UInt16
  /-- Whether the last two of them were written as an address of version 4. -/
  dotted : Bool
  rest : List Char

/-- Up to `n` groups at the front of a text.  An address of version 4 ends them and takes the room
of two. -/
def readGroups : Nat → Bool → List Char → GroupRun
  | 0, _, cs => ⟨[], false, cs⟩
  | n + 1, first, cs =>
      -- Two groups must be left for an address of version 4.
      match if 0 < n then (behindColon first cs).bind readIpv4 else none with
      | some (ip, rest) => ⟨ip.groups, true, rest⟩
      | none =>
          match (behindColon first cs).bind (readNumeral groupRule) with
          | some (g, rest) =>
              let run := readGroups n false rest
              ⟨UInt16.ofNat g :: run.groups, run.dotted, run.rest⟩
          | none => ⟨[], false, cs⟩

/-- The address with the given groups in front and at the end and zeros between them. -/
def Ipv6.ofEnds (front back : List UInt16) : Option Ipv6 :=
  let groups := front ++ List.replicate (8 - (front.length + back.length)) 0 ++ back
  if h : groups.length = 8 then some ⟨groups, h⟩ else none

/-- An address of version 6 at the front of a text. -/
def readIpv6 (cs : List Char) : Option (Ipv6 × List Char) :=
  let front := readGroups 8 true cs
  if h : front.groups.length = 8 then some (⟨front.groups, h⟩, front.rest)
  else if front.dotted then none
  else
    match front.rest with
    | ':' :: ':' :: rest =>
        -- The gap stands for at least one group, so one group fewer has room behind it.
        let back := readGroups (7 - front.groups.length) true rest
        (Ipv6.ofEnds front.groups back.groups).map fun ip => (ip, back.rest)
    | _ => none

/-! ### Either version -/

def readIpAddress (cs : List Char) : Option (IpAddress × List Char) :=
  match readIpv4 cs with
  | some (ip, rest) => some (.v4 ip, rest)
  | none => (readIpv6 cs).map fun (ip, rest) => (.v6 ip, rest)

/-- The value that a reader gives when it takes the whole text. -/
def whole {α : Type} (r : Option (α × List Char)) : Option α :=
  match r with
  | some (a, []) => some a
  | _ => none

/-- The address that a text denotes. -/
def IpAddress.ofText? (s : String) : Option IpAddress := whole (readIpAddress s.toList)

/-! ### Writing -/

def Ipv4.text (ip : Ipv4) : String :=
  ".".intercalate ([ip.a, ip.b, ip.c, ip.d].map fun o => toString o.toNat)

/-- Groups in hexadecimal digits, joined by colons. -/
def groupsText (gs : List UInt16) : String :=
  ":".intercalate (gs.map fun g => String.ofList (Nat.toDigits 16 g.toNat))

/-- The number of zero groups at the front. -/
def zeroRun (gs : List UInt16) : Nat := (gs.takeWhile (· == 0)).length

/-- Position and length of the longest run of zero groups from position `i` on; of runs of one
length the first. -/
def longestZeros : Nat → List UInt16 → Nat × Nat
  | _, [] => (0, 0)
  | i, g :: gs =>
      let here := zeroRun (g :: gs)
      let later := longestZeros (i + 1) gs
      if later.2 ≤ here then (i, here) else later

/-- The text of an address of version 6: the longest run of at least two zero groups becomes `::`,
and a mapped address of version 4 keeps its dotted form. -/
def Ipv6.text (ip : Ipv6) : String :=
  match ip.mapped? with
  | some ip => "::ffff:" ++ ip.text
  | none =>
      let gs := ip.groups
      let (start, count) := longestZeros 0 gs
      if 1 < count then groupsText (gs.take start) ++ "::" ++ groupsText (gs.drop (start + count))
      else groupsText gs

def IpAddress.text : IpAddress → String
  | .v4 ip => ip.text
  | .v6 ip => ip.text

end Net

end ConferenceAuth
