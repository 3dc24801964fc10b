/-
**Query strings in form encoding.**

A query is a row of pairs between ampersands; a pair is a name and, behind the first equals sign, a
value.  Empty pairs are skipped and a missing value is empty.  In names and values a plus sign is a
space and a percent sign with two hexadecimal digits is the byte that they denote; a percent sign
without them stands for itself.  The bytes are then read as UTF-8, with replacement characters for
what cannot be read.

Main definitions:

* `Query.unescape` — the bytes of a name or value;
* `Query.pieces`, `Query.pairs` — the pairs of a query.

Main results:

* `Query.percentDecode_escape`, `Query.percentDecode_cons` — what the reader of escapes does with
  an escape and with any other byte;
* `Query.splitFirst_append`, `Query.pieces_append` — a separator that comes first splits what stands
  around it;
* `Query.splitFirst_of_not_mem`, `Query.pieces_of_not_mem` — without a separator there is nothing to
  split.
-/
import ConferenceAuth.Text.Utf8

set_option autoImplicit false

namespace ConferenceAuth

namespace Query

/-! ### Escapes -/

def byte (c : Char) : UInt8 := UInt8.ofNat c.toNat

/-- The value of a hexadecimal digit. -/
def hexValue? (b : UInt8) : Option UInt8 :=
  if byte '0' ≤ b ∧ b ≤ byte '9' then some (b - byte '0')
  else if byte 'a' ≤ b ∧ b ≤ byte 'f' then some (b - byte 'a' + 10)
  else if byte 'A' ≤ b ∧ b ≤ byte 'F' then some (b - byte 'A' + 10)
  else none

def hexByte? (hi lo : UInt8) : Option UInt8 :=
  match hexValue? hi, hexValue? lo with
  | some h, some l => some (h * 16 + l)
  | _, _ => none

/-- The byte of the escape that bytes start with, if they start with one. -/
def escape? : List UInt8 → Option UInt8
  | b :: hi :: lo :: _ => if b = byte '%' then hexByte? hi lo else none
  | _ => none

/-- Bytes with their percent escapes read, behind the given number of bytes that an escape has taken
already. -/
def percentDecodeFrom : Nat → List UInt8 → List UInt8
  | _, [] => []
  | taken + 1, _ :: bs => percentDecodeFrom taken bs
  | 0, b :: bs =>
      match escape? (b :: bs) with
      | some x => x :: percentDecodeFrom 2 bs
      | none => b :: percentDecodeFrom 0 bs

/-- Bytes with their percent escapes read; a percent sign without two digits stands for itself. -/
def percentDecode (bs : List UInt8) : List UInt8 := percentDecodeFrom 0 bs

/-- An escape is read as its byte. -/
theorem percentDecode_escape {hi lo x : UInt8} {rest : List UInt8}
    (h : hexByte? hi lo = some x) :
    percentDecode (byte '%' :: hi :: lo :: rest) = x :: percentDecode rest := by
  simp [percentDecode, percentDecodeFrom, escape?, h]

/-- Any other byte stands for itself. -/
theorem percentDecode_cons {b : UInt8} {bs : List UInt8} (h : b ≠ byte '%') :
    percentDecode (b :: bs) = b :: percentDecode bs := by
  have he : escape? (b :: bs) = none := by
    unfold escape?
    split
    · next heq =>
      cases heq
      exact if_neg h
    · rfl
  simp [percentDecode, percentDecodeFrom, he]

/-- Bytes with spaces for plus signs. -/
def plusToSpace (bs : List UInt8) : List UInt8 :=
  bs.map fun b => if b = byte '+' then byte ' ' else b

/-- The bytes that a name or value stands for. -/
def unescape (bs : List UInt8) : List UInt8 := percentDecode (plusToSpace bs)

/-- The text that a name or value stands for. -/
def decode (bs : List UInt8) : String := String.ofList (Text.utf8Decode (unescape bs))

/-! ### Pairs -/

/-- What stands before and behind the first separator; without one, everything stands before it. -/
def splitFirst (sep : UInt8) : List UInt8 → List UInt8 × List UInt8
  | [] => ([], [])
  | b :: bs => if b = sep then ([], bs) else (b :: (splitFirst sep bs).1, (splitFirst sep bs).2)

/-- The pieces between separators. -/
def pieces (sep : UInt8) : List UInt8 → List (List UInt8)
  | [] => [[]]
  | b :: bs =>
      if b = sep then [] :: pieces sep bs
      else
        match pieces sep bs with
        | [] => [[b]]
        | p :: ps => (b :: p) :: ps

/-- The name and value of a piece. -/
def readPair (piece : List UInt8) : String × String :=
  let (name, value) := splitFirst (byte '=') piece
  (decode name, decode value)

/-- **The pairs of a query**, in order. -/
def pairs (query : List UInt8) : List (String × String) :=
  ((pieces (byte '&') query).filter (· ≠ [])).map readPair

/-- A separator that comes first splits what stands around it. -/
theorem splitFirst_append {sep : UInt8} {xs ys : List UInt8} (h : sep ∉ xs) :
    splitFirst sep (xs ++ sep :: ys) = (xs, ys) := by
  induction xs with
  | nil => simp [splitFirst]
  | cons x xs ih =>
      simp only [List.mem_cons, not_or] at h
      simp [splitFirst, ih h.2, Ne.symm h.1]

/-- A piece without separators goes to the front of the first one. -/
theorem pieces_append {sep : UInt8} {xs ys : List UInt8} (h : sep ∉ xs) :
    pieces sep (xs ++ sep :: ys) = xs :: pieces sep ys := by
  induction xs with
  | nil => simp [pieces]
  | cons x xs ih =>
      simp only [List.mem_cons, not_or] at h
      simp [pieces, ih h.2, Ne.symm h.1]

/-- Without a separator, everything stands before it. -/
theorem splitFirst_of_not_mem {sep : UInt8} {bs : List UInt8} (h : sep ∉ bs) :
    splitFirst sep bs = (bs, []) := by
  induction bs with
  | nil => rfl
  | cons b bs ih =>
      rw [List.mem_cons, not_or] at h
      rw [splitFirst, if_neg (Ne.symm h.1), ih h.2]

/-- What has no separator is one piece. -/
theorem pieces_of_not_mem {sep : UInt8} {bs : List UInt8} (h : sep ∉ bs) :
    pieces sep bs = [bs] := by
  induction bs with
  | nil => rfl
  | cons b bs ih =>
      rw [List.mem_cons, not_or] at h
      rw [pieces, if_neg (Ne.symm h.1), ih h.2]

end Query

end ConferenceAuth
