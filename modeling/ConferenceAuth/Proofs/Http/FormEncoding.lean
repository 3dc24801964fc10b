/-
**What is written into a query is read back.**

A text can be written into a query in many ways.  Each byte of its encoding may be written as an
escape, with digits in either letter case; a letter, a digit or one of a few signs may instead stand
for itself, and a space may be written as a plus sign.  The reader makes no difference between them:
of a name and a value in any such writing it gives back the name and the value, and however many
pairs there are between ampersands, it finds each of them.

Main definitions:

* `Query.HexDigit`, `Query.unreserved` — the digits of escapes, and the characters that may stand
  for themselves;
* `Query.Written`, `Query.Writes` — the ways to write bytes, and those to write a text;
* `Query.Gives` — a name and a value with an equals sign between them.

Main results:

* `Query.Written.unescape_eq` — whichever way bytes are written, they are read back;
* `Query.Writes.decode_eq` — **whichever way a text is written, it is read back**;
* `Query.Gives.readPair_eq` — and so are a name and its value;
* `Query.pairs_intercalate` — the pairs of a query are those that have been put between ampersands.
-/
import ConferenceAuth.Http.Query
import ConferenceAuth.Proofs.Text.Utf8

set_option autoImplicit false

namespace ConferenceAuth

namespace Query

/-! ### How bytes are written -/

/-- A hexadecimal digit of a value, in either letter case. -/
def HexDigit (c : Char) (n : Nat) : Prop := c = Nat.digitChar n ∨ c = (Nat.digitChar n).toUpper

/-- The characters that may stand for themselves. -/
def unreserved (c : Char) : Bool := c.isAlphanum || ['-', '.', '_', '~', '*'].contains c

/-- **The ways to write bytes.** -/
inductive Written : List UInt8 → List Char → Prop
  | nil : Written [] []
  | escape {b : UInt8} {hi lo : Char} {bs : List UInt8} {cs : List Char}
      (hhi : HexDigit hi (b.toNat / 16)) (hlo : HexDigit lo (b.toNat % 16))
      (rest : Written bs cs) : Written (b :: bs) ('%' :: hi :: lo :: cs)
  | plain {c : Char} {bs : List UInt8} {cs : List Char} (hc : unreserved c = true)
      (rest : Written bs cs) : Written (byte c :: bs) (c :: cs)
  | plus {bs : List UInt8} {cs : List Char} (rest : Written bs cs) :
      Written (byte ' ' :: bs) ('+' :: cs)

/-- A character that may stand for itself is an ASCII character. -/
theorem ascii_of_unreserved {c : Char} (h : unreserved c = true) : c.toNat < 0x80 := by
  rcases Bool.or_eq_true_iff.1 h with h | h
  · -- all three ranges end in the first half of a byte
    rcases Bool.or_eq_true_iff.1 h with hletter | hdigit
    · rcases Bool.or_eq_true_iff.1 hletter with hupper | hlower
      · have hle : c.toNat ≤ 90 := (of_decide_eq_true hupper).2
        omega
      · have hle : c.toNat ≤ 122 := of_decide_eq_true (Bool.and_eq_true_iff.1 hlower).2
        omega
    · have hle : c.toNat ≤ 57 := of_decide_eq_true (Bool.and_eq_true_iff.1 hdigit).2
      omega
  · have hall : ∀ c ∈ ['-', '.', '_', '~', '*'], c.toNat < 0x80 := by simp
    exact hall c (List.contains_iff_mem.1 h)

/-- ASCII characters are different bytes. -/
theorem byte_ne {c x : Char} (hc : c.toNat < 0x80) (hx : x.toNat < 0x80) (h : c ≠ x) :
    byte c ≠ byte x := by
  intro heq
  have hcode := congrArg UInt8.toNat heq
  rw [byte, byte, UInt8.toNat_ofNat_of_lt' (Nat.lt_trans hc (by decide)),
    UInt8.toNat_ofNat_of_lt' (Nat.lt_trans hx (by decide))] at hcode
  exact h (Char.toNat_inj.1 hcode)

/-- What is not among ASCII characters is not among their bytes. -/
theorem byte_not_mem_map {cs : List Char} (hcs : ∀ c ∈ cs, c.toNat < 0x80) {x : Char}
    (hx : x.toNat < 0x80) (h : x ∉ cs) : byte x ∉ cs.map byte := by
  rw [List.mem_map]
  rintro ⟨c, hc, heq⟩
  exact byte_ne (hcs c hc) hx (fun hcx => h (hcx ▸ hc)) heq

/-- A character that may stand for itself is no byte with a meaning of its own. -/
theorem byte_ne_of_unreserved {c x : Char} (hc : unreserved c = true) (hx : x = '+' ∨ x = '%') :
    byte c ≠ byte x := by
  rcases hx with rfl | rfl
  all_goals
    refine byte_ne (ascii_of_unreserved hc) (by decide) ?_
    rintro rfl
    cases hc

/-- A digit of an escape may stand for itself elsewhere, and has its value. -/
theorem HexDigit.spec {c : Char} {n : Nat} (h : HexDigit c n) (hn : n < 16) :
    unreserved c = true ∧ hexValue? (byte c) = some (UInt8.ofNat n) := by
  have hlower : ∀ n : Fin 16, unreserved (Nat.digitChar n) = true ∧
      hexValue? (byte (Nat.digitChar n)) = some (UInt8.ofNat n) := by decide
  have hupper : ∀ n : Fin 16, unreserved (Nat.digitChar n).toUpper = true ∧
      hexValue? (byte (Nat.digitChar n).toUpper) = some (UInt8.ofNat n) := by decide
  rcases h with rfl | rfl
  · exact hlower ⟨n, hn⟩
  · exact hupper ⟨n, hn⟩

/-- **The two digits of a byte.** -/
theorem hexByte?_of_hexDigit {b : UInt8} {hi lo : Char} (hhi : HexDigit hi (b.toNat / 16))
    (hlo : HexDigit lo (b.toNat % 16)) : hexByte? (byte hi) (byte lo) = some b := by
  have hb : b.toNat < 256 := b.toNat_lt
  rw [hexByte?, (hhi.spec (by omega)).2, (hlo.spec (by omega)).2]
  have hdiv : b.toNat / 16 < UInt8.size := Nat.lt_of_le_of_lt (Nat.div_le_self ..) hb
  have hmod : b.toNat % 16 < UInt8.size := Nat.lt_of_le_of_lt (Nat.mod_le ..) hb
  refine congrArg some (UInt8.toNat_inj.1 ?_)
  rw [UInt8.toNat_add, UInt8.toNat_mul, UInt8.toNat_ofNat_of_lt' hdiv,
    UInt8.toNat_ofNat_of_lt' hmod]
  show (b.toNat / 16 * 16 % 256 + b.toNat % 16) % 256 = b.toNat
  omega

/-! ### What a writing looks like -/

/-- Percent signs, plus signs and characters that may stand for themselves. -/
theorem Written.mem {bs : List UInt8} {cs : List Char} (h : Written bs cs) :
    ∀ c ∈ cs, c = '%' ∨ c = '+' ∨ unreserved c = true := by
  induction h with
  | nil => simp
  | @escape b hi lo bs cs hhi hlo _ ih =>
      have hb : b.toNat < 256 := b.toNat_lt
      have hhi := (hhi.spec (by omega)).1
      have hlo := (hlo.spec (by omega)).1
      rw [List.forall_mem_cons, List.forall_mem_cons, List.forall_mem_cons]
      exact ⟨.inl rfl, .inr (.inr hhi), .inr (.inr hlo), ih⟩
  | plain hc _ ih => exact List.forall_mem_cons.2 ⟨.inr (.inr hc), ih⟩
  | plus _ ih => exact List.forall_mem_cons.2 ⟨.inr (.inl rfl), ih⟩

/-- A separator does not stand in it. -/
theorem Written.not_mem {bs : List UInt8} {cs : List Char} (h : Written bs cs) {x : Char}
    (hx : x ∈ ['&', '=', '#']) : x ∉ cs := by
  have hall : ∀ x ∈ ['&', '=', '#'], ¬ (x = '%' ∨ x = '+' ∨ unreserved x = true) := by
    simp [unreserved]
  exact fun hmem => hall x hx (h.mem x hmem)

theorem Written.ascii {bs : List UInt8} {cs : List Char} (h : Written bs cs) :
    ∀ c ∈ cs, c.toNat < 0x80 := by
  intro c hc
  rcases h.mem c hc with rfl | rfl | hc
  · decide
  · decide
  · exact ascii_of_unreserved hc

/-! ### What is read -/

theorem plusToSpace_cons {b : UInt8} (bs : List UInt8) (h : b ≠ byte '+') :
    plusToSpace (b :: bs) = b :: plusToSpace bs := by
  rw [plusToSpace, List.map_cons, if_neg h]
  rfl

/-- **Whichever way bytes are written, they are read back.** -/
theorem Written.unescape_eq {bs : List UInt8} {cs : List Char} (h : Written bs cs) :
    unescape (cs.map byte) = bs := by
  unfold unescape
  induction h with
  | nil => rfl
  | @escape b hi lo bs cs hhi hlo _ ih =>
      have hb : b.toNat < 256 := b.toNat_lt
      have hplus : ∀ {c n}, HexDigit c n → n < 16 → byte c ≠ byte '+' := fun h hn =>
        byte_ne_of_unreserved (h.spec hn).1 (.inl rfl)
      rw [List.map_cons, List.map_cons, List.map_cons, plusToSpace_cons _ (by decide),
        plusToSpace_cons _ (hplus hhi (by omega)), plusToSpace_cons _ (hplus hlo (by omega)),
        percentDecode_escape (hexByte?_of_hexDigit hhi hlo), ih]
  | plain hc _ ih =>
      rw [List.map_cons, plusToSpace_cons _ (byte_ne_of_unreserved hc (.inl rfl)),
        percentDecode_cons (byte_ne_of_unreserved hc (.inr rfl)), ih]
  | @plus bs cs _ ih =>
      have hspace : plusToSpace ((('+' : Char) :: cs).map byte) =
          byte ' ' :: plusToSpace (cs.map byte) := rfl
      rw [hspace, percentDecode_cons (by decide), ih]

/-- **The ways to write a text**: those to write the bytes of its encoding. -/
def Writes (text : String) (cs : List Char) : Prop := Written (Text.utf8Encode text.toList) cs

/-- A text of characters that may stand for themselves may be written as it is. -/
theorem writes_self {text : String} (h : text.toList.all unreserved = true) :
    Writes text text.toList := by
  have hbytes : Text.utf8Encode text.toList = text.toList.map byte :=
    Text.utf8Encode_of_ascii fun c hc => ascii_of_unreserved (List.all_eq_true.1 h c hc)
  rw [Writes, hbytes]
  generalize text.toList = cs at h
  induction cs with
  | nil => exact .nil
  | cons c cs ih =>
      obtain ⟨hc, hcs⟩ := Bool.and_eq_true_iff.1 h
      exact .plain hc (ih hcs)

/-- **Whichever way a text is written, it is read back.** -/
theorem Writes.decode_eq {text : String} {cs : List Char} (h : Writes text cs) :
    decode (cs.map byte) = text := by
  rw [decode, Written.unescape_eq h, Text.utf8Decode_encode, String.ofList_toList]

/-! ### Pairs -/

/-- **A piece of a query gives a name a value.** -/
def Gives (name value : String) (piece : List Char) : Prop :=
  ∃ n v, piece = n ++ '=' :: v ∧ Writes name n ∧ Writes value v

theorem Gives.ne_nil {name value : String} {piece : List Char} (h : Gives name value piece) :
    piece ≠ [] := by
  obtain ⟨n, v, rfl, -⟩ := h
  simp

/-- **Such a piece is read as the name and the value.** -/
theorem Gives.readPair_eq {name value : String} {piece : List Char} (h : Gives name value piece) :
    readPair (piece.map byte) = (name, value) := by
  obtain ⟨n, v, rfl, hn, hv⟩ := h
  have hsplit : byte '=' ∉ n.map byte :=
    byte_not_mem_map hn.ascii (by decide) (hn.not_mem (by decide))
  rw [List.map_append, List.map_cons, readPair, splitFirst_append hsplit]
  dsimp only
  rw [hn.decode_eq, hv.decode_eq]

/-- A name alone has the empty value. -/
theorem Writes.readPair_eq {name : String} {cs : List Char} (h : Writes name cs) :
    readPair (cs.map byte) = (name, "") := by
  have hsplit : byte '=' ∉ cs.map byte :=
    byte_not_mem_map h.ascii (by decide) (h.not_mem (by decide))
  rw [readPair, splitFirst_of_not_mem hsplit]
  dsimp only
  rw [h.decode_eq]
  rfl

/-- What stands between separators is ASCII, without a separator and without the start of a
fragment. -/
def Enclosed (piece : List Char) : Prop := ∀ c ∈ piece, c.toNat < 0x80 ∧ c ≠ '&' ∧ c ≠ '#'

theorem enclosed_nil : Enclosed [] := nofun

theorem Written.enclosed {bs : List UInt8} {cs : List Char} (h : Written bs cs) : Enclosed cs := by
  intro c hc
  refine ⟨h.ascii c hc, ?_, ?_⟩ <;> rintro rfl
  · exact h.not_mem (by decide) hc
  · exact h.not_mem (by decide) hc

theorem Gives.enclosed {name value : String} {piece : List Char} (h : Gives name value piece) :
    Enclosed piece := by
  obtain ⟨n, v, rfl, hn, hv⟩ := h
  intro c hc
  rcases List.mem_append.1 hc with hc | hc
  · exact hn.enclosed c hc
  · rcases List.mem_cons.1 hc with rfl | hc
    · decide
    · exact hv.enclosed c hc

/-! ### The pieces of a query -/

/-- A separator is not among the bytes of an enclosed piece. -/
theorem Enclosed.not_mem {piece : List Char} (h : Enclosed piece) :
    byte '&' ∉ piece.map byte :=
  byte_not_mem_map (fun c hc => (h c hc).1) (by decide) fun hmem => (h _ hmem).2.1 rfl

/-- **The pieces are those that have been put between ampersands.** -/
theorem pieces_intercalate {ps : List (List Char)} (hne : ps ≠ []) (h : ∀ p ∈ ps, Enclosed p) :
    pieces (byte '&') ((['&'].intercalate ps).map byte) = ps.map (·.map byte) := by
  induction ps with
  | nil => exact absurd rfl hne
  | cons p ps ih =>
      have hp := (h p List.mem_cons_self).not_mem
      cases ps with
      | nil => simp [pieces_of_not_mem hp]
      | cons q ps =>
          have ih := ih (by simp) fun p hp => h p (List.mem_cons_of_mem _ hp)
          rw [List.intercalate_cons_cons, List.append_assoc, List.map_append,
            List.singleton_append, List.map_cons, pieces_append hp, ih]
          rfl

/-- What holds of the ampersand and of the characters of all pieces holds of those of the query. -/
theorem forall_mem_intercalate {P : Char → Prop} (hsep : P '&') {ps : List (List Char)}
    (h : ∀ p ∈ ps, ∀ c ∈ p, P c) : ∀ c ∈ ['&'].intercalate ps, P c := by
  induction ps with
  | nil => simp
  | cons p ps ih =>
      have hp := h p List.mem_cons_self
      cases ps with
      | nil => simpa using hp
      | cons q ps =>
          have ih := ih fun p hp => h p (List.mem_cons_of_mem _ hp)
          rw [List.intercalate_cons_cons]
          simp only [List.mem_append, List.mem_singleton]
          rintro c ((hc | rfl) | hc)
          · exact hp c hc
          · exact hsep
          · exact ih c hc

/-- **The pairs of a query are those that have been put between ampersands**, without the empty
ones. -/
theorem pairs_intercalate {ps : List (List Char)} (hne : ps ≠ []) (h : ∀ p ∈ ps, Enclosed p) :
    pairs (Text.utf8Encode (['&'].intercalate ps)) =
      (ps.filter (· ≠ [])).map fun p => readPair (p.map byte) := by
  have hascii := forall_mem_intercalate (P := fun c => c.toNat < 0x80) (by decide)
    fun p hp c hc => (h p hp c hc).1
  have hbytes : Text.utf8Encode (['&'].intercalate ps) = (['&'].intercalate ps).map byte :=
    Text.utf8Encode_of_ascii hascii
  rw [hbytes, pairs, pieces_intercalate hne h, List.filter_map, List.map_map]
  simp [Function.comp_def]

end Query

end ConferenceAuth
