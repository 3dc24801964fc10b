/-
**What a JSON text stands for.**

A character may stand in a JSON text as it is, unless it is a quotation mark, a backslash or a
control character; a few have a letter of their own behind a backslash; and every one can be given
by its code point in hexadecimal digits, in two parts where four digits are too few.  So a text can
be written in many ways, but no writing stands for two texts: whoever reads `Text.jsonString` by
these rules finds the text that was written, and no other.

Main definitions:

* `Text.jsonEscapes` — the characters with a letter of their own;
* `Text.JsonSpells` — **a text and a way to write it** between quotation marks.

Main results:

* `Text.JsonSpells.unique` — a writing stands for one text only;
* `Text.jsonSpells_flatMap` — what `Text.jsonString` puts between quotation marks is a writing of
  the text.
-/
import ConferenceAuth.Proofs.Net.Literal
import ConferenceAuth.Text.Json

set_option autoImplicit false

namespace ConferenceAuth

namespace Text

/-! ### The ways to write a text -/

/-- The letters behind a backslash, and the characters that they stand for. -/
def jsonEscapes : List (Char × Char) :=
  [('"', '"'), ('\\', '\\'), ('/', '/'), ('b', '\x08'), ('f', '\x0c'), ('n', '\n'), ('r', '\r'),
    ('t', '\t')]

/-- **A text, and a way to write it** between quotation marks: each character as it is, by its
letter, or by its code point, which takes two parts from `0x10000` on. -/
inductive JsonSpells : List Char → List Char → Prop
  | nil : JsonSpells [] []
  | plain {c : Char} {cs text : List Char} (hc : 32 ≤ c.toNat) (hquote : c ≠ '"')
      (hbackslash : c ≠ '\\') (rest : JsonSpells cs text) : JsonSpells (c :: cs) (c :: text)
  | letter {x c : Char} {cs text : List Char} (hx : (x, c) ∈ jsonEscapes)
      (rest : JsonSpells cs text) : JsonSpells (c :: cs) ('\\' :: x :: text)
  | code {c d₁ d₂ d₃ d₄ : Char} {cs text : List Char} (hds : Digits 16 [d₁, d₂, d₃, d₄] c.toNat)
      (rest : JsonSpells cs text) : JsonSpells (c :: cs) ('\\' :: 'u' :: d₁ :: d₂ :: d₃ :: d₄ :: text)
  | codes {c d₁ d₂ d₃ d₄ e₁ e₂ e₃ e₄ : Char} {cs text : List Char} (hc : 0x10000 ≤ c.toNat)
      (hds : Digits 16 [d₁, d₂, d₃, d₄] (0xD800 + (c.toNat - 0x10000) / 0x400))
      (hes : Digits 16 [e₁, e₂, e₃, e₄] (0xDC00 + (c.toNat - 0x10000) % 0x400))
      (rest : JsonSpells cs text) :
      JsonSpells (c :: cs)
        ('\\' :: 'u' :: d₁ :: d₂ :: d₃ :: d₄ :: '\\' :: 'u' :: e₁ :: e₂ :: e₃ :: e₄ :: text)

/-! ### A writing stands for one text -/

/-- A row of digits has one number. -/
theorem Digits.unique {cs : List Char} {m n : Nat} (hm : Digits 16 cs m) (hn : Digits 16 cs n) :
    m = n := by
  have hread := fun k => @digits_iff 16 _ _ (Net.isDigit_iff (Nat.le_refl 16)) cs k
  exact ((hread m).1 hm).2.symm.trans ((hread n).1 hn).2

/-- No letter stands for two characters, and none is that of code points. -/
theorem jsonEscapes_unique {x c d : Char} (hc : (x, c) ∈ jsonEscapes) (hd : (x, d) ∈ jsonEscapes) :
    c = d := by
  have hall : ∀ p ∈ jsonEscapes, ∀ q ∈ jsonEscapes, p.1 = q.1 → p.2 = q.2 := by decide
  exact hall _ hc _ hd rfl

theorem not_mem_jsonEscapes_u {c : Char} : ('u', c) ∉ jsonEscapes := by
  have hall : ∀ p ∈ jsonEscapes, p.1 ≠ 'u' := by decide
  exact fun hc => hall _ hc rfl

/-- The first part of a code point in two parts is that of no character. -/
theorem toNat_ne_part (c d : Char) : c.toNat ≠ 0xD800 + (d.toNat - 0x10000) / 0x400 := by
  have hvalid : ∀ x : Char, x.toNat < 0xD800 ∨ 0xDFFF < x.toNat ∧ x.toNat < 0x110000 := Char.valid
  have hc := hvalid c
  have hd := hvalid d
  omega

/-- **A writing stands for one text only.** -/
theorem JsonSpells.unique {cs ds text : List Char} (h : JsonSpells cs text)
    (h' : JsonSpells ds text) : cs = ds := by
  induction h generalizing ds with
  | nil => cases h'; rfl
  | plain hc hquote hbackslash _ ih =>
      cases h' with
      | plain _ _ _ rest => rw [ih rest]
      | letter | code | codes => exact absurd rfl hbackslash
  | letter hx _ ih =>
      cases h' with
      | plain _ _ hbackslash => exact absurd rfl hbackslash
      | letter hx' rest => rw [ih rest, jsonEscapes_unique hx hx']
      | code | codes => exact absurd hx not_mem_jsonEscapes_u
  | code hds _ ih =>
      cases h' with
      | plain _ _ hbackslash => exact absurd rfl hbackslash
      | letter hx => exact absurd hx not_mem_jsonEscapes_u
      | code hds' rest => exact congrArg₂ List.cons (Char.toNat_inj.1 (hds.unique hds')) (ih rest)
      | codes _ hds' => exact absurd (hds.unique hds') (toNat_ne_part _ _)
  | codes hc hds hes _ ih =>
      cases h' with
      | plain _ _ hbackslash => exact absurd rfl hbackslash
      | letter hx => exact absurd hx not_mem_jsonEscapes_u
      | code hds' => exact absurd (hds'.unique hds) (toNat_ne_part _ _)
      | codes hc' hds' hes' rest =>
          -- quotient and remainder agree
          have hfirst := hds.unique hds'
          have hsecond := hes.unique hes'
          refine congrArg₂ List.cons (Char.toNat_inj.1 ?_) (ih rest)
          omega

/-! ### The way that is taken -/

/-- Four digits of a code point below `256`. -/
theorem digits_hex4 {n : Nat} (hn : n < 256) : Digits 16 (hex4 n) n := by
  have hdigit : ∀ v < 16, IsDigit 16 (Nat.digitChar v) v := fun v hv => ⟨hv, .inl rfl⟩
  have hzero : IsDigit 16 '0' 0 := hdigit 0 (by omega)
  have hrow : Digits 16 (hex4 n) (((0 * 16 + 0) * 16 + n / 16) * 16 + n % 16) :=
    .snoc (.snoc (.snoc (.one hzero) hzero) (hdigit _ (by omega))) (hdigit _ (by omega))
  have hsum : ((0 * 16 + 0) * 16 + n / 16) * 16 + n % 16 = n := by omega
  rwa [hsum] at hrow

/-- Each character is written in one of the ways. -/
theorem JsonSpells.jsonChar_append {cs text : List Char} (h : JsonSpells cs text) (c : Char) :
    JsonSpells (c :: cs) (jsonChar c ++ text) := by
  unfold jsonChar
  split
  case h_8 hquote hbackslash _ _ _ _ _ =>
    split
    · next hc => exact .code (digits_hex4 (by omega)) h
    · next hc => exact .plain (Nat.le_of_not_lt hc) hquote hbackslash h
  all_goals exact .letter (by decide) h

/-- **What stands between the quotation marks is a writing of the text.** -/
theorem jsonSpells_flatMap (cs : List Char) : JsonSpells cs (cs.flatMap jsonChar) := by
  induction cs with
  | nil => exact .nil
  | cons c cs ih =>
      rw [List.flatMap_cons]
      exact ih.jsonChar_append c

end Text

end ConferenceAuth
