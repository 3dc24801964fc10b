/-
**Cutting a text at a byte offset.**

A fixed number of bytes is looked at when the start of a text is compared with a scheme name.  The
cut succeeds only on the boundary of two characters, where characters count with the length of their
UTF-8 encodings.

Main definitions:

* `Text.byteLength` — the length of a text in bytes;
* `Text.splitAtByte?` — the two parts of a text on both sides of a byte offset.

Main results:

* `Text.splitAtByte?_eq_some_iff` — a cut gives back the two parts of the text, of which the first
  has the wanted length.
-/
set_option autoImplicit false

namespace ConferenceAuth

namespace Text

/-- The length of a text in bytes. -/
def byteLength : List Char → Nat
  | [] => 0
  | c :: cs => c.utf8Size + byteLength cs

@[simp] theorem byteLength_nil : byteLength [] = 0 := rfl

@[simp] theorem byteLength_cons (c : Char) (cs : List Char) :
    byteLength (c :: cs) = c.utf8Size + byteLength cs := rfl

/-- The parts of a text before and behind a byte offset, if a character starts there or the text
ends there. -/
def splitAtByte? : Nat → List Char → Option (List Char × List Char)
  | 0, cs => some ([], cs)
  | _ + 1, [] => none
  | n + 1, c :: cs =>
      if c.utf8Size ≤ n + 1 then
        (splitAtByte? (n + 1 - c.utf8Size) cs).map fun (front, back) => (c :: front, back)
      else none

/-- **A cut gives back the two parts of the text**, of which the first has the wanted length. -/
theorem splitAtByte?_eq_some_iff {n : Nat} {cs front back : List Char} :
    splitAtByte? n cs = some (front, back) ↔ cs = front ++ back ∧ byteLength front = n := by
  induction cs generalizing n front with
  | nil =>
      cases n with
      | zero =>
          simp only [splitAtByte?, Option.some.injEq, Prod.mk.injEq, List.nil_eq_append_iff]
          constructor
          · rintro ⟨rfl, rfl⟩; simp
          · rintro ⟨⟨rfl, rfl⟩, _⟩; simp
      | succ n =>
          simp only [splitAtByte?, reduceCtorEq, List.nil_eq_append_iff, false_iff, not_and]
          rintro ⟨rfl, rfl⟩; simp
  | cons c cs ih =>
      have hpos := c.utf8Size_pos
      cases n with
      | zero =>
          simp only [splitAtByte?, Option.some.injEq, Prod.mk.injEq]
          constructor
          · rintro ⟨rfl, rfl⟩; simp
          · rintro ⟨h, hl⟩
            cases front with
            | nil => exact ⟨rfl, h⟩
            | cons d front => simp at hl; have := d.utf8Size_pos; omega
      | succ n =>
          simp only [splitAtByte?]
          split
          · next hle =>
            simp only [Option.map_eq_some_iff, Prod.mk.injEq, Prod.exists]
            constructor
            · rintro ⟨a, b, h, rfl, rfl⟩
              obtain ⟨rfl, hl⟩ := ih.1 h
              simp only [List.cons_append, byteLength_cons, hl, true_and]
              omega
            · rintro ⟨h, hl⟩
              cases front with
              | nil => simp at hl
              | cons d front =>
                  simp only [List.cons_append, List.cons.injEq] at h
                  obtain ⟨rfl, rfl⟩ := h
                  simp only [byteLength_cons] at hl
                  exact ⟨front, back, ih.2 ⟨rfl, by omega⟩, rfl, rfl⟩
          · next hlt =>
            simp only [reduceCtorEq, false_iff, not_and]
            intro h hl
            cases front with
            | nil => simp at hl
            | cons d front =>
                simp only [List.cons_append, List.cons.injEq] at h
                obtain ⟨rfl, _⟩ := h
                simp only [byteLength_cons] at hl
                omega

end Text

end ConferenceAuth
