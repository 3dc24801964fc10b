/-
**Which texts are integers.**

A property is an integer exactly if its text is a signed numeral of one that fits sixty-four bits,
with blanks around it or none.  The numeral may be as long as it likes: its number is that of its
digits, whatever the size, and only then is it compared with the two limits.  So every integer of
sixty-four bits is read back from its own decimal text, in a table of properties as well as in an
environment, and no other integer is.

Main results:

* `Text.Numeral.not_blank` — a numeral holds no blank, so the blanks around it are told from it;
* `Text.numeral_toString` — the decimal text of an integer is a numeral of it;
* `ConfigSource.readsAs_of_between` — a numeral between blanks is read;
* `integers_are_signed_numerals` — **exactly the signed numerals that fit are integers**.
-/
import ConferenceAuth.Proofs.Config.Reading

set_option autoImplicit false

namespace ConferenceAuth

/-! ### Numerals between blanks -/

namespace Text

/-- A digit is no blank. -/
theorem isBlank_of_isDigit {c : Char} (hc : c.isDigit = true) : isBlank c = false := by
  rw [Char.isDigit_iff_toNat] at hc
  have hzero : '0'.toNat = 48 := rfl
  have hnine : '9'.toNat = 57 := rfl
  rw [Bool.eq_false_iff]
  intro hblank
  simp only [isBlank, Bool.or_eq_true, Bool.and_eq_true, decide_eq_true_eq, beq_iff_eq] at hblank
  omega

/-- The characters of a row of digits are digits. -/
theorem Digits.isDigit {cs : List Char} {n : Nat} (h : Digits 10 cs n) :
    ∀ c ∈ cs, c.isDigit = true := ((digits_iff isDigit_ten_iff).1 h).1.2

theorem Numeral.ne_nil {cs : List Char} {n : Int} (h : Numeral cs n) : cs ≠ [] := by
  cases h with
  | plain hds => exact hds.ne_nil
  | plus hds => exact List.cons_ne_nil _ _
  | minus hds => exact List.cons_ne_nil _ _

/-- **A numeral holds no blank.** -/
theorem Numeral.not_blank {cs : List Char} {n : Int} (h : Numeral cs n) :
    ∀ c ∈ cs, isBlank c = false := by
  cases h with
  | plain hds => exact fun c hc => isBlank_of_isDigit (hds.isDigit c hc)
  | plus hds =>
      exact List.forall_mem_cons.2 ⟨by decide, fun c hc => isBlank_of_isDigit (hds.isDigit c hc)⟩
  | minus hds =>
      exact List.forall_mem_cons.2 ⟨by decide, fun c hc => isBlank_of_isDigit (hds.isDigit c hc)⟩

/-- Trimming finds a numeral between blanks. -/
theorem Numeral.trimsTo {cs front back : List Char} {n : Int} (h : Numeral cs n)
    (hfront : ∀ c ∈ front, isBlank c = true) (hback : ∀ c ∈ back, isBlank c = true) :
    TrimsTo (front ++ (cs ++ back)) cs where
  split := ⟨front, back, rfl, hfront, hback⟩
  ne_nil := h.ne_nil
  first c hc := h.not_blank c (List.mem_of_mem_head? hc)
  last c hc := h.not_blank c (List.mem_of_mem_getLast? hc)

/-- **The decimal text of an integer is a numeral of it.** -/
theorem numeral_toString (n : Int) : Numeral (toString n).toList n := by
  have htoList : ∀ m : Nat, (toString m).toList = Nat.toDigits 10 m := by
    intro m
    rw [Nat.toString_eq_ofList_toDigits, String.toList_ofList]
  cases n with
  | ofNat m =>
      have htext : (toString (Int.ofNat m)).toList = Nat.toDigits 10 m := htoList m
      rw [htext]
      exact .plain (digits_toDigits m)
  | negSucc m =>
      have htext : (toString (Int.negSucc m)).toList = '-' :: Nat.toDigits 10 (m + 1) := by
        show ("-" ++ toString (m + 1)).toList = _
        rw [String.toList_append, htoList]
        rfl
      rw [htext]
      exact .minus (digits_toDigits (m + 1))

end Text

/-! ### Integers between blanks -/

namespace ConfigSource

variable {source : ConfigSource} {name text : String} {cs front back : List Char} {n : Int}

/-- **A numeral between blanks is read** as its number. -/
theorem readsAs_of_between (htext : source.text? name = some text)
    (hbetween : text.toList = front ++ (cs ++ back))
    (hfront : ∀ c ∈ front, Text.isBlank c = true) (hback : ∀ c ∈ back, Text.isBlank c = true)
    (hcs : Text.Numeral cs n) : source.ReadsAs name n :=
  ⟨cs, ⟨text, htext, hbetween ▸ hcs.trimsTo hfront hback⟩, hcs⟩

/-- What reads as an integer is a numeral between blanks. -/
theorem ReadsAs.between (h : source.ReadsAs name n) :
    ∃ text front cs back, source.text? name = some text ∧ text.toList = front ++ (cs ++ back) ∧
      (∀ c ∈ front, Text.isBlank c = true) ∧ (∀ c ∈ back, Text.isBlank c = true) ∧
      Text.Numeral cs n := by
  obtain ⟨cs, ⟨text, htext, ⟨⟨front, back, hbetween, hfront, hback⟩, -, -, -⟩⟩, hcs⟩ := h
  exact ⟨text, front, cs, back, htext, hbetween, hfront, hback, hcs⟩

/-- A property that holds the decimal text of an integer between blanks is this integer, if it fits
sixty-four bits, and none otherwise. -/
theorem int?_of_toString (htext : source.text? name =
      some (String.ofList (front ++ ((toString n).toList ++ back))))
    (hfront : ∀ c ∈ front, Text.isBlank c = true) (hback : ∀ c ∈ back, Text.isBlank c = true)
    (m : Int) : source.int? name = some m ↔ m = n ∧ -2 ^ 63 ≤ n ∧ n ≤ 2 ^ 63 - 1 := by
  have hreads : source.ReadsAs name n :=
    readsAs_of_between htext String.toList_ofList hfront hback (Text.numeral_toString n)
  rw [int?_eq_some_iff]
  constructor
  · rintro ⟨hm, hlow, hhigh⟩
    obtain rfl := hm.unique hreads
    exact ⟨rfl, hlow, by omega⟩
  · rintro ⟨rfl, hlow, hhigh⟩
    exact ⟨hreads, hlow, by omega⟩

end ConfigSource

/-- **Exactly the signed numerals that fit are integers.**

* Of any source, a property is an integer exactly if its text is, between blanks or without any, a
  signed numeral of this integer, and the integer fits sixty-four bits.
* A property that holds the decimal text of an integer, between any blanks, is read back as this
  integer exactly if it fits, and as no other: in a table of properties under its own name, and in
  an environment under the name of its variable. -/
theorem integers_are_signed_numerals :
    (∀ (source : ConfigSource) (name : String) (n : Int),
      source.int? name = some n ↔
        (∃ text front cs back, source.text? name = some text ∧
          text.toList = front ++ (cs ++ back) ∧ (∀ c ∈ front, Text.isBlank c = true) ∧
          (∀ c ∈ back, Text.isBlank c = true) ∧ Text.Numeral cs n) ∧
        -2 ^ 63 ≤ n ∧ n ≤ 2 ^ 63 - 1) ∧
    ∀ (n : Int) (front back : List Char), (∀ c ∈ front, Text.isBlank c = true) →
      (∀ c ∈ back, Text.isBlank c = true) →
        let text := String.ofList (front ++ ((toString n).toList ++ back))
        (∀ (s : Settings) (name : String), s.get? name = some text →
          ∀ m, (ConfigSource.ofProperties s).int? name = some m ↔
            m = n ∧ -2 ^ 63 ≤ n ∧ n ≤ 2 ^ 63 - 1) ∧
        ∀ (vars : Settings) (name : String), vars.get? (variableName name) = some text →
          ∀ m, (ConfigSource.ofEnvironment vars).int? name = some m ↔
            m = n ∧ -2 ^ 63 ≤ n ∧ n ≤ 2 ^ 63 - 1 := by
  refine ⟨fun source name n => ?_, fun n front back hfront hback => ⟨fun s name htext => ?_,
    fun vars name htext => ?_⟩⟩
  · rw [ConfigSource.int?_eq_some_iff]
    refine and_congr ⟨fun h => h.between, ?_⟩ (and_congr_right fun _ => Int.le_sub_one_iff.symm)
    rintro ⟨text, front, cs, back, htext, hbetween, hfront, hback, hcs⟩
    exact ConfigSource.readsAs_of_between htext hbetween hfront hback hcs
  · exact ConfigSource.int?_of_toString htext hfront hback
  · exact ConfigSource.int?_of_toString htext hfront hback

/-- In an environment, the least integer of sixty-four bits is read between a no-break space, an
ideographic space and a line feed; the integer above the greatest one is not read; and a numeral may
have a plus sign and more zeros in front than any integer has digits. -/
theorem integers_at_the_limits :
    let source := ConfigSource.ofEnvironment [("AUTH_LEAST", "\u00A0\u3000-9223372036854775808\n"),
      ("AUTH_ABOVE", "9223372036854775808"), ("AUTH_ZEROS", "+00000000000000000000007")]
    source.int? "auth.least" = some (-9223372036854775808) ∧ source.int? "auth.above" = none ∧
      source.int? "auth.zeros" = some 7 := by
  intro source
  obtain ⟨hnumeral, hdecimal⟩ := integers_are_signed_numerals
  obtain ⟨-, hleast⟩ := hdecimal (-9223372036854775808) ['\u00A0', '\u3000'] ['\n']
    (List.forall_mem_cons.2 ⟨by decide, List.forall_mem_singleton.2 (by decide)⟩)
    (List.forall_mem_singleton.2 (by decide))
  obtain ⟨-, habove⟩ := hdecimal 9223372036854775808 [] [] nofun nofun
  refine ⟨(hleast _ "auth.least" (by decide +kernel) _).2 ⟨rfl, by decide, by decide⟩, ?_,
    (hnumeral source "auth.zeros" 7).2 ⟨⟨"+00000000000000000000007", [],
      "+00000000000000000000007".toList, [], by decide +kernel, by decide +kernel, nofun, nofun,
      Text.signed?_eq_some_iff.1 (by decide +kernel)⟩, by decide, by decide⟩⟩
  cases hread : source.int? "auth.above" with
  | none => rfl
  | some m =>
      obtain ⟨-, -, hhigh⟩ := (habove _ "auth.above" (by decide +kernel) m).1 hread
      exact absurd hhigh (by decide)

end ConferenceAuth
