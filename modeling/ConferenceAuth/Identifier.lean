/-
**Identifiers.**

Sessions and registry entries are known by opaque texts.  They come from a source of identifiers,
which gives out one after the other; a source is distinct when it never gives one out twice.  That
is all the gateway ever relies on, so nothing is said here about how the texts look.

Main definitions:

* `IdSource`, `IdSource.current`, `IdSource.advance`;
* `IdSource.Distinct`;
* `IdSource.numbered` — the identifiers that are numerals behind a fixed text.

Main results:

* `IdSource.distinct_numbered` — numbered identifiers are distinct.
-/
set_option autoImplicit false

namespace ConferenceAuth

/-- A source of identifiers: an endless sequence, and how many have been given out. -/
structure IdSource where
  /-- The identifiers in the order in which they are given out. -/
  nth : Nat → String
  /-- How many have been given out. -/
  issued : Nat := 0

namespace IdSource

/-- The identifier to be given out next. -/
def current (s : IdSource) : String := s.nth s.issued

/-- The source after that identifier has been given out. -/
def advance (s : IdSource) : IdSource := { s with issued := s.issued + 1 }

/-- No identifier is given out twice. -/
def Distinct (s : IdSource) : Prop := ∀ m n, s.nth m = s.nth n → m = n

@[simp] theorem nth_advance (s : IdSource) : s.advance.nth = s.nth := rfl

@[simp] theorem issued_advance (s : IdSource) : s.advance.issued = s.issued + 1 := rfl

theorem Distinct.advance {s : IdSource} (h : s.Distinct) : s.advance.Distinct := h

/-- The identifiers that are numerals behind a fixed text. -/
def numbered (stem : String) : IdSource := ⟨fun n => stem ++ toString n, 0⟩

theorem distinct_numbered (stem : String) : (numbered stem).Distinct := by
  intro m n h
  have hd : Nat.toDigits 10 m = Nat.toDigits 10 n := by
    have := congrArg String.toList h
    simpa [numbered, Nat.toString_eq_ofList_toDigits] using this
  rw [← Nat.ofDigitChars_ten_toDigits (n := m), hd, Nat.ofDigitChars_ten_toDigits]

end IdSource

end ConferenceAuth
