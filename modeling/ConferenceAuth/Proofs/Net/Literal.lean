/-
**Which texts are literals of internet addresses, and of which.**

The readers of literals go from left to right, try the dotted form first wherever there is room for
it, and take as many groups as they can.  Here it is said how a literal can be written, without an
order of reading.  An address of version 4 is written as four octets with dots between them.  An
address of version 6 is written as eight groups with colons between them, or with two colons in the
place of some groups of zeros, of which there is at least one; the last two groups may be written as
an address of version 4.

Main definitions:

* `Net.NumeralRule.Writes` — a numeral that a place in a literal takes, with its number;
* `Net.Ipv4.Written`, `Net.Ipv6.Written`, `Net.IpAddress.Written` — the literals of an address;
* `Net.Groups`, `Net.Side` — groups joined by colons, and what stands on either side of a gap.

Main results:

* `Net.readNumeral_of_writes`, `Net.writes_of_readNumeral` — the numerals that are read;
* `Net.readIpv4_of_written`, `Net.written_of_readIpv4` — the literals of version 4 that are read, in
  front of whatever does not go on with them;
* `Net.readIpv6_of_written`, `Net.written_of_readIpv6` — those of version 6;
* `Net.IpAddress.ofText?_eq_some_iff` — **exactly the literals are read, each as its address**.
-/
import ConferenceAuth.Net.IpAddress
import ConferenceAuth.Proofs.Text.Numeral

set_option autoImplicit false

namespace ConferenceAuth

namespace Net

/-! ### Numerals -/

/-- The values of hexadecimal digits. -/
theorem hexValue?_eq_some_iff {c : Char} {v : Nat} : hexValue? c = some v ↔ Text.IsDigit 16 c v := by
  constructor
  · intro h
    have hsmall : ∀ v < 16, 10 ≤ v → (Nat.digitChar v).toNat = v + 87 := by decide
    have hcapital : ∀ v < 16, 10 ≤ v → (Nat.digitChar v).toUpper.toNat = v + 55 := by decide
    unfold hexValue? at h
    split at h
    · next hc =>
      have hrange : 48 ≤ c.toNat ∧ c.toNat ≤ 57 := hc
      cases h
      refine ⟨by omega, .inl (Char.toNat_inj.1 ?_)⟩
      rw [Nat.toNat_digitChar_of_lt_ten (by omega)]
      omega
    · split at h
      · next hc =>
        have hrange : 97 ≤ c.toNat ∧ c.toNat ≤ 102 := hc
        cases h
        refine ⟨by omega, .inl (Char.toNat_inj.1 ?_)⟩
        rw [hsmall _ (by omega) (by omega)]
        omega
      · split at h
        · next hc =>
          have hrange : 65 ≤ c.toNat ∧ c.toNat ≤ 70 := hc
          cases h
          refine ⟨by omega, .inr (Char.toNat_inj.1 ?_)⟩
          rw [hcapital _ (by omega) (by omega)]
          omega
        · cases h
  · rintro ⟨hv, hc⟩
    have hall : ∀ v : Fin 16, hexValue? (Nat.digitChar v) = some v.val ∧
        hexValue? (Nat.digitChar v).toUpper = some v.val := by decide
    obtain ⟨hsmall, hcapital⟩ := hall ⟨v, hv⟩
    obtain rfl | rfl := hc
    · exact hsmall
    · exact hcapital

/-- The digits of a base, and their values. -/
theorem isDigit_iff {base : Nat} (hbase : base ≤ 16) (c : Char) (v : Nat) :
    Text.IsDigit base c v ↔ isDigitIn base c = true ∧ (hexValue? c).getD 0 = v := by
  have hhex : Text.IsDigit base c v ↔ hexValue? c = some v ∧ v < base := by
    rw [hexValue?_eq_some_iff]
    exact ⟨fun h => ⟨⟨Nat.lt_of_lt_of_le h.lt_base hbase, h.written⟩, h.lt_base⟩,
      fun h => ⟨h.2, h.1.written⟩⟩
  rw [hhex, isDigitIn]
  cases hexValue? c with
  | none => simp
  | some w =>
      simp only [Option.some.injEq, Option.any_some, decide_eq_true_eq, Option.getD_some]
      constructor
      · rintro ⟨rfl, h⟩
        exact ⟨h, rfl⟩
      · rintro ⟨h, rfl⟩
        exact ⟨rfl, h⟩

/-- **A numeral that a place in a literal takes**, with its number. -/
structure NumeralRule.Writes (rule : NumeralRule) (ds : List Char) (n : Nat) : Prop where
  digits : Text.Digits rule.base ds n
  short : ∀ k, rule.maxDigits = some k → ds.length ≤ k
  noZero : rule.leadingZeros = true ∨ ds.length ≤ 1 ∨ ds.head? ≠ some '0'
  small : n < rule.bound

/-- No digit of a base comes first. -/
def NoDigit (base : Nat) (t : List Char) : Prop := ∀ c ∈ t.head?, isDigitIn base c = false

theorem noDigit_cons {base : Nat} {c : Char} (hc : isDigitIn base c = false) (t : List Char) :
    NoDigit base (c :: t) := by
  rintro _ ⟨⟩
  exact hc

variable {rule : NumeralRule} {ds t cs rest : List Char} {n : Nat}

/-- The digits of a numeral are digits of the base. -/
theorem NumeralRule.Writes.isDigitIn (h : rule.Writes ds n) (hbase : rule.base ≤ 16) :
    ∀ c ∈ ds, isDigitIn rule.base c = true :=
  ((Text.digits_iff (isDigit_iff hbase)).1 h.digits).1.2

/-- A rule takes a row of digits for a numeral exactly if it allows them. -/
theorem writes_iff (hbase : rule.base ≤ 16) :
    rule.Writes ds n ↔ (∀ c ∈ ds, isDigitIn rule.base c = true) ∧ rule.allows ds = true ∧
      valueOfDigits rule.base ds = n := by
  have hdigits : Text.Digits rule.base ds n ↔ (ds ≠ [] ∧ ∀ c ∈ ds, isDigitIn rule.base c = true) ∧
      valueOfDigits rule.base ds = n := Text.digits_iff (isDigit_iff hbase)
  have hallows : rule.allows ds = true ↔ ds ≠ [] ∧ (∀ k, rule.maxDigits = some k → ds.length ≤ k) ∧
      (rule.leadingZeros = true ∨ ds.length ≤ 1 ∨ ds.head? ≠ some '0') ∧
      valueOfDigits rule.base ds < rule.bound := by
    simp [NumeralRule.allows, Option.all_eq_true, and_assoc, or_assoc]
  constructor
  · rintro ⟨hds, hshort, hzero, hsmall⟩
    obtain ⟨⟨hne, hall⟩, rfl⟩ := hdigits.1 hds
    exact ⟨hall, hallows.2 ⟨hne, hshort, hzero, hsmall⟩, rfl⟩
  · rintro ⟨hall, hds, rfl⟩
    obtain ⟨hne, hshort, hzero, hsmall⟩ := hallows.1 hds
    exact ⟨hdigits.2 ⟨⟨hne, hall⟩, rfl⟩, hshort, hzero, hsmall⟩

/-- Where no digit comes first, none is taken. -/
theorem NoDigit.span {base : Nat} (ht : NoDigit base t) :
    t.takeWhile (isDigitIn base) = [] ∧ t.dropWhile (isDigitIn base) = t := by
  cases t with
  | nil => exact ⟨rfl, rfl⟩
  | cons c t =>
      have hc : ¬ isDigitIn base c = true := by simp [ht c rfl]
      exact ⟨List.takeWhile_cons_of_neg hc, List.dropWhile_cons_of_neg hc⟩

/-- The digits in front of such a text are all that is taken. -/
theorem span_of_noDigit {base : Nat} (hds : ∀ c ∈ ds, isDigitIn base c = true)
    (ht : NoDigit base t) : (ds ++ t).takeWhile (isDigitIn base) = ds ∧
      (ds ++ t).dropWhile (isDigitIn base) = t := by
  rw [List.takeWhile_append_of_pos hds, List.dropWhile_append_of_pos hds, ht.span.1, ht.span.2,
    List.append_nil]
  exact ⟨rfl, rfl⟩

/-- **A numeral is read** in front of what does not go on with it. -/
theorem readNumeral_of_writes (h : rule.Writes ds n) (hbase : rule.base ≤ 16)
    (ht : NoDigit rule.base t) : readNumeral rule (ds ++ t) = some (n, t) := by
  obtain ⟨hds, hallows, rfl⟩ := (writes_iff hbase).1 h
  obtain ⟨htake, hdrop⟩ := span_of_noDigit hds ht
  rw [readNumeral, htake, hdrop, if_pos hallows]

/-- **Only numerals are read.** -/
theorem writes_of_readNumeral (hbase : rule.base ≤ 16) (h : readNumeral rule cs = some (n, rest)) :
    ∃ ds, cs = ds ++ rest ∧ rule.Writes ds n := by
  simp only [readNumeral] at h
  split at h
  · next hallows =>
    cases h
    refine ⟨_, (List.takeWhile_append_dropWhile ..).symm, (writes_iff hbase).2 ⟨?_, hallows, rfl⟩⟩
    exact List.all_eq_true.1 List.all_takeWhile
  · cases h

/-- Without a digit in front there is no numeral. -/
theorem readNumeral_of_noDigit (ht : NoDigit rule.base t) : readNumeral rule t = none := by
  rw [readNumeral, ht.span.1]
  rfl

/-! ### Version 4 -/

/-- **The literals of an address of version 4**: four octets with dots between them. -/
inductive Ipv4.Written : List Char → Ipv4 → Prop
  | dotted {as bs cs ds : List Char} {ip : Ipv4} (ha : octetRule.Writes as ip.a.toNat)
      (hb : octetRule.Writes bs ip.b.toNat) (hc : octetRule.Writes cs ip.c.toNat)
      (hd : octetRule.Writes ds ip.d.toNat) :
      Written (as ++ '.' :: (bs ++ '.' :: (cs ++ '.' :: ds))) ip

theorem readOctet_of_writes {o : UInt8} (h : octetRule.Writes ds o.toNat) (ht : NoDigit 10 t) :
    readOctet (ds ++ t) = some (o, t) := by
  rw [readOctet, readNumeral_of_writes h (by decide) ht]
  exact congrArg (fun o => some (o, t)) UInt8.ofNat_toNat

theorem writes_of_readOctet {o : UInt8} (h : readOctet cs = some (o, rest)) :
    ∃ ds, cs = ds ++ rest ∧ octetRule.Writes ds o.toNat := by
  obtain ⟨⟨n, rest⟩, hread, heq⟩ := Option.map_eq_some_iff.1 h
  cases heq
  have hn : n < UInt8.size := readNumeral_lt hread
  rw [UInt8.toNat_ofNat_of_lt' hn]
  exact writes_of_readNumeral (by decide) hread

theorem writes_of_readDottedOctet {o : UInt8} (h : readDottedOctet cs = some (o, rest)) :
    ∃ ds, cs = '.' :: (ds ++ rest) ∧ octetRule.Writes ds o.toNat := by
  unfold readDottedOctet at h
  split at h
  · obtain ⟨ds, rfl, hds⟩ := writes_of_readOctet h
    exact ⟨ds, rfl, hds⟩
  · cases h

/-- **A literal of version 4 is read** in front of what does not go on with its last octet. -/
theorem readIpv4_of_written {text : List Char} {ip : Ipv4} (h : ip.Written text)
    (ht : NoDigit 10 t) : readIpv4 (text ++ t) = some (ip, t) := by
  have hdot : ∀ u, NoDigit 10 ('.' :: u) := noDigit_cons (by decide)
  cases h with
  | @dotted as bs cs ds ip ha hb hc hd =>
      simp only [List.append_assoc, List.cons_append, readIpv4, readDottedOctet,
        readOctet_of_writes ha (hdot _), readOctet_of_writes hb (hdot _),
        readOctet_of_writes hc (hdot _), readOctet_of_writes hd ht]

theorem readIpv4_of_noDigit (ht : NoDigit 10 t) : readIpv4 t = none := by
  have hoctet : readNumeral octetRule t = none := readNumeral_of_noDigit ht
  rw [readIpv4, readOctet, hoctet]
  rfl

/-- **Only literals of version 4 are read.** -/
theorem written_of_readIpv4 {ip : Ipv4} (h : readIpv4 cs = some (ip, rest)) :
    ∃ text, cs = text ++ rest ∧ ip.Written text := by
  unfold readIpv4 at h
  split at h
  · cases h
  · next ha =>
    split at h
    · cases h
    · next hb =>
      split at h
      · cases h
      · next hc =>
        split at h
        · cases h
        · next hd =>
          cases h
          obtain ⟨as, rfl, has⟩ := writes_of_readOctet ha
          obtain ⟨bs, rfl, hbs⟩ := writes_of_readDottedOctet hb
          obtain ⟨cs, rfl, hcs⟩ := writes_of_readDottedOctet hc
          obtain ⟨ds, rfl, hds⟩ := writes_of_readDottedOctet hd
          exact ⟨_, by simp, .dotted has hbs hcs hds⟩

/-! ### Groups -/

/-- **Groups joined by colons**; the flag tells whether the last two of them are written as an
address of version 4. -/
inductive Groups : List Char → List UInt16 → Bool → Prop
  | one {ds : List Char} {g : UInt16} (hg : groupRule.Writes ds g.toNat) : Groups ds [g] false
  | dotted {text : List Char} {ip : Ipv4} (hip : ip.Written text) : Groups text ip.groups true
  | cons {ds text : List Char} {g : UInt16} {gs : List UInt16} {dotted : Bool}
      (hg : groupRule.Writes ds g.toNat) (hgs : Groups text gs dotted) :
      Groups (ds ++ ':' :: text) (g :: gs) dotted

/-- **One side of a gap**: nothing, or groups. -/
inductive Side : List Char → List UInt16 → Bool → Prop
  | empty : Side [] [] false
  | groups {text : List Char} {gs : List UInt16} {dotted : Bool} (hgs : Groups text gs dotted) :
      Side text gs dotted

/-- **The literals of an address of version 6**: its eight groups, or groups on both sides of two
colons that stand for at least one group of zeros. -/
inductive Ipv6.Written : List Char → Ipv6 → Prop
  | full {text : List Char} {ip : Ipv6} {dotted : Bool} (hgs : Groups text ip.groups dotted) :
      Written text ip
  | gap {front back : List Char} {fs bs : List UInt16} {dotted : Bool} {ip : Ipv6}
      (hfront : Side front fs false) (hback : Side back bs dotted)
      (hroom : fs.length + bs.length < 8)
      (hip : ip.groups = fs ++ List.replicate (8 - (fs.length + bs.length)) 0 ++ bs) :
      Written (front ++ ':' :: ':' :: back) ip

/-- **A text goes on with none of what may stand in a group**: neither with a digit, nor with a dot,
nor with a colon and a digit. -/
structure Stops (t : List Char) : Prop where
  noDigit : NoDigit 16 t
  noDot : t.head? ≠ some '.'
  behindColon : ∀ u, t = ':' :: u → NoDigit 16 u

theorem stops_nil : Stops [] where
  noDigit := by rintro c ⟨⟩
  noDot := by rintro ⟨⟩
  behindColon := by rintro u ⟨⟩

theorem stops_bracket (t : List Char) : Stops (']' :: t) where
  noDigit := noDigit_cons (by decide) t
  noDot := by rintro ⟨⟩
  behindColon := by rintro u ⟨⟩

theorem stops_gap (t : List Char) : Stops (':' :: ':' :: t) where
  noDigit := noDigit_cons (by decide) _
  noDot := by rintro ⟨⟩
  behindColon := by rintro u ⟨⟩; exact noDigit_cons (by decide) t

/-- A decimal digit is a hexadecimal one. -/
theorem isDigitIn_sixteen {c : Char} (h : isDigitIn 10 c = true) : isDigitIn 16 c = true := by
  obtain ⟨v, hv, hlt⟩ := (Option.any_eq_true ..).1 h
  rw [decide_eq_true_eq] at hlt
  exact (Option.any_eq_true ..).2 ⟨v, hv, decide_eq_true (by omega)⟩

theorem NoDigit.ten (h : NoDigit 16 t) : NoDigit 10 t := fun c hc =>
  Bool.eq_false_iff.2 fun hdigit => Bool.false_ne_true ((h c hc).symm.trans (isDigitIn_sixteen hdigit))

/-- Hexadecimal digits without a dot behind them are not the start of an address of version 4. -/
theorem readIpv4_of_noDot (hds : ∀ c ∈ ds, isDigitIn 16 c = true) (ht : NoDigit 16 t)
    (hdot : t.head? ≠ some '.') : readIpv4 (ds ++ t) = none := by
  cases h : readIpv4 (ds ++ t) with
  | none => rfl
  | some r =>
      obtain ⟨ip, rest⟩ := r
      obtain ⟨text, htext, hip⟩ := written_of_readIpv4 h
      cases hip with
      | @dotted as bs cs ds' ip ha =>
          -- the first character that is no digit would be the dot
          have has := ha.isDigitIn (by decide)
          have hdigits := (span_of_noDigit hds ht).2
          have hno : NoDigit 16 ('.' :: (bs ++ '.' :: (cs ++ '.' :: ds') ++ rest)) :=
            noDigit_cons (by decide) _
          rw [htext, List.append_assoc, List.cons_append,
            (span_of_noDigit (fun c hc => isDigitIn_sixteen (has c hc)) hno).2] at hdigits
          rw [← hdigits] at hdot
          exact absurd rfl hdot

/-- A colon in front, unless the group comes first. -/
def lead (first : Bool) : List Char := if first then [] else [':']

theorem behindColon_lead (first : Bool) (cs : List Char) :
    behindColon first (lead first ++ cs) = some cs := by
  cases first <;> rfl

theorem eq_lead_of_behindColon {first : Bool} {u : List Char} (h : behindColon first cs = some u) :
    cs = lead first ++ u := by
  unfold behindColon at h
  cases first
  · grind [lead]
  · grind [lead]

/-- Where no group can start, none is read. -/
theorem readGroups_of_noDigit {first : Bool}
    (ht : ∀ u, behindColon first t = some u → NoDigit 16 u) (n : Nat) :
    readGroups n first t = ⟨[], false, t⟩ := by
  cases n with
  | zero => rfl
  | succ n =>
      have hipv4 : (behindColon first t).bind readIpv4 = none := by
        rw [Option.bind_eq_none_iff]
        intro u hu
        exact readIpv4_of_noDigit (ht u hu).ten
      have hgroup : (behindColon first t).bind (readNumeral groupRule) = none := by
        rw [Option.bind_eq_none_iff]
        intro u hu
        exact readNumeral_of_noDigit (ht u hu)
      rw [readGroups, hipv4, hgroup, ite_self]

/-- One group is read, and the others behind it, where it is not the first octet of an address of
version 4. -/
theorem readGroups_of_writes {g : UInt16} (hg : groupRule.Writes ds g.toNat) (ht : NoDigit 16 t)
    (hdot : t.head? ≠ some '.') (n : Nat) (first : Bool) :
    readGroups (n + 1) first (lead first ++ (ds ++ t)) =
      ⟨g :: (readGroups n false t).groups, (readGroups n false t).dotted,
        (readGroups n false t).rest⟩ := by
  rw [readGroups, behindColon_lead, Option.bind_some, Option.bind_some,
    readIpv4_of_noDot (hg.isDigitIn (by decide)) ht hdot, ite_self,
    readNumeral_of_writes hg (by decide) ht]
  simp only [UInt16.ofNat_toNat]

/-- **Groups are read** in front of what does not go on with them. -/
theorem readGroups_of_groups {text : List Char} {gs : List UInt16} {dotted : Bool}
    (h : Groups text gs dotted) (ht : Stops t) (first : Bool) (hn : gs.length ≤ n) :
    readGroups n first (lead first ++ (text ++ t)) = ⟨gs, dotted, t⟩ := by
  induction h generalizing n first with
  | @one ds g hg =>
      obtain ⟨m, rfl⟩ : ∃ m, n = m + 1 := ⟨n - 1, by simp at hn; omega⟩
      have hrest : readGroups m false t = ⟨[], false, t⟩ :=
        readGroups_of_noDigit (fun u hu => ht.behindColon u (eq_lead_of_behindColon hu)) m
      rw [readGroups_of_writes hg ht.noDigit ht.noDot, hrest]
  | @dotted text ip hip =>
      have htwo : ip.groups.length = 2 := rfl
      obtain ⟨m, rfl⟩ : ∃ m, n = m + 2 := ⟨n - 2, by omega⟩
      rw [readGroups, behindColon_lead, Option.bind_some, if_pos (Nat.succ_pos m),
        readIpv4_of_written hip ht.noDigit.ten]
  | @cons ds text g gs dotted hg hgs ih =>
      obtain ⟨m, rfl⟩ : ∃ m, n = m + 1 := ⟨n - 1, by simp at hn; omega⟩
      have hcolon : NoDigit 16 (':' :: (text ++ t)) := noDigit_cons (by decide) _
      have hrest : readGroups m false (':' :: (text ++ t)) = ⟨gs, dotted, t⟩ :=
        ih false (by simpa using hn)
      rw [List.append_assoc, List.cons_append, readGroups_of_writes hg hcolon (by rintro ⟨⟩), hrest]

/-- **Only groups are read**, and no more than there is room for. -/
theorem groups_of_readGroups (n : Nat) (first : Bool) (cs : List Char) :
    (readGroups n first cs).groups.length ≤ n ∧
      (readGroups n first cs = ⟨[], false, cs⟩ ∨
        ∃ text, cs = lead first ++ (text ++ (readGroups n first cs).rest) ∧
          Groups text (readGroups n first cs).groups (readGroups n first cs).dotted) := by
  induction n generalizing first cs with
  | zero => exact ⟨Nat.le_refl 0, .inl rfl⟩
  | succ n ih =>
      rw [readGroups]
      split
      · next ip rest hread =>
        obtain ⟨hroom, hread⟩ : 0 < n ∧ (behindColon first cs).bind readIpv4 = some (ip, rest) := by
          simpa using hread
        obtain ⟨u, hu, hread⟩ := Option.bind_eq_some_iff.1 hread
        obtain ⟨text, rfl, hip⟩ := written_of_readIpv4 hread
        exact ⟨Nat.succ_le_succ hroom, .inr ⟨text, eq_lead_of_behindColon hu, .dotted hip⟩⟩
      · split
        · next g rest hread =>
          obtain ⟨u, hu, hread⟩ := Option.bind_eq_some_iff.1 hread
          obtain ⟨ds, rfl, hg⟩ := writes_of_readNumeral (by decide) hread
          have hlt : g < UInt16.size := hg.small
          rw [← UInt16.toNat_ofNat_of_lt' hlt] at hg
          obtain ⟨hlength, hrun⟩ := ih false rest
          refine ⟨Nat.succ_le_succ hlength, .inr ?_⟩
          obtain hrun | ⟨text, htext, hgs⟩ := hrun
          · rw [hrun]
            exact ⟨ds, eq_lead_of_behindColon hu, .one hg⟩
          · refine ⟨ds ++ ':' :: text, ?_, .cons hg hgs⟩
            rw [eq_lead_of_behindColon hu]
            conv_lhs => rw [htext]
            simp [lead]
        · exact ⟨Nat.zero_le _, .inl rfl⟩

/-! ### Version 6 -/

theorem readGroups_of_side {text : List Char} {gs : List UInt16} {dotted : Bool}
    (h : Side text gs dotted) (ht : Stops t) (hn : gs.length ≤ n) :
    readGroups n true (text ++ t) = ⟨gs, dotted, t⟩ := by
  cases h with
  | empty => exact readGroups_of_noDigit (by rintro u ⟨⟩; exact ht.noDigit) n
  | groups hgs => exact readGroups_of_groups hgs ht true hn

/-- The groups at the front of a text stand on one side of what follows them. -/
theorem side_of_readGroups (n : Nat) (cs : List Char) :
    ∃ text, cs = text ++ (readGroups n true cs).rest ∧
      Side text (readGroups n true cs).groups (readGroups n true cs).dotted := by
  obtain h | ⟨text, htext, hgs⟩ := (groups_of_readGroups n true cs).2
  · rw [h]
    exact ⟨[], rfl, .empty⟩
  · exact ⟨text, htext, .groups hgs⟩

/-- **A literal of version 6 is read** in front of what does not go on with a group. -/
theorem readIpv6_of_written {text : List Char} {ip : Ipv6} (h : ip.Written text) (ht : Stops t) :
    readIpv6 (text ++ t) = some (ip, t) := by
  cases h with
  | full hgs =>
      have hread := readGroups_of_groups hgs ht true (Nat.le_of_eq ip.length_eq)
      change readGroups 8 true (text ++ t) = _ at hread
      simp only [readIpv6, hread, ip.length_eq, dite_true]
  | @gap front back fs bs dotted ip hfront hback hroom hip =>
      have hread := readGroups_of_side hfront (stops_gap (back ++ t)) (n := 8) (by omega)
      have hbehind := readGroups_of_side hback ht (n := 7 - fs.length) (by omega)
      have height : ¬ fs.length = 8 := by omega
      have hends : Ipv6.ofEnds fs bs = some ip := by
        simp only [Ipv6.ofEnds, ← hip, ip.length_eq, dite_true]
      rw [List.append_assoc]
      simp only [List.cons_append, readIpv6, hread, hbehind, height, hends, dite_false,
        Bool.false_eq_true, if_false, Option.map_some]

/-- The groups of an address with a gap. -/
theorem groups_of_ofEnds {fs bs : List UInt16} {ip : Ipv6} (h : Ipv6.ofEnds fs bs = some ip) :
    ip.groups = fs ++ List.replicate (8 - (fs.length + bs.length)) 0 ++ bs := by
  simp only [Ipv6.ofEnds] at h
  split at h
  · cases h
    rfl
  · cases h

/-- **Only literals of version 6 are read.** -/
theorem written_of_readIpv6 {ip : Ipv6} (h : readIpv6 cs = some (ip, rest)) :
    ∃ text, cs = text ++ rest ∧ ip.Written text := by
  obtain ⟨front, hcs, hfront⟩ := side_of_readGroups 8 cs
  have hfits := (groups_of_readGroups 8 true cs).1
  simp only [readIpv6] at h
  generalize readGroups 8 true cs = run at hcs hfront hfits h
  obtain ⟨fs, dotted, tail⟩ := run
  dsimp only at hcs hfront hfits h
  split at h
  · next height =>
    cases h
    cases hfront with
    | empty => cases height
    | groups hgs => exact ⟨front, hcs, .full hgs⟩
  · next hne =>
    split at h
    · cases h
    · next hdotted =>
      obtain rfl : dotted = false := Bool.eq_false_iff.2 hdotted
      split at h
      · next gap =>
        obtain ⟨back, hgap, hback⟩ := side_of_readGroups (7 - fs.length) gap
        have hroom := (groups_of_readGroups (7 - fs.length) true gap).1
        obtain ⟨ip, hends, heq⟩ := Option.map_eq_some_iff.1 h
        cases heq
        refine ⟨front ++ ':' :: ':' :: back, ?_,
          .gap hfront hback (by omega) (groups_of_ofEnds hends)⟩
        rw [hcs, List.append_assoc]
        conv_lhs => rw [hgap]
        simp
      · cases h

/-- A literal of version 6 has a colon, and digits at most in front of the first one. -/
theorem Ipv6.Written.exists_colon {text : List Char} {ip : Ipv6} (h : ip.Written text) :
    ∃ ds u, text = ds ++ ':' :: u ∧ ∀ c ∈ ds, isDigitIn 16 c = true := by
  have hcons : ∀ {ds u : List Char} {g : UInt16}, groupRule.Writes ds g.toNat →
      ∃ ds' u', ds ++ ':' :: u = ds' ++ ':' :: u' ∧ ∀ c ∈ ds', isDigitIn 16 c = true :=
    fun hg => ⟨_, _, rfl, hg.isDigitIn (by decide)⟩
  cases h with
  | full hgs =>
      have height := ip.length_eq
      generalize ip.groups = gs at hgs height
      cases hgs with
      | one => cases height
      | dotted => cases height
      | cons hg => exact hcons hg
  | gap hfront =>
      cases hfront with
      | empty => exact ⟨[], _, rfl, fun _ hc => nomatch hc⟩
      | groups hgs =>
          cases hgs with
          | one hg => exact hcons hg
          | cons hg =>
              rw [List.append_assoc]
              exact hcons hg

/-! ### Either version -/

/-- **The literals of an address.** -/
inductive IpAddress.Written : List Char → IpAddress → Prop
  | v4 {text : List Char} {ip : Ipv4} (h : ip.Written text) : Written text (.v4 ip)
  | v6 {text : List Char} {ip : Ipv6} (h : ip.Written text) : Written text (.v6 ip)

/-- Where a literal of version 6 stands there is none of version 4. -/
theorem Ipv6.Written.readIpv4_eq_none {text : List Char} {ip : Ipv6} (h : ip.Written text)
    (t : List Char) : readIpv4 (text ++ t) = none := by
  obtain ⟨ds, u, rfl, hds⟩ := h.exists_colon
  rw [List.append_assoc]
  exact readIpv4_of_noDot hds (noDigit_cons (by decide) _) (by rintro ⟨⟩)

theorem whole_eq_some_iff {α : Type} {r : Option (α × List Char)} {a : α} :
    whole r = some a ↔ r = some (a, []) := by
  unfold whole
  split
  · simp
  · next h =>
    simp only [reduceCtorEq, false_iff]
    exact fun heq => h a heq

/-- **Exactly the literals are read, each as its address.** -/
theorem IpAddress.ofText?_eq_some_iff {s : String} {ip : IpAddress} :
    IpAddress.ofText? s = some ip ↔ ip.Written s.toList := by
  rw [ofText?, whole_eq_some_iff, readIpAddress]
  constructor
  · intro h
    split at h
    · next hread =>
      cases h
      obtain ⟨text, htext, hip⟩ := written_of_readIpv4 hread
      rw [htext, List.append_nil]
      exact .v4 hip
    · obtain ⟨⟨ip, rest⟩, hread, heq⟩ := Option.map_eq_some_iff.1 h
      cases heq
      obtain ⟨text, htext, hip⟩ := written_of_readIpv6 hread
      rw [htext, List.append_nil]
      exact .v6 hip
  · intro h
    rw [← List.append_nil s.toList]
    cases h with
    | v4 hip => rw [readIpv4_of_written hip stops_nil.noDigit.ten]
    | v6 hip => rw [hip.readIpv4_eq_none, readIpv6_of_written hip stops_nil]; rfl

end Net

end ConferenceAuth
