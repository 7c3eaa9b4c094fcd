import Mathlib.Data.List.Induction
import Tabletop.Text.Numeral

/-!
# Text — numerals

What digits spell, as a relation.  `Numeral` builds up a run of ASCII digits from its first digit
on, each further one counting ones; `Sign` lists the ways to begin a signed number.  The readers
give a number exactly for the texts that these spell: `readNat?_eq_some_iff`,
`readCount?_eq_some_iff` and `readAmount?_eq_some_iff`.  Every number is spelled by the digits in
which it is written (`numeral_toString`).
-/

namespace Tabletop.Text

variable {cs ds : List Char} {n : Nat} {v : Int}

/-- Digits of ASCII, and the number that they spell. -/
inductive Numeral : List Char → Nat → Prop
  | digit {d : Char} (h : isAsciiDigit d = true) : Numeral [d] (digitValue d)
  | concat {ds : List Char} {n : Nat} {d : Char} (hs : Numeral ds n) (h : isAsciiDigit d = true) :
      Numeral (ds ++ [d]) (10 * n + digitValue d)

/-- The ways to begin a signed number, and whether it is negative. -/
inductive Sign : List Char → Bool → Prop
  | absent : Sign [] false
  | plus : Sign ['+'] false
  | minus : Sign ['-'] true

/-- A number with a sign. -/
def signed (negative : Bool) (n : Nat) : Int := if negative then -(n : Int) else n

/-! ### Unsigned numbers -/

theorem Numeral.ne_nil (h : Numeral ds n) : ds ≠ [] := by
  cases h with
  | digit _ => exact List.cons_ne_nil _ _
  | concat _ _ => exact List.append_ne_nil_of_right_ne_nil _ (List.cons_ne_nil _ _)

theorem Numeral.isAsciiDigit (h : Numeral ds n) : ∀ d ∈ ds, isAsciiDigit d = true := by
  induction h with
  | digit hd =>
      intro d hm
      rw [List.mem_singleton.mp hm]
      exact hd
  | concat _ hd ih =>
      intro d hm
      rcases List.mem_append.mp hm with hm | hm
      · exact ih d hm
      · rw [List.mem_singleton.mp hm]
        exact hd

theorem digitsValue_concat (ds : List Char) (d : Char) :
    digitsValue (ds ++ [d]) = 10 * digitsValue ds + digitValue d := by
  rw [digitsValue, List.foldl_append]
  rfl

theorem Numeral.digitsValue (h : Numeral ds n) : digitsValue ds = n := by
  induction h with
  | @digit d _ => exact (digitsValue_concat [] d).trans (Nat.zero_add _)
  | concat _ _ ih => rw [digitsValue_concat, ih]

/-- Digits spell one number. -/
theorem Numeral.unique {m : Nat} (h : Numeral ds n) (h' : Numeral ds m) : n = m :=
  h.digitsValue.symm.trans h'.digitsValue

/-- Digits of ASCII spell the number that is their value. -/
theorem numeral_digitsValue (hne : ds ≠ []) (h : ∀ d ∈ ds, isAsciiDigit d = true) :
    Numeral ds (Text.digitsValue ds) := by
  induction ds using List.reverseRecOn with
  | nil => exact absurd rfl hne
  | append_singleton ds d ih =>
      have hd : isAsciiDigit d = true := h d (List.mem_append_right _ (List.mem_singleton_self d))
      rw [digitsValue_concat]
      by_cases hds : ds = []
      · subst hds
        have hvalue : 10 * Text.digitsValue [] + digitValue d = digitValue d := Nat.zero_add _
        rw [hvalue]
        exact .digit hd
      · exact .concat (ih hds fun d' hm => h d' (List.mem_append_left _ hm)) hd

theorem readNat?_eq_some_iff : readNat? ds = some n ↔ Numeral ds n := by
  rw [readNat?]
  constructor
  · intro h
    split at h
    · next hds =>
        rw [← Option.some.inj h]
        exact numeral_digitsValue hds.1 (List.all_eq_true.mp hds.2)
    · cases h
  · intro h
    rw [if_pos ⟨h.ne_nil, List.all_eq_true.mpr h.isAsciiDigit⟩, h.digitsValue]

theorem readCount?_eq_some_iff : readCount? ds = some n ↔ Numeral ds n ∧ n ≤ Count.greatest := by
  rw [readCount?, Option.filter_eq_some_iff, readNat?_eq_some_iff, decide_eq_true_iff]

/-! ### Signed numbers -/

theorem ne_sign_of_isDecimalDigit {c : Char} (h : isDecimalDigit c = true) : c ≠ '-' ∧ c ≠ '+' := by
  constructor
  · rintro rfl
    exact absurd h (by decide)
  · rintro rfl
    exact absurd h (by decide)

/-- Behind a sign the digits are read alone, and so are digits without one. -/
theorem readInt?_sign {sign : List Char} {negative : Bool} (hsign : Sign sign negative)
    (h : ∀ d ∈ ds, isDecimalDigit d = true) :
    readInt? (sign ++ ds) = (readNat? ds).map (signed negative) := by
  cases hsign with
  | minus =>
      rw [List.singleton_append, readInt?]
      cases readNat? ds <;> rfl
  | plus =>
      rw [List.singleton_append, readInt?]
      cases readNat? ds <;> rfl
  | absent =>
      rw [List.nil_append]
      unfold readInt?
      split
      · exact absurd rfl (ne_sign_of_isDecimalDigit (h _ List.mem_cons_self)).1
      · exact absurd rfl (ne_sign_of_isDecimalDigit (h _ List.mem_cons_self)).2
      · cases readNat? ds <;> rfl

/-- Every text is a sign, or none, and what is read as digits behind it. -/
theorem readInt?_cases (cs : List Char) : ∃ sign negative ds, Sign sign negative ∧ cs = sign ++ ds ∧
    readInt? cs = (readNat? ds).map (signed negative) := by
  unfold readInt?
  split
  · exact ⟨_, _, _, .minus, rfl, by cases readNat? _ <;> rfl⟩
  · exact ⟨_, _, _, .plus, rfl, by cases readNat? _ <;> rfl⟩
  · exact ⟨_, _, cs, .absent, rfl, by cases readNat? cs <;> rfl⟩

theorem Numeral.isDecimalDigit (h : Numeral ds n) : ∀ d ∈ ds, isDecimalDigit d = true :=
  fun d hm => isDecimalDigit_of_isAsciiDigit (h.isAsciiDigit d hm)

theorem readInt?_eq_some_iff : readInt? cs = some v ↔
    ∃ sign negative ds n, Sign sign negative ∧ Numeral ds n ∧ cs = sign ++ ds ∧
      v = signed negative n := by
  constructor
  · intro h
    obtain ⟨sign, negative, ds, hsign, hcs, hread⟩ := readInt?_cases cs
    rw [hread] at h
    obtain ⟨n, hn, rfl⟩ := Option.map_eq_some_iff.mp h
    exact ⟨sign, negative, ds, n, hsign, readNat?_eq_some_iff.mp hn, hcs, rfl⟩
  · rintro ⟨sign, negative, ds, n, hsign, hds, rfl, rfl⟩
    rw [readInt?_sign hsign hds.isDecimalDigit, readNat?_eq_some_iff.mpr hds, Option.map_some]

theorem readAmount?_eq_some_iff : readAmount? cs = some v ↔
    (∃ sign negative ds n, Sign sign negative ∧ Numeral ds n ∧ cs = sign ++ ds ∧
      v = signed negative n) ∧ Amount.Fits v := by
  rw [readAmount?, Option.filter_eq_some_iff, readInt?_eq_some_iff, decide_eq_true_iff]

/-- Digits alone are an amount when the number that they spell is not too great. -/
theorem readAmount?_digits (h : ∀ d ∈ ds, isDecimalDigit d = true) :
    readAmount? ds = some v ↔ ∃ n : Nat, Numeral ds n ∧ (n : Int) ≤ Amount.greatest ∧ v = n := by
  have hread : readInt? ds = (readNat? ds).map (signed false) := readInt?_sign .absent h
  rw [readAmount?, Option.filter_eq_some_iff, hread, decide_eq_true_iff]
  constructor
  · rintro ⟨hread, hfits⟩
    obtain ⟨n, hn, rfl⟩ := Option.map_eq_some_iff.mp hread
    exact ⟨n, readNat?_eq_some_iff.mp hn, hfits.2, rfl⟩
  · rintro ⟨n, hn, hle, rfl⟩
    refine ⟨Option.map_eq_some_iff.mpr ⟨n, readNat?_eq_some_iff.mpr hn, rfl⟩, ?_, hle⟩
    exact Int.le_trans (by decide) (Int.natCast_nonneg n)

/-! ### Written numbers -/

theorem isAsciiDigit_digitChar (h : n < 10) : isAsciiDigit n.digitChar = true := by
  have hvalue : n.digitChar.toNat = 0x30 + n := Nat.toNat_digitChar_of_lt_ten h
  have hlow : 0x30 ≤ n.digitChar.toNat := by omega
  have hhigh : n.digitChar.toNat ≤ 0x39 := by omega
  rw [isAsciiDigit, Bool.and_eq_true, decide_eq_true_iff, decide_eq_true_iff]
  exact ⟨hlow, hhigh⟩

theorem digitValue_digitChar (h : n < 10) : digitValue n.digitChar = n := by
  rw [digitValue, Nat.toNat_digitChar_of_lt_ten h, Nat.add_sub_cancel_left]

/-- By recursion on the number, one digit at its end at a time. -/
theorem numeral_toString (n : Nat) : Numeral (toString n).toList n := by
  rw [Nat.toString_eq_repr, Nat.toList_repr]
  by_cases hn : n < 10
  · have hdigit := Numeral.digit (isAsciiDigit_digitChar hn)
    rwa [digitValue_digitChar hn, ← Nat.toDigits_of_lt_base hn] at hdigit
  · have hlast : n % 10 < 10 := Nat.mod_lt n (by decide)
    have hfront := numeral_toString (n / 10)
    rw [Nat.toString_eq_repr, Nat.toList_repr] at hfront
    have hall := hfront.concat (isAsciiDigit_digitChar hlast)
    rwa [digitValue_digitChar hlast, Nat.div_add_mod,
      ← Nat.toDigits_of_base_le (by decide) (Nat.le_of_not_lt hn)] at hall

/-- An integer is written in digits, behind a sign if it is negative. -/
theorem toList_toString_int (v : Int) : ∃ sign negative, Sign sign negative ∧
    (toString v).toList = sign ++ (toString v.natAbs).toList ∧ v = signed negative v.natAbs := by
  cases v with
  | ofNat n => exact ⟨[], false, .absent, rfl, rfl⟩
  | negSucc n => exact ⟨['-'], true, .minus, String.toList_append, rfl⟩

theorem readInt?_toString (v : Int) : readInt? (toString v).toList = some v := by
  obtain ⟨sign, negative, hsign, htext, hvalue⟩ := toList_toString_int v
  exact readInt?_eq_some_iff.mpr ⟨_, _, _, _, hsign, numeral_toString _, htext, hvalue⟩

/-- A written integer is read as itself, if it is an amount. -/
theorem readAmount?_toString_iff {w : Int} :
    readAmount? (toString v).toList = some w ↔ Amount.Fits v ∧ w = v := by
  rw [readAmount?, Option.filter_eq_some_iff, readInt?_toString, Option.some_inj,
    decide_eq_true_iff]
  constructor
  · rintro ⟨rfl, hfits⟩
    exact ⟨hfits, rfl⟩
  · rintro ⟨hfits, rfl⟩
    exact ⟨rfl, hfits⟩

end Tabletop.Text
