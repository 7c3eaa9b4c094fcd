import Tabletop.Proofs.Formula.Keywords
import Tabletop.Proofs.Formula.Parts

/-!
# Formula — the grammar

Which formulas a text spells, as a relation.  `Derives` has the two shapes that may be left when
keywords and blanks are gone: a signed number alone, and a text with a dice group, behind whose
sides `Keeps` and `Modifies` say what a keep suffix and a modifier add.  Characters around the group
belong to no rule, so they are ignored.

`parse_eq_ok_iff`: a text is read as a formula exactly when the grammar derives that formula from
it.
-/

namespace Tabletop.Formula

open Text (Numeral Sign signed)

variable {cs ds rest : List Char} {lowest negative : Bool} {mode : Mode} {f : Formula}
  {keep : Option KeepRule} {n m : Nat} {v : Int}

/-! ### Rules -/

/-- The rule that lets the lowest dice count, or the highest. -/
def keepRule (lowest : Bool) (n : Nat) : KeepRule := if lowest then .lowest n else .highest n

/-- The number of dice that the digits before a `d` spell; none stand for one die. -/
inductive Throws : List Char → Nat → Prop
  | one : Throws [] 1
  | numeral {ds : List Char} {n : Nat} (h : Numeral ds n) : Throws ds n

/-- The keep rule that the characters behind the sides begin with, and what follows it. -/
inductive Keeps : List Char → Option KeepRule → List Char → Prop
  | rule {cs ds rest : List Char} {lowest : Bool} {n : Nat} (h : KeepSuffix cs lowest ds rest)
      (hds : Numeral ds n) (hn : n ≤ Count.greatest) : Keeps cs (some (keepRule lowest n)) rest
  | absent {cs : List Char} (h : ∀ lowest ds rest, ¬ KeepSuffix cs lowest ds rest) :
      Keeps cs none cs

/-- The modifier that the characters behind sides and keep rule begin with.  A signed number that a
`d` follows opens another dice group and adds nothing. -/
inductive Modifies : List Char → Int → Prop
  | amount {cs ds rest : List Char} {negative : Bool} {n : Nat} (h : SignedRun cs negative ds rest)
      (hgroup : rest.head? ≠ some 'd') (hds : Numeral ds n) (hn : (n : Int) ≤ Amount.greatest) :
      Modifies cs (signed negative n)
  | group {cs ds rest : List Char} {negative : Bool} (h : SignedRun cs negative ds ('d' :: rest)) :
      Modifies cs 0
  | absent {cs : List Char} (h : ∀ negative ds rest, ¬ SignedRun cs negative ds rest) :
      Modifies cs 0

/-- The formulas that characters without keywords and blanks spell, in the mode of the keywords. -/
inductive Derives (mode : Mode) : List Char → Formula → Prop
  | modifier {sign ds : List Char} {negative : Bool} {n : Nat} (hsign : Sign sign negative)
      (hds : Numeral ds n) (hfits : Amount.Fits (signed negative n)) :
      Derives mode (sign ++ ds) (ofModifier (signed negative n) mode)
  | dice {cs before after front count sides suffix rest : List Char} {n m : Nat}
      {keep : Option KeepRule} {v : Int} (hshape : ¬ SignedDigits cs)
      (hfirst : FirstDice cs before after)
      (hcount : RunBehind before front count) (hn : Throws count n) (hmaxCount : n ≤ maxCount)
      (hsides : Run after sides suffix) (hm : Numeral sides m) (hmaxSides : m ≤ maxSides)
      (hthrow : 0 < n → 0 < m)
      (hkeep : Keeps suffix keep rest) (hmodifier : Modifies rest v) :
      Derives mode cs ⟨n, m, v, keep, mode⟩

/-! ### Numbers and limits -/

theorem bind_eq_ok_iff {α β : Type} {x : Except Fault α} {next : α → Except Fault β} {b : β} :
    (x >>= next) = .ok b ↔ ∃ a, x = .ok a ∧ next a = .ok b := by
  cases x with
  | error e => exact iff_of_false nofun nofun
  | ok a => exact ⟨fun h => ⟨a, rfl, h⟩, fun ⟨_, heq, h⟩ => Except.ok.inj heq ▸ h⟩

theorem map_eq_ok_iff {α β : Type} {x : Except Fault α} {g : α → β} {b : β} :
    x.map g = .ok b ↔ ∃ a, x = .ok a ∧ g a = b := by
  cases x with
  | error e => exact iff_of_false nofun nofun
  | ok a =>
    exact ⟨fun h => ⟨a, rfl, Except.ok.inj h⟩, fun ⟨_, heq, h⟩ => Except.ok.inj heq ▸ congrArg _ h⟩

theorem countOf_eq_ok_iff {role : NumberRole} :
    countOf role ds = .ok n ↔ Numeral ds n ∧ n ≤ Count.greatest := by
  rw [← Text.readCount?_eq_some_iff, countOf]
  cases Text.readCount? ds with
  | none => exact iff_of_false nofun nofun
  | some k => simp

theorem amountOf_eq_ok_iff {role : NumberRole} :
    amountOf role cs = .ok v ↔ Text.readAmount? cs = some v := by
  rw [amountOf]
  cases Text.readAmount? cs with
  | none => exact iff_of_false nofun nofun
  | some k => simp

theorem checkLimits_eq_ok_iff :
    checkLimits n m = .ok () ↔ n ≤ maxCount ∧ (0 < n → 0 < m) ∧ m ≤ maxSides := by
  rw [checkLimits]
  split_ifs with hmany hnone hlarge
  · exact iff_of_false nofun fun h => absurd h.1 (Nat.not_le.mpr hmany)
  · exact iff_of_false nofun fun h => absurd (h.2.1 hnone.1) (Nat.not_lt.mpr (Nat.le_of_eq hnone.2))
  · exact iff_of_false nofun fun h => absurd h.2.2 (Nat.not_le.mpr hlarge)
  · exact iff_of_true rfl ⟨by omega, by omega, by omega⟩

/-- Within the limits on dice, the digits before a `d` are a count when they spell one. -/
theorem throws_iff (hn : n ≤ maxCount) :
    (if ds = [] then .ok 1 else countOf .diceCount ds) = Except.ok n ↔ Throws ds n := by
  constructor
  · intro h
    split at h
    · next hnil =>
        cases h
        exact hnil ▸ .one
    · exact .numeral (countOf_eq_ok_iff.mp h).1
  · intro h
    cases h with
    | one => rfl
    | numeral h =>
        rw [if_neg h.ne_nil]
        exact countOf_eq_ok_iff.mpr ⟨h, Nat.le_trans hn (by decide)⟩

/-! ### Keep suffix and modifier -/

theorem keepOf_some_eq_ok_iff : keepOf (some (lowest, ds)) = .ok keep ↔
    ∃ n, Numeral ds n ∧ n ≤ Count.greatest ∧ some (keepRule lowest n) = keep := by
  simp only [keepOf, map_eq_ok_iff, countOf_eq_ok_iff, and_assoc]
  rfl

/-- Digits that are no ASCII numeral of an amount's size are no modifier. -/
theorem modifierOf_some_eq_ok_iff (hds : ∀ d ∈ ds, Text.isDecimalDigit d = true) :
    modifierOf (some (negative, ds)) = .ok v ↔
      ∃ n : Nat, Numeral ds n ∧ (n : Int) ≤ Amount.greatest ∧ signed negative n = v := by
  simp only [modifierOf, map_eq_ok_iff, amountOf_eq_ok_iff, Text.readAmount?_digits hds]
  constructor
  · rintro ⟨_, ⟨n, hn, hmax, rfl⟩, hv⟩
    exact ⟨n, hn, hmax, hv⟩
  · rintro ⟨n, hn, hmax, hv⟩
    exact ⟨n, ⟨n, hn, hmax, rfl⟩, hv⟩

/-- The scanner's suffix, or its absence, fixes the rule and what follows. -/
theorem keeps_iff : Keeps cs keep rest ↔
    keepOf ((keepSuffix? cs).map (·.1)) = .ok keep ∧
      ((keepSuffix? cs).map (·.2)).getD cs = rest := by
  cases hsuffix : keepSuffix? cs with
  | none =>
      have hno : ∀ lowest ds rest, ¬ KeepSuffix cs lowest ds rest := fun _ _ _ h =>
        nomatch (keepSuffix?_eq_some_iff.mpr h).symm.trans hsuffix
      constructor
      · intro h
        cases h with
        | rule h => exact absurd h (hno _ _ _)
        | absent => exact ⟨rfl, rfl⟩
      · rintro ⟨hkeep, rfl⟩
        cases hkeep
        exact .absent hno
  | some found =>
      have hpart := keepSuffix?_eq_some_iff.mp hsuffix
      constructor
      · intro h
        cases h with
        | rule h hds hn =>
            cases (keepSuffix?_eq_some_iff.mpr h).symm.trans hsuffix
            exact ⟨keepOf_some_eq_ok_iff.mpr ⟨_, hds, hn, rfl⟩, rfl⟩
        | absent hno => exact absurd hpart (hno _ _ _)
      · rintro ⟨hkeep, rfl⟩
        obtain ⟨n, hds, hn, rfl⟩ := keepOf_some_eq_ok_iff.mp hkeep
        exact .rule hpart hds hn

theorem modifies_iff : Modifies cs v ↔ modifierOf (modifierSuffix? cs) = .ok v := by
  cases hsuffix : modifierSuffix? cs with
  | none =>
      have hgroup : ∀ negative ds rest, SignedRun cs negative ds rest → rest.head? = some 'd' := by
        intro negative ds rest h
        by_contra hne
        exact nomatch (modifierSuffix?_eq_some_iff.mpr ⟨rest, h, hne⟩).symm.trans hsuffix
      constructor
      · intro h
        cases h with
        | amount h hne => exact absurd (hgroup _ _ _ h) hne
        | group => rfl
        | absent => rfl
      · intro h
        cases h
        by_cases hrun : ∃ negative ds rest, SignedRun cs negative ds rest
        · obtain ⟨negative, ds, rest, hrun⟩ := hrun
          obtain ⟨rest, rfl⟩ := List.head?_eq_some_iff.mp (hgroup _ _ _ hrun)
          exact .group hrun
        · exact .absent fun negative ds rest h => hrun ⟨negative, ds, rest, h⟩
  | some found =>
      obtain ⟨rest, hpart, hne⟩ := modifierSuffix?_eq_some_iff.mp hsuffix
      constructor
      · intro h
        cases h with
        | amount h hne' hds hn =>
            cases (modifierSuffix?_eq_some_iff.mpr ⟨_, h, hne'⟩).symm.trans hsuffix
            exact (modifierOf_some_eq_ok_iff h.digits).mpr ⟨_, hds, hn, rfl⟩
        | group h => exact absurd (congrArg List.head? (hpart.rest_unique h)) hne
        | absent hno => exact absurd hpart (hno _ _ _)
      · intro h
        obtain ⟨n, hds, hn, rfl⟩ := (modifierOf_some_eq_ok_iff hpart.digits).mp h
        exact .amount hpart hne hds hn

/-! ### Dice groups -/

/-- The parts of the group at the first `d`. -/
theorem Group.find?_eq (cs : List Char) : Group.find? cs = (findDice? [] cs).map fun found =>
    { count := found.1
      sides := (splitDigits found.2).1
      keep := (keepSuffix? (splitDigits found.2).2).map (·.1)
      modifier := modifierSuffix?
        (((keepSuffix? (splitDigits found.2).2).map (·.2)).getD (splitDigits found.2).2) } := by
  rw [Group.find?]
  congr 1
  funext found
  dsimp only
  cases keepSuffix? (splitDigits found.2).2 <;> rfl

/-- The numbers of a group are read one after the other. -/
theorem Group.toFormula_eq (g : Group) (mode : Mode) : g.toFormula mode =
    ((if g.count = [] then .ok 1 else countOf .diceCount g.count) >>= fun n =>
      countOf .dieSize g.sides >>= fun m => checkLimits n m >>= fun _ =>
        keepOf g.keep >>= fun keep => modifierOf g.modifier >>= fun v =>
          .ok ⟨n, m, v, keep, mode⟩) := by
  rw [Group.toFormula]
  split <;> rfl

theorem Group.toFormula_eq_ok_iff {g : Group} : g.toFormula mode = .ok f ↔
    ∃ n m keep v, Throws g.count n ∧ n ≤ maxCount ∧ Numeral g.sides m ∧ m ≤ maxSides ∧
      (0 < n → 0 < m) ∧ keepOf g.keep = .ok keep ∧ modifierOf g.modifier = .ok v ∧
      f = ⟨n, m, v, keep, mode⟩ := by
  simp only [Group.toFormula_eq, bind_eq_ok_iff, countOf_eq_ok_iff]
  constructor
  · rintro ⟨n, hn, m, ⟨hm, -⟩, ⟨⟩, hlimits, keep, hkeep, v, hv, hf⟩
    obtain ⟨hmaxCount, hthrow, hmaxSides⟩ := checkLimits_eq_ok_iff.mp hlimits
    exact ⟨n, m, keep, v, (throws_iff hmaxCount).mp hn, hmaxCount, hm, hmaxSides, hthrow, hkeep, hv,
      (Except.ok.inj hf).symm⟩
  · rintro ⟨n, m, keep, v, hn, hmaxCount, hm, hmaxSides, hthrow, hkeep, hv, rfl⟩
    exact ⟨n, (throws_iff hmaxCount).mpr hn, m, ⟨hm, Nat.le_trans hmaxSides (by decide)⟩, (),
      checkLimits_eq_ok_iff.mpr ⟨hmaxCount, hthrow, hmaxSides⟩, keep, hkeep, v, hv, rfl⟩

/-! ### Formulas -/

theorem Derives.ne_nil (h : Derives mode cs f) : cs ≠ [] := by
  cases h with
  | modifier _ hds => exact List.append_ne_nil_of_right_ne_nil _ hds.ne_nil
  | dice _ hfirst =>
      rw [hfirst.eq_append]
      exact List.append_ne_nil_of_right_ne_nil _ (List.cons_ne_nil _ _)

/-- On a signed number alone, only the first shape applies. -/
theorem derives_iff_of_signedDigits (hshape : SignedDigits cs) : Derives mode cs f ↔
    ∃ v, Text.readAmount? cs = some v ∧ ofModifier v mode = f := by
  simp only [Text.readAmount?_eq_some_iff]
  constructor
  · intro h
    cases h with
    | modifier hsign hds hfits =>
        exact ⟨_, ⟨⟨_, _, _, _, hsign, hds, rfl, rfl⟩, hfits⟩, rfl⟩
    | dice hno => exact absurd hshape hno
  · rintro ⟨_, ⟨⟨sign, negative, ds, n, hsign, hds, rfl, rfl⟩, hfits⟩, rfl⟩
    exact .modifier hsign hds hfits

/-- On any other text, only the second shape applies. -/
theorem derives_iff_of_not_signedDigits (hshape : ¬ SignedDigits cs) : Derives mode cs f ↔
    ∃ g, Group.find? cs = some g ∧ g.toFormula mode = .ok f := by
  simp only [Group.find?_eq, Option.map_eq_some_iff]
  constructor
  · intro h
    cases h with
    | modifier hsign hds => exact absurd (.intro hsign hds.ne_nil hds.isDecimalDigit) hshape
    | dice _ hfirst hcount hn hmaxCount hsides hm hmaxSides hthrow hkeep hmodifier =>
        have hfound := findDice?_eq_some_iff.mpr ⟨_, _, hfirst, hcount⟩
        obtain ⟨hkeepOf, hrest⟩ := keeps_iff.mp hkeep
        refine ⟨_, ⟨_, hfound, rfl⟩, Group.toFormula_eq_ok_iff.mpr ?_⟩
        rw [run_iff.mp hsides, hrest]
        exact ⟨_, _, _, _, hn, hmaxCount, hm, hmaxSides, hthrow, hkeepOf, modifies_iff.mp hmodifier,
          rfl⟩
  · rintro ⟨g, ⟨⟨count, after⟩, hfound, rfl⟩, hformula⟩
    obtain ⟨before, front, hfirst, hcount⟩ := findDice?_eq_some_iff.mp hfound
    obtain ⟨n, m, keep, v, hn, hmaxCount, hm, hmaxSides, hthrow, hkeep, hv, rfl⟩ :=
      Group.toFormula_eq_ok_iff.mp hformula
    exact .dice hshape hfirst hcount hn hmaxCount (run_splitDigits after) hm hmaxSides hthrow
      (keeps_iff.mpr ⟨hkeep, rfl⟩) (modifies_iff.mpr hv)

theorem readCore_eq_ok_iff : readCore mode cs = .ok f ↔ Derives mode cs f := by
  rw [readCore]
  split
  · next hnil => exact iff_of_false nofun fun h => h.ne_nil hnil
  · split
    · next hshape =>
        rw [derives_iff_of_signedDigits (isSignedDigits_iff.mp hshape)]
        simp only [map_eq_ok_iff, amountOf_eq_ok_iff]
    · next hshape =>
        rw [derives_iff_of_not_signedDigits (mt isSignedDigits_iff.mpr hshape)]
        cases Group.find? cs with
        | none => exact iff_of_false nofun nofun
        | some group => exact ⟨fun h => ⟨group, rfl, h⟩, fun ⟨_, heq, h⟩ => Option.some.inj heq ▸ h⟩

/-- A text is read as a formula exactly when the grammar derives the formula from it: from what is
left of its small letters without keywords and blanks, in the mode that the keywords give
together. -/
theorem parse_eq_ok_iff (text : String) (f : Formula) : parse text = .ok f ↔
    ∃ modes rest, Stripped (Text.lowercase text.toList) modes rest ∧
      Derives (Mode.combineAll modes) (Text.squeeze rest) f := by
  calc parse text = .ok f
    _ ↔ read text.toList = .ok f := by
      rw [parse]
      cases read text.toList with
      | error fault => exact iff_of_false nofun nofun
      | ok g => rw [Except.ok.injEq, Except.ok.injEq]
    _ ↔ ∃ modes rest, extractKeywords 0 (Text.lowercase text.toList) = (modes, rest) ∧
          readCore (Mode.combineAll modes) (Text.squeeze rest) = .ok f :=
      ⟨fun h => ⟨_, _, rfl, h⟩, fun ⟨_, _, heq, h⟩ => by rwa [read, heq]⟩
    _ ↔ _ := by simp only [extractKeywords_eq_iff, readCore_eq_ok_iff]

/-- A second dice group is no modifier, and a keyword counts wherever it stands. -/
example : parse "1d6 adv+1d4" = .ok ⟨1, 6, 0, none, .advantage⟩ := by decide

end Tabletop.Formula
