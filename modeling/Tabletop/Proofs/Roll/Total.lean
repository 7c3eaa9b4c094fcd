import Mathlib.Algebra.Order.BigOperators.Group.List
import Mathlib.Algebra.Order.Ring.Nat
import Tabletop.Proofs.Formula.Canonical
import Tabletop.Proofs.Roll.Division

/-!
# Roll — totals

When a total is exact.  Faces are added with saturation, and the modifier with a check: the sum of
the faces is the exact one, held at the greatest amount (`sumOf_eq_min`).  The limits on written
formulas keep the faces of a throw far below that (`Divides.sum_kept_le`), so for a formula that has
been read the saturation never takes effect, and only the modifier can carry a total beyond the
greatest amount.

`total_exact_or_reported`: the total of a text that is a formula is exact, or the roll tells of an
error and shows nothing.
-/

namespace Tabletop

namespace Roll

variable {faces : List Nat}

/-- From any amount that is not negative, the faces add up exactly until the greatest amount. -/
theorem foldl_add_ofCount {sum : Int} (h : 0 ≤ sum) (faces : List Nat) :
    faces.foldl (fun sum face => Amount.add sum (Amount.ofCount face)) (min sum Amount.greatest) =
      min (sum + faces.sum) Amount.greatest := by
  induction faces generalizing sum with
  | nil => rw [List.foldl_nil, List.sum_nil, Int.natCast_zero, Int.add_zero]
  | cons face faces ih =>
      -- once the sum is held at the greatest amount, a further face leaves it there
      have hface : Amount.add (min sum Amount.greatest) (Amount.ofCount face) =
          min (sum + face) Amount.greatest := by
        unfold Amount.add Amount.ofCount Amount.clamp Amount.least Amount.greatest
        omega
      rw [List.foldl_cons, hface, ih (Int.add_nonneg h (Int.natCast_nonneg face)), List.sum_cons,
        Int.natCast_add, Int.add_assoc]

theorem sumOf_eq_min (faces : List Nat) :
    sumOf faces = min (faces.sum : Int) Amount.greatest := by
  have hfold := foldl_add_ofCount (Int.le_refl 0) faces
  rwa [Int.zero_add] at hfold

theorem sumOf_of_le (h : (faces.sum : Int) ≤ Amount.greatest) : sumOf faces = faces.sum := by
  rw [sumOf_eq_min, Int.min_eq_left h]

end Roll

namespace Formula

variable {f : Formula} {t : Throw} {mode : Mode} {cs : List Char} {text : String}

/-! ### The limits on written formulas -/

/-- What the grammar derives keeps the limits on dice, also where no dice are thrown. -/
theorem Derives.small (h : Derives mode cs f) : f.count ≤ maxCount ∧ f.sides ≤ maxSides := by
  cases h with
  | modifier => exact ⟨Nat.zero_le _, Nat.zero_le _⟩
  | dice _ _ _ _ hmaxCount _ _ hmaxSides => exact ⟨hmaxCount, hmaxSides⟩

/-- A formula that has been read keeps the limits, and its modifier is an amount. -/
theorem limits_of_parse (h : parse text = .ok f) :
    f.count ≤ maxCount ∧ f.sides ≤ maxSides ∧ Amount.Fits f.modifier := by
  rw [parse_eq_ok_iff_readCore (stripped_extractKeywords _), readCore_eq_ok_iff] at h
  exact ⟨h.small.1, h.small.2, h.limits.2.1.modifier⟩

theorem Divides.length_le (h : f.Divides t) (hcount : f.count ≤ maxCount) :
    t.faces.length ≤ maxCount := by
  rw [h.length_faces]
  split
  · decide
  · exact hcount

/-- The faces that count are some of those thrown, none of which is above its die. -/
theorem Divides.sum_kept_le (h : f.Divides t) (hcount : f.count ≤ maxCount)
    (hsides : f.sides ≤ maxSides) : t.kept.sum ≤ maxCount * maxSides := by
  have hface : ∀ face ∈ t.faces, face ≤ maxSides := fun face hm =>
    Nat.le_trans (h.face face hm).2 (Nat.max_le.mpr ⟨hsides, by decide⟩)
  calc t.kept.sum
    _ ≤ t.kept.sum + t.dropped.sum := Nat.le_add_right _ _
    _ = t.faces.sum := by rw [← List.sum_append, h.partition.sum_nat]
    _ ≤ t.faces.length • maxSides := List.sum_le_card_nsmul _ _ hface
    _ ≤ maxCount * maxSides := Nat.mul_le_mul_right _ (h.length_le hcount)

/-- Within the limits on dice the faces are added exactly. -/
theorem sumOf_kept_throw (hcount : f.count ≤ maxCount) (hsides : f.sides ≤ maxSides)
    (dice : Dice) : Roll.sumOf (f.throw dice).1.kept = (f.throw dice).1.kept.sum := by
  have hle := (f.divides_throw dice).sum_kept_le hcount hsides
  refine Roll.sumOf_of_le (Int.le_trans (Int.ofNat_le.mpr hle) ?_)
  decide

/-! ### Exact totals -/

/-- A total that is no amount is too great: nothing is below the least modifier. -/
theorem fits_total_iff (h : Amount.Fits f.modifier) (faces : List Nat) :
    Amount.Fits (faces.sum + f.modifier) ↔ faces.sum + f.modifier ≤ Amount.greatest := by
  have hleast := h.1
  have hsum := Int.natCast_nonneg faces.sum
  unfold Amount.Fits
  omega

end Formula

namespace Roller

variable {text : String} {f : Formula}

/-- A text that is a formula is rolled as that formula. -/
theorem roll_of_parse (h : Formula.parse text = .ok f) (r : Roller) (label : Option String) :
    r.roll text label =
      r.remember (f.rollWith (String.ofList (Text.trim text.toList)) label r.dice) := by
  rw [roll, h]

/-- **Totals are exact or reported.**  The faces that count in a roll of a text that is a formula
are added exactly, and no total is too small.  The roll tells of an error exactly when the total
would be above the greatest amount.  Without an error it shows its throw, and the total is the exact
sum of the faces that count and the modifier; with one the total is 0, and there are neither dice
nor a critical. -/
theorem total_exact_or_reported (h : Formula.parse text = .ok f) (r : Roller)
    (label : Option String) :
    let thrown := (f.throw r.dice).1
    let sum : Int := thrown.kept.sum
    let roll := (r.roll text label).1
    (Roll.sumOf thrown.kept = sum ∧ Amount.least ≤ sum + f.modifier) ∧
      (roll.isError = true ↔ Amount.greatest < sum + f.modifier) ∧
      (roll.isError = false → roll.error = none ∧ roll.thrown = thrown ∧
        roll.modifier = f.modifier ∧ roll.diceSum = sum ∧ roll.total = sum + f.modifier) ∧
      (roll.isError = true → roll.total = 0 ∧ roll.faces = [] ∧ roll.kept = [] ∧
        roll.dropped = [] ∧ roll.criticalHit = false ∧ roll.criticalFail = false) := by
  intro thrown sum roll
  obtain ⟨hcount, hsides, hfits⟩ := Formula.limits_of_parse h
  have hsum : Roll.sumOf thrown.kept = sum := Formula.sumOf_kept_throw hcount hsides r.dice
  have hroll : roll = f.record (String.ofList (Text.trim text.toList)) label thrown :=
    congrArg Prod.fst (roll_of_parse h r label)
  have hle : Amount.Fits (sum + f.modifier) ↔ sum + f.modifier ≤ Amount.greatest :=
    Formula.fits_total_iff hfits thrown.kept
  rw [Formula.record_eq_ite, hsum] at hroll
  refine ⟨⟨hsum, ?_⟩, ?_⟩
  · exact Int.le_trans hfits.1 (Int.le_add_of_nonneg_left (Int.natCast_nonneg _))
  · split at hroll
    · next hok =>
        rw [hroll]
        exact ⟨iff_of_false Bool.false_ne_true (Int.not_lt.mpr (hle.mp hok)),
          fun _ => ⟨rfl, rfl, rfl, hsum, rfl⟩, nofun⟩
    · next hover =>
        rw [hroll]
        exact ⟨iff_of_true rfl (Int.not_le.mp (mt hle.mpr hover)), nofun,
          fun _ => ⟨rfl, rfl, rfl, rfl, rfl, rfl⟩⟩

/-- The last total that fits, and one that is too great by one. -/
theorem total_exact_or_reported_limit :
    let text := "2d6+2147483640"
    let f : Formula := ⟨2, 6, 2147483640, none, .normal⟩
    let fits := ((ofDice (.ofFaces [3, 4])).roll text none).1
    let beyond := ((ofDice (.ofFaces [4, 4])).roll text none).1
    Formula.parse text = .ok f ∧ fits.kept = [3, 4] ∧ fits.total = 2147483647 ∧
      beyond.isError = true ∧ beyond.total = 0 := by
  intro text f fits beyond
  have hparse : Formula.parse text = .ok f := by decide
  obtain ⟨-, herror, hexact, -⟩ := total_exact_or_reported hparse (ofDice (.ofFaces [3, 4])) none
  obtain ⟨-, herror', -, hnothing⟩ :=
    total_exact_or_reported hparse (ofDice (.ofFaces [4, 4])) none
  have hfits : fits.isError = false := Bool.eq_false_iff.mpr (mt herror.mp (by decide))
  have hbeyond : beyond.isError = true := herror'.mpr (by decide)
  obtain ⟨-, hthrown, -, -, htotal⟩ := hexact hfits
  exact ⟨hparse, congrArg Throw.kept hthrown, htotal.trans (by decide), hbeyond,
    (hnothing hbeyond).1⟩

end Roller

end Tabletop
