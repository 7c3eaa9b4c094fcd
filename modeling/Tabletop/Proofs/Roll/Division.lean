import Tabletop.Proofs.Roll.Draws

/-!
# Roll — division

Which dice of a roll count.  A keep rule sorts the faces, best first (`KeepRule.Prefers`), and cuts
the row in two, so nothing is lost and no face that counts is worse than one that does not.  A
single twenty-sided die with advantage or disadvantage is the one throw that is divided otherwise:
it is thrown twice, and the better or the worse face counts.

`rollWith_divides`: every roll without an error shows its dice divided in this way.  The dice that
the highest `n` keep are those that the lowest of the others drop, since one row is the other
backwards (`sort_highest_eq_reverse`).
-/

namespace Tabletop

/-! ### Faces lie on the die -/

namespace Dice

variable {mode : Mode}

theorem bounds_pool (sides count : Nat) (dice : Dice) :
    ∀ face ∈ (dice.pool sides count).1, 1 ≤ face ∧ face ≤ max sides 1 := by
  induction count generalizing dice with
  | zero => exact List.forall_mem_nil _
  | succ count ih => exact List.forall_mem_cons.mpr ⟨⟨dice.die_pos sides, dice.die_le sides⟩, ih _⟩

/-- With advantage and disadvantage there are two faces, and the better or the worse one counts. -/
theorem d20_of_ne_normal (h : mode ≠ .normal) (dice : Dice) : ∃ a b,
    (1 ≤ a ∧ a ≤ 20) ∧ (1 ≤ b ∧ b ≤ 20) ∧ (dice.d20 mode).1.1 = [a, b] ∧
      (mode = .advantage → (dice.d20 mode).1.2 = max a b) ∧
      (mode = .disadvantage → (dice.d20 mode).1.2 = min a b) := by
  have hface : ∀ d : Dice, 1 ≤ (d.die 20).1 ∧ (d.die 20).1 ≤ 20 := fun d =>
    ⟨d.die_pos 20, d.die_le 20⟩
  refine ⟨(dice.die 20).1, ((dice.die 20).2.die 20).1, hface _, hface _, ?_⟩
  cases mode with
  | normal => exact absurd rfl h
  | advantage => exact ⟨rfl, fun _ => rfl, Mode.noConfusion⟩
  | disadvantage => exact ⟨rfl, Mode.noConfusion, fun _ => rfl⟩

end Dice

/-! ### The order of a keep rule -/

namespace KeepRule

variable {faces : List Nat}

/-- A face that a keep rule takes before another, or as well. -/
def Prefers : KeepRule → Nat → Nat → Prop
  | .highest _, a, b => b ≤ a
  | .lowest _, a, b => a ≤ b

instance (rule : KeepRule) (a b : Nat) : Decidable (rule.Prefers a b) :=
  match rule with
  | .highest _ => inferInstanceAs (Decidable (b ≤ a))
  | .lowest _ => inferInstanceAs (Decidable (a ≤ b))

theorem perm_sort (rule : KeepRule) (faces : List Nat) : (rule.sort faces).Perm faces := by
  cases rule <;> exact List.mergeSort_perm _ _

theorem pairwise_sort (rule : KeepRule) (faces : List Nat) :
    (rule.sort faces).Pairwise rule.Prefers := by
  cases rule with
  | highest n =>
      have hsorted : ((highest n).sort faces).Pairwise fun a b => decide (b ≤ a) = true :=
        List.pairwise_mergeSort (fun a b c => by simpa using fun hab hbc => Nat.le_trans hbc hab)
          (fun a b => by simpa using Nat.le_total b a) faces
      exact hsorted.imp of_decide_eq_true
  | lowest n =>
      have hsorted : ((lowest n).sort faces).Pairwise fun a b => decide (a ≤ b) = true :=
        List.pairwise_mergeSort (fun a b c => by simpa using Nat.le_trans)
          (fun a b => by simpa using Nat.le_total a b) faces
      exact hsorted.imp of_decide_eq_true

/-- There is one such row only. -/
theorem sort_eq_of_perm {rule : KeepRule} {row : List Nat} (hperm : row.Perm faces)
    (hrow : row.Pairwise rule.Prefers) : rule.sort faces = row := by
  have hantisymm : ∀ a b, a ∈ rule.sort faces → b ∈ row → rule.Prefers a b → rule.Prefers b a →
      a = b := by
    intro a b _ _ hab hba
    cases rule with
    | highest n => exact Nat.le_antisymm hba hab
    | lowest n => exact Nat.le_antisymm hab hba
  exact ((rule.perm_sort faces).trans hperm.symm).eq_of_pairwise hantisymm
    (rule.pairwise_sort faces) hrow

/-- From the highest down is from the lowest up, backwards. -/
theorem sort_highest_eq_reverse (n m : Nat) (faces : List Nat) :
    (highest n).sort faces = ((lowest m).sort faces).reverse :=
  sort_eq_of_perm ((List.reverse_perm _).trans (perm_sort _ faces))
    (List.pairwise_reverse.mpr (pairwise_sort (lowest m) faces))

end KeepRule

namespace Formula

variable {f : Formula} {faces : List Nat} {text : String} {label : Option String} {t : Throw}

/-! ### A pool, divided -/

theorem perm_divide (keep : Option KeepRule) (faces : List Nat) :
    ((divide keep faces).kept ++ (divide keep faces).dropped).Perm faces := by
  cases keep with
  | none => exact .of_eq (List.append_nil faces)
  | some rule =>
      have hcut : (divide (some rule) faces).kept ++ (divide (some rule) faces).dropped =
          rule.sort faces := List.take_append_drop _ _
      exact hcut ▸ rule.perm_sort faces

theorem length_kept_divide (rule : KeepRule) (faces : List Nat) :
    (divide (some rule) faces).kept.length = min rule.count faces.length := by
  rw [divide, List.length_take, (rule.perm_sort faces).length_eq]

theorem prefers_divide (rule : KeepRule) (faces : List Nat) :
    ∀ a ∈ (divide (some rule) faces).kept, ∀ b ∈ (divide (some rule) faces).dropped,
      rule.Prefers a b := by
  have hrow : (rule.sort faces).Pairwise rule.Prefers := rule.pairwise_sort faces
  rw [← List.take_append_drop rule.count (rule.sort faces)] at hrow
  exact (List.pairwise_append.mp hrow).2.2

/-- What the highest keep, the lowest of the others drop. -/
theorem kept_highest_perm_dropped_lowest (n : Nat) (faces : List Nat) :
    (divide (some (.highest n)) faces).kept.Perm
      (divide (some (.lowest (faces.length - n))) faces).dropped := by
  have hlength : ((KeepRule.lowest (faces.length - n)).sort faces).length = faces.length :=
    (KeepRule.perm_sort _ faces).length_eq
  have hkept : (divide (some (.highest n)) faces).kept =
      (divide (some (.lowest (faces.length - n))) faces).dropped.reverse := by
    simp only [divide, KeepRule.count]
    rw [KeepRule.sort_highest_eq_reverse n (faces.length - n), List.take_reverse, hlength]
  exact hkept ▸ List.reverse_perm _

/-! ### A throw, divided -/

/-- The formula throws a single twenty-sided die twice. -/
def ThrowsTwice (f : Formula) : Prop := f.isSingleD20 = true ∧ f.mode ≠ .normal

instance (f : Formula) : Decidable f.ThrowsTwice := inferInstanceAs (Decidable (_ ∧ _))

theorem isSingleD20_iff : f.isSingleD20 = true ↔ f.count = 1 ∧ f.sides = 20 ∧ f.keep = none := by
  simp [isSingleD20, and_assoc]

theorem isModifierOnly_iff : f.isModifierOnly = true ↔ f.count = 0 := by simp [isModifierOnly]

/-- A throw has the dice of the formula, and those count that the formula says. -/
structure Divides (f : Formula) (t : Throw) : Prop where
  /-- As many faces as dice; two for a die thrown twice, none without dice. -/
  length_faces : t.faces.length = if f.ThrowsTwice then 2 else f.count
  /-- Every face lies on the die. -/
  face : ∀ face ∈ t.faces, 1 ≤ face ∧ face ≤ max f.sides 1
  /-- Every die counts or does not, and none does both. -/
  partition : (t.kept ++ t.dropped).Perm t.faces
  /-- A keep rule takes its number of dice, or all, and none that is worse than one it leaves. -/
  ranked : ∀ rule, f.keep = some rule → t.kept.length = min rule.count f.count ∧
    ∀ a ∈ t.kept, ∀ b ∈ t.dropped, rule.Prefers a b
  /-- Without a keep rule all dice count, in the order thrown. -/
  whole : f.keep = none → ¬f.ThrowsTwice → t.kept = t.faces ∧ t.dropped = []
  /-- Of a die thrown twice the better or the worse face counts. -/
  twice : f.ThrowsTwice → ∃ a b, t.faces = [a, b] ∧
    (f.mode = .advantage → t.kept = [max a b] ∧ t.dropped = [min a b]) ∧
    (f.mode = .disadvantage → t.kept = [min a b] ∧ t.dropped = [max a b])

theorem throw_of_twice (h : f.ThrowsTwice) (dice : Dice) : f.throw dice =
    (⟨(dice.d20 f.mode).1.1, [(dice.d20 f.mode).1.2],
      (dice.d20 f.mode).1.1.erase (dice.d20 f.mode).1.2, f.mode⟩, (dice.d20 f.mode).2) := by
  have hdice : ¬f.isModifierOnly = true := by
    rw [isModifierOnly_iff, (isSingleD20_iff.mp h.1).1]
    decide
  have htwice : (f.isSingleD20 && f.mode != .normal) = true := by simp [h.1, h.2]
  rw [throw, if_neg hdice, if_pos htwice]

/-- Other dice are a pool, also where there are none. -/
theorem throw_of_not_twice (h : ¬f.ThrowsTwice) (dice : Dice) : f.throw dice =
    (divide f.keep (dice.pool f.sides f.count).1, (dice.pool f.sides f.count).2) := by
  have honce : ¬(f.isSingleD20 && f.mode != .normal) = true := by
    simpa [ThrowsTwice, bne_iff_ne] using h
  by_cases hnone : f.isModifierOnly = true
  · rw [throw, if_pos hnone, isModifierOnly_iff.mp hnone, Dice.pool]
    rcases f.keep with _ | _ | _ <;> simp [divide, KeepRule.sort]
  · rw [throw, if_neg hnone, if_neg honce]

/-- Of two faces the one that is not the greater is the lesser. -/
theorem erase_max (a b : Nat) : [a, b].erase (max a b) = [min a b] := by
  rcases Nat.lt_or_ge a b with h | h
  · simp [Nat.max_eq_right (Nat.le_of_lt h), Nat.min_eq_left (Nat.le_of_lt h), Nat.ne_of_lt h]
  · simp [Nat.max_eq_left h, Nat.min_eq_right h]

theorem erase_min (a b : Nat) : [a, b].erase (min a b) = [max a b] := by
  rcases Nat.lt_or_ge b a with h | h
  · simp [Nat.max_eq_left (Nat.le_of_lt h), Nat.min_eq_right (Nat.le_of_lt h), Nat.ne_of_gt h]
  · simp [Nat.max_eq_right h, Nat.min_eq_left h]

theorem divides_of_twice (h : f.ThrowsTwice) (dice : Dice) : f.Divides (f.throw dice).1 := by
  obtain ⟨a, b, ha, hb, hfaces, hadvantage, hdisadvantage⟩ := dice.d20_of_ne_normal h.2
  obtain ⟨-, hsides, hkeep⟩ := isSingleD20_iff.mp h.1
  have hkept : (dice.d20 f.mode).1.2 = max a b ∨ (dice.d20 f.mode).1.2 = min a b := by
    cases hmode : f.mode with
    | normal => exact absurd hmode h.2
    | advantage => exact .inl (hmode ▸ hadvantage hmode)
    | disadvantage => exact .inr (hmode ▸ hdisadvantage hmode)
  have hmem : (dice.d20 f.mode).1.2 ∈ [a, b] := by
    rcases hkept with hkept | hkept <;> rw [hkept] <;> grind
  rw [throw_of_twice h, hfaces]
  exact {
    length_faces := (if_pos h).symm
    face := by
      rw [hsides]
      exact List.forall_mem_cons.mpr ⟨ha, List.forall_mem_singleton.mpr hb⟩
    partition := (List.perm_cons_erase hmem).symm
    ranked := fun rule hrule => nomatch hkeep.symm.trans hrule
    whole := fun _ honce => absurd h honce
    twice := fun _ => ⟨a, b, rfl,
      fun hmode => by rw [hadvantage hmode, erase_max]; exact ⟨rfl, rfl⟩,
      fun hmode => by rw [hdisadvantage hmode, erase_min]; exact ⟨rfl, rfl⟩⟩ }

theorem divides_of_not_twice (h : ¬f.ThrowsTwice) (dice : Dice) :
    f.Divides (f.throw dice).1 := by
  have hlength : (dice.pool f.sides f.count).1.length = f.count := dice.length_pool _ _
  rw [throw_of_not_twice h]
  exact {
    length_faces := by rw [faces_divide, hlength, if_neg h]
    face := by
      rw [faces_divide]
      exact dice.bounds_pool _ _
    partition := by
      rw [faces_divide]
      exact perm_divide _ _
    ranked := fun rule hrule => by
      rw [hrule, length_kept_divide, hlength]
      exact ⟨rfl, prefers_divide _ _⟩
    whole := fun hrule _ => by
      rw [hrule]
      exact ⟨rfl, rfl⟩
    twice := fun htwice => absurd htwice h }

/-- **Every throw of a formula is divided as the formula says.** -/
theorem divides_throw (f : Formula) (dice : Dice) : f.Divides (f.throw dice).1 := by
  by_cases h : f.ThrowsTwice
  · exact divides_of_twice h dice
  · exact divides_of_not_twice h dice

/-- What the highest keep of a pool, the lowest of the others drop. -/
theorem kept_throw_highest_perm (f : Formula) (n : Nat) (dice : Dice) :
    (({ f with keep := some (.highest n) } : Formula).throw dice).1.kept.Perm
      (({ f with keep := some (.lowest (f.count - n)) } : Formula).throw dice).1.dropped := by
  have hpool : ∀ rule, ¬({ f with keep := some rule } : Formula).ThrowsTwice := fun rule htwice =>
    nomatch (isSingleD20_iff.mp htwice.1).2.2
  rw [throw_of_not_twice (hpool _), throw_of_not_twice (hpool _)]
  have hperm := kept_highest_perm_dropped_lowest n (dice.pool f.sides f.count).1
  rwa [Dice.length_pool] at hperm

/-! ### The record of a throw -/

/-- A throw is on record with its total, or gave nothing where the total is no amount. -/
theorem record_eq_ite (f : Formula) (text : String) (label : Option String) (t : Throw) :
    f.record text label t = if Amount.Fits (Roll.sumOf t.kept + f.modifier) then
      { expression := text, faces := t.faces, kept := t.kept, dropped := t.dropped
        modifier := f.modifier, total := Roll.sumOf t.kept + f.modifier
        criticalHit := f.isSingleD20 && t.kept == [20]
        criticalFail := f.isSingleD20 && t.kept == [1]
        mode := t.mode, label, error := none }
    else Roll.failed text label (overflowReason text) := by
  unfold record Amount.add?
  split_ifs <;> rfl

end Formula

namespace Roll

/-- The throw that a roll shows. -/
def thrown (r : Roll) : Throw := ⟨r.faces, r.kept, r.dropped, r.mode⟩

theorem sumOf_singleton {face : Nat} (h : Amount.Fits face) : sumOf [face] = face := by
  simp only [sumOf, List.foldl_cons, List.foldl_nil, Amount.add, Amount.ofCount, Int.zero_add]
  rw [Int.min_eq_left h.2, Amount.clamp_of_fits h]

end Roll

namespace Formula

variable {f : Formula} {text : String} {label : Option String} {t : Throw}

/-- A roll with an error gave nothing. -/
theorem record_of_isError (h : (f.record text label t).isError = true) :
    f.record text label t = Roll.failed text label (overflowReason text) := by
  rw [record_eq_ite] at h ⊢
  split_ifs at h ⊢ with hfits
  · exact nomatch h
  · rfl

/-- A roll without an error shows its throw, and whether that is a critical. -/
theorem record_of_error_eq_none (h : (f.record text label t).error = none) :
    (f.record text label t).thrown = t ∧
      ((f.record text label t).criticalHit = true ↔
        (f.count = 1 ∧ f.sides = 20 ∧ f.keep = none) ∧ t.kept = [20]) ∧
      ((f.record text label t).criticalFail = true ↔
        (f.count = 1 ∧ f.sides = 20 ∧ f.keep = none) ∧ t.kept = [1]) := by
  rw [record_eq_ite] at h ⊢
  split_ifs at h ⊢ with hfits
  · exact ⟨rfl, by simp [isSingleD20_iff], by simp [isSingleD20_iff]⟩
  · exact nomatch h

/-- **The dice of a roll are divided exactly.**  A roll without an error shows a throw of its
formula: every face on the die, each die counted or dropped, by the keep rule or the mode; and it is
a critical hit, or fail, when it is a lone twenty-sided die whose one face that counts is 20, or 1.
On the same dice, the highest `n` keep what the lowest of the others drop. -/
theorem rollWith_divides (f : Formula) (text : String) (label : Option String) (dice : Dice) :
    let roll := (f.rollWith text label dice).1
    (roll.error = none →
      f.Divides roll.thrown ∧
        (roll.criticalHit = true ↔
          (f.count = 1 ∧ f.sides = 20 ∧ f.keep = none) ∧ roll.kept = [20]) ∧
        (roll.criticalFail = true ↔
          (f.count = 1 ∧ f.sides = 20 ∧ f.keep = none) ∧ roll.kept = [1])) ∧
      ∀ n : Nat,
        let high := (({ f with keep := some (.highest n) } : Formula).rollWith text label dice).1
        let low :=
          (({ f with keep := some (.lowest (f.count - n)) } : Formula).rollWith text label dice).1
        high.error = none → low.error = none → high.kept.Perm low.dropped := by
  intro roll
  refine ⟨fun hok => ?_, ?_⟩
  · obtain ⟨hthrown, hhit, hfail⟩ := record_of_error_eq_none hok
    have hkept : roll.kept = (f.throw dice).1.kept := congrArg Throw.kept hthrown
    rw [hkept]
    exact ⟨hthrown ▸ f.divides_throw dice, hhit, hfail⟩
  · intro n high low hhigh hlow
    have hkept := congrArg Throw.kept (record_of_error_eq_none hhigh).1
    have hdropped := congrArg Throw.dropped (record_of_error_eq_none hlow).1
    exact (List.Perm.of_eq hkept).trans
      ((f.kept_throw_highest_perm n dice).trans (.of_eq hdropped.symm))

/-- The best three of four dice. -/
theorem rollWith_divides_best_three :
    let best : Formula := ⟨4, 6, 2, some (.highest 3), .normal⟩
    let worst : Formula := ⟨4, 6, 2, some (.lowest 1), .normal⟩
    let high := (best.rollWith "4d6" none (.ofFaces [3, 6, 1, 6])).1
    let low := (worst.rollWith "4d6" none (.ofFaces [3, 6, 1, 6])).1
    high.kept = [6, 6, 3] ∧ best.Divides high.thrown ∧ high.kept.Perm low.dropped := by
  intro best worst high low
  have hdown : (KeepRule.highest 3).sort [3, 6, 1, 6] = [6, 6, 3, 1] :=
    KeepRule.sort_eq_of_perm (by decide) (by decide)
  have hup : (KeepRule.lowest 1).sort [3, 6, 1, 6] = [1, 3, 6, 6] :=
    KeepRule.sort_eq_of_perm (by decide) (by decide)
  have hhigh : high = best.record "4d6" none ⟨[3, 6, 1, 6], [6, 6, 3], [1], .normal⟩ :=
    congrArg (fun row : List Nat =>
      best.record "4d6" none ⟨[3, 6, 1, 6], row.take 3, row.drop 3, .normal⟩) hdown
  have hlow : low = worst.record "4d6" none ⟨[3, 6, 1, 6], [1], [3, 6, 6], .normal⟩ :=
    congrArg (fun row : List Nat =>
      worst.record "4d6" none ⟨[3, 6, 1, 6], row.take 1, row.drop 1, .normal⟩) hup
  obtain ⟨hdivides, hperm⟩ := rollWith_divides best "4d6" none (.ofFaces [3, 6, 1, 6])
  exact ⟨congrArg Roll.kept hhigh, (hdivides (congrArg Roll.error hhigh)).1,
    hperm 3 (congrArg Roll.error hhigh) (congrArg Roll.error hlow)⟩

end Formula

end Tabletop
