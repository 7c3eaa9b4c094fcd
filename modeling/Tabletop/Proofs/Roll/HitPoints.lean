import Mathlib.Algebra.Order.Ring.Int
import Tabletop.Proofs.Roll.Total

/-!
# Roll — hit points

What hit points come to.  They are added up level by level, and every sum on the way is held in the
range of amounts (`Amount.addAll`).  Such a row of additions, from any amount, is one exact sum that
is held between two bounds: what the same additions make of the least and of the greatest amount
(`addAll_eq_held`).  So what a sum on the way has beyond the range is lost, and hit points can fall
short of the exact sum (`hitPoints_fall_short`).

`hitPoints_held`: the hit points are the exact sum held between those bounds, and within the limits
of what hit points can be wherever a modifier takes nothing away or the dice are not too great.
-/

namespace Tabletop

/-! ### Amounts added in a row -/

namespace Amount

variable {x y d : Int} {ds : List Int}

/-- Amounts added to a first one, with every sum held in range. -/
def addAll (x : Int) (ds : List Int) : Int := ds.foldl add x

@[simp] theorem addAll_nil (x : Int) : addAll x [] = x := rfl

@[simp] theorem addAll_cons (x d : Int) (ds : List Int) :
    addAll x (d :: ds) = addAll (add x d) ds := rfl

theorem ofCount_nonneg (n : Nat) : 0 ≤ ofCount n :=
  Int.le_min.mpr ⟨Int.natCast_nonneg n, by decide⟩

theorem fits_ofCount (n : Nat) : Fits (ofCount n) :=
  ⟨Int.le_trans (by decide) (ofCount_nonneg n), Int.min_le_right _ _⟩

theorem fits_greatest : Fits greatest := by decide

theorem fits_addAll (h : Fits x) (ds : List Int) : Fits (addAll x ds) := by
  induction ds generalizing x with
  | nil => exact h
  | cons d ds ih => exact ih (fits_clamp _)

theorem clamp_mono (h : x ≤ y) : clamp x ≤ clamp y := by
  unfold clamp
  omega

theorem clamp_max (x y : Int) : clamp (max x y) = max (clamp x) (clamp y) := by
  rcases Int.le_total x y with h | h
  · rw [Int.max_eq_right h, Int.max_eq_right (clamp_mono h)]
  · rw [Int.max_eq_left h, Int.max_eq_left (clamp_mono h)]

theorem clamp_min (x y : Int) : clamp (min x y) = min (clamp x) (clamp y) := by
  rcases Int.le_total x y with h | h
  · rw [Int.min_eq_left h, Int.min_eq_left (clamp_mono h)]
  · rw [Int.min_eq_right h, Int.min_eq_right (clamp_mono h)]

theorem addAll_mono (h : x ≤ y) (ds : List Int) : addAll x ds ≤ addAll y ds := by
  induction ds generalizing x y with
  | nil => exact h
  | cons d ds ih => exact ih (clamp_mono (Int.add_le_add_right h d))

theorem addAll_concat (x : Int) (ds : List Int) (d : Int) :
    addAll x (ds ++ [d]) = add (addAll x ds) d := by
  rw [addAll, List.foldl_append, List.foldl_cons, List.foldl_nil, addAll]

/-- Between amounts the range is not in the way. -/
theorem held_clamp {low high : Int} (hlow : least ≤ low) (hhigh : high ≤ greatest) (x : Int) :
    max low (min high (clamp x)) = max low (min high x) := by
  unfold clamp
  omega

/-- **A row of additions is one addition**, held between what the row makes of the least and of the
greatest amount.  By induction on the row from its end: what is added last is added to the bounds as
well. -/
theorem addAll_eq_held (h : Fits x) (ds : List Int) :
    addAll x ds = max (addAll least ds) (min (addAll greatest ds) (x + ds.sum)) := by
  induction ds using List.reverseRecOn with
  | nil =>
      unfold Fits at h
      simp only [addAll_nil, List.sum_nil]
      omega
  | append_singleton ds d ih =>
      have hadd : max (addAll least ds) (min (addAll greatest ds) (x + ds.sum)) + d =
          max (addAll least ds + d) (min (addAll greatest ds + d) (x + ds.sum + d)) := by omega
      simp only [addAll_concat, add, List.sum_append, List.sum_singleton]
      rw [ih, hadd, clamp_max, clamp_min, held_clamp (fits_clamp _).1 (fits_clamp _).2,
        Int.add_assoc]

/-- Where nothing is taken away, only the greatest amount can be in the way. -/
theorem addAll_of_nonneg (h : Fits x) (hds : ∀ d ∈ ds, 0 ≤ d) :
    addAll x ds = min greatest (x + ds.sum) := by
  induction ds generalizing x with
  | nil =>
      unfold Fits at h
      simp only [addAll_nil, List.sum_nil]
      omega
  | cons d ds ih =>
      obtain ⟨hd, hrest⟩ := List.forall_mem_cons.mp hds
      have hsum : 0 ≤ ds.sum := List.sum_nonneg hrest
      rw [addAll_cons, add, ih (fits_clamp _) hrest, List.sum_cons]
      unfold Fits at h
      unfold clamp
      omega

/-- What is added to an amount, without what is taken away. -/
def gains (ds : List Int) : Int := (ds.map (max · 0)).sum

@[simp] theorem gains_nil : gains [] = 0 := rfl

@[simp] theorem gains_cons (d : Int) (ds : List Int) : gains (d :: ds) = max d 0 + gains ds := by
  rw [gains, List.map_cons, List.sum_cons, gains]

theorem gains_nonneg (ds : List Int) : 0 ≤ gains ds := by
  refine List.sum_nonneg fun d hd => ?_
  obtain ⟨d', -, rfl⟩ := List.mem_map.mp hd
  exact Int.le_max_right _ _

/-- Gains can lift an amount by no more than they are. -/
theorem addAll_le (h : least ≤ x) (ds : List Int) : addAll x ds ≤ x + gains ds := by
  induction ds generalizing x with
  | nil => rw [addAll_nil, gains_nil, Int.add_zero]
  | cons d ds ih =>
      have hrest := ih (fits_clamp (x + d)).1
      have hstep : clamp (x + d) ≤ x + max d 0 := by
        unfold clamp
        omega
      rw [addAll_cons, gains_cons, add]
      omega

/-- Where gains cannot reach beyond the greatest amount, nothing of them is lost. -/
theorem le_addAll (hleast : least ≤ x) (h : x + gains ds ≤ greatest) :
    x + ds.sum ≤ addAll x ds := by
  induction ds generalizing x with
  | nil => rw [addAll_nil, List.sum_nil, Int.add_zero]
  | cons d ds ih =>
      have hgains := gains_nonneg ds
      rw [gains_cons] at h
      have hstep : x + d ≤ clamp (x + d) ∧ clamp (x + d) + gains ds ≤ greatest := by
        unfold clamp
        omega
      have hrest := ih (fits_clamp (x + d)).1 hstep.2
      rw [addAll_cons, List.sum_cons, add]
      omega

end Amount

namespace Roller

variable {faces : List Nat} {dice : List Int} {constitution : Int}

/-! ### A die for each level -/

/-- One die, rolled: its face is the total. -/
theorem rollFormula_die (r : Roller) (sides : Nat) (label : Option String) :
    let rolled := r.rollFormula ⟨1, sides, 0, none, .normal⟩ label
    rolled.1.faces = [(r.dice.die sides).1] ∧
      rolled.1.total = Amount.ofCount (r.dice.die sides).1 ∧
      rolled.2.dice = (r.dice.die sides).2 := by
  have hthrow : (⟨1, sides, 0, none, .normal⟩ : Formula).throw r.dice =
      (⟨[(r.dice.die sides).1], [(r.dice.die sides).1], [], .normal⟩, (r.dice.die sides).2) :=
    Formula.throw_of_not_twice (fun h => h.2 rfl) r.dice
  have hsum : Roll.sumOf [(r.dice.die sides).1] = Amount.ofCount (r.dice.die sides).1 :=
    Roll.sumOf_eq_min _
  have hfits : Amount.Fits (Amount.ofCount (r.dice.die sides).1 + 0) := by
    unfold Amount.Fits Amount.ofCount Amount.least Amount.greatest
    omega
  intro rolled
  have hrolled : rolled = r.remember (Formula.record _ _ label _, _) :=
    congrArg (fun thrown : Throw × Dice => r.remember (Formula.record _ _ label thrown.1, thrown.2))
      hthrow
  rw [Formula.record_eq_ite, hsum, if_pos hfits] at hrolled
  rw [hrolled]
  exact ⟨rfl, Int.add_zero _, rfl⟩

/-- Each level rolls its die, and the face is the total. -/
theorem shown_levels (hitDie levels level : Nat) (r : Roller) :
    (r.serveAll (levelsAsked hitDie levels level)).1.map (fun roll => (roll.faces, roll.total)) =
      (r.dice.pool hitDie levels).1.map fun face => ([face], Amount.ofCount face) := by
  induction levels generalizing level r with
  | zero => rfl
  | succ levels ih =>
      have hasked : levelsAsked hitDie (levels + 1) level =
          .ofFormula ⟨1, hitDie, 0, none, .normal⟩ (some s!"Hit Points (level {level})") ::
            levelsAsked hitDie levels (level + 1) := rfl
      obtain ⟨hfaces, htotal, hdice⟩ :=
        r.rollFormula_die hitDie (some s!"Hit Points (level {level})")
      rw [hasked, serveAll, Dice.pool, List.map_cons, List.map_cons, ih]
      exact congrArg₂ List.cons (Prod.ext hfaces htotal)
        (congrArg (fun dice : Dice => (dice.pool hitDie levels).1.map _) hdice)

/-- The levels draw as many dice of the character's kind. -/
theorem sides_levelsAsked (hitDie levels level : Nat) :
    (levelsAsked hitDie levels level).flatMap Asked.sides = List.replicate levels hitDie := by
  have hsides : ∀ label,
      (Asked.ofFormula ⟨1, hitDie, 0, none, .normal⟩ label).sides = [hitDie] := by
    simp [Asked.sides, Asked.ofFormula, Formula.thrown, Formula.isModifierOnly]
  simp only [levelsAsked, List.flatMap_map, hsides]
  rw [← List.map_eq_flatMap, List.map_const', List.length_range']

/-- The hit die is rolled once for each level but the first. -/
theorem rolled_hitPoints (r : Roller) (hitDie level : Nat) (constitution : Int) :
    (r.hitPoints hitDie level constitution).2.dice = (r.dice.pool hitDie (level - 1)).2 ∧
      ∃ rolls,
        (r.hitPoints hitDie level constitution).2.history.toList = r.history.toList ++ rolls ∧
          rolls.map (·.faces) = (r.dice.pool hitDie (level - 1)).1.map ([·]) := by
  rw [hitPoints, levelUp_eq_serveAll]
  refine ⟨?_, _, history_serveAll r _, ?_⟩
  · rw [dice_serveAll, sides_levelsAsked, Dice.pool_eq_draw]
  · have hshown := congrArg (List.map Prod.fst) (shown_levels hitDie (level - 1) 2 r)
    rwa [List.map_map, List.map_map] at hshown

/-! ### The sum -/

/-- What the levels after the first add, when their dice count as these: a die and the modifier at
each. -/
def furtherLevels (constitution : Int) (dice : List Int) : List Int :=
  dice.flatMap fun die => [die, constitution]

theorem sum_furtherLevels (constitution : Int) (dice : List Int) :
    (furtherLevels constitution dice).sum = dice.sum + dice.length * constitution := by
  induction dice with
  | nil => simp [furtherLevels]
  | cons die dice ih =>
      rw [furtherLevels, List.flatMap_cons, ← furtherLevels, List.sum_append, ih, List.sum_cons,
        List.sum_singleton, List.sum_cons, List.length_cons, Int.natCast_add_one, Int.add_mul,
        Int.one_mul]
      omega

theorem nonneg_furtherLevels (hc : 0 ≤ constitution) (hdice : ∀ die ∈ dice, 0 ≤ die) :
    ∀ amount ∈ furtherLevels constitution dice, 0 ≤ amount := by
  intro amount hm
  obtain ⟨die, hdie, hm⟩ := List.mem_flatMap.mp hm
  rcases List.mem_pair.mp hm with rfl | rfl
  · exact hdice _ hdie
  · exact hc

/-- A modifier that takes something away leaves the dice as gains. -/
theorem gains_furtherLevels (hc : constitution ≤ 0) (hdice : ∀ die ∈ dice, 0 ≤ die) :
    Amount.gains (furtherLevels constitution dice) = dice.sum := by
  induction dice with
  | nil => rfl
  | cons die dice ih =>
      obtain ⟨hdie, hrest⟩ := List.forall_mem_cons.mp hdice
      rw [furtherLevels, List.flatMap_cons, ← furtherLevels, List.cons_append,
        List.singleton_append, Amount.gains_cons, Amount.gains_cons, Int.max_eq_left hdie,
        Int.max_eq_right hc, Int.zero_add, ih hrest, List.sum_cons]

theorem addAll_rolls (total constitution : Int) (rolls : List Roll) :
    rolls.foldl (fun total roll => Amount.add (Amount.add total roll.total) constitution) total =
      Amount.addAll total (furtherLevels constitution (rolls.map (·.total))) := by
  induction rolls generalizing total with
  | nil => rfl
  | cons roll rolls ih => exact ih _

/-- All that is added to the highest face of the hit die. -/
def levelAmounts (constitution : Int) (faces : List Nat) : List Int :=
  constitution :: furtherLevels constitution (faces.map Amount.ofCount)

/-- Hit points are the highest face and what the levels add to it, and at least one. -/
theorem hitPoints_eq (r : Roller) (hitDie level : Nat) (constitution : Int) :
    (r.hitPoints hitDie level constitution).1 =
      max (Amount.addAll (Amount.ofCount hitDie)
        (levelAmounts constitution (r.dice.pool hitDie (level - 1)).1)) 1 := by
  have htotals : (r.serveAll (levelsAsked hitDie (level - 1) 2)).1.map (·.total) =
      (r.dice.pool hitDie (level - 1)).1.map Amount.ofCount := by
    have hshown := congrArg (List.map Prod.snd) (shown_levels hitDie (level - 1) 2 r)
    rwa [List.map_map, List.map_map] at hshown
  rw [hitPoints, levelUp_eq_serveAll, levelAmounts, Amount.addAll_cons]
  dsimp only
  rw [addAll_rolls, htotals]

theorem sum_levelAmounts (constitution : Int) (faces : List Nat) :
    (levelAmounts constitution faces).sum =
      (faces.map Amount.ofCount).sum + (faces.length + 1 : Nat) * constitution := by
  rw [levelAmounts, List.sum_cons, sum_furtherLevels, List.length_map, Int.natCast_add_one,
    Int.add_mul, Int.one_mul]
  omega

theorem nonneg_levelAmounts (hc : 0 ≤ constitution) (faces : List Nat) :
    ∀ amount ∈ levelAmounts constitution faces, 0 ≤ amount :=
  List.forall_mem_cons.mpr ⟨hc, nonneg_furtherLevels hc
    (List.forall_mem_map.mpr fun face _ => Amount.ofCount_nonneg face)⟩

/-- Dice that together have no more sides than the greatest amount cannot reach beyond it. -/
theorem gains_levelAmounts_le (hc : constitution ≤ 0) {sides : Nat}
    (hfaces : ∀ face ∈ faces, face ≤ sides)
    (h : (faces.length + 1 : Nat) * sides ≤ Amount.greatest) :
    Amount.ofCount sides + Amount.gains (levelAmounts constitution faces) ≤ Amount.greatest := by
  have hgains :
      Amount.gains (levelAmounts constitution faces) = (faces.map Amount.ofCount).sum := by
    rw [levelAmounts, Amount.gains_cons, Int.max_eq_right hc, Int.zero_add,
      gains_furtherLevels hc (List.forall_mem_map.mpr fun face _ => Amount.ofCount_nonneg face)]
  have hface : ∀ die ∈ faces.map Amount.ofCount, die ≤ (sides : Int) :=
    List.forall_mem_map.mpr fun face hm =>
      Int.le_trans (Int.min_le_left _ _) (Int.ofNat_le.mpr (hfaces face hm))
  have hsum := List.sum_le_card_nsmul _ _ hface
  rw [List.length_map, nsmul_eq_mul] at hsum
  rw [Int.natCast_add_one, Int.add_mul, Int.one_mul] at h
  have hsides : Amount.ofCount sides ≤ sides := Int.min_le_left _ _
  rw [hgains]
  omega

/-! ### Held and exact -/

/-- Where gains cannot reach beyond the greatest amount, the sum is the exact one within the limits
of what hit points can be. -/
theorem max_addAll_of_gains_le {x : Int} {ds : List Int} (hx : 0 ≤ x)
    (h : x + Amount.gains ds ≤ Amount.greatest) :
    max (Amount.addAll x ds) 1 = max 1 (min Amount.greatest (x + ds.sum)) := by
  have hgains := Amount.gains_nonneg ds
  have hfits : Amount.Fits x := ⟨Int.le_trans (by decide) hx, by omega⟩
  have hexact := Amount.le_addAll hfits.1 h
  have hheld := Amount.addAll_eq_held hfits ds
  -- with all that is gained, the least amount is still below one
  have hlow := Amount.addAll_le (Int.le_refl Amount.least) ds
  have hhigh := (Amount.fits_addAll hfits ds).2
  unfold Amount.least Amount.greatest at *
  omega

/-- **Hit points are a held sum.**  The hit die is rolled once for each level but the first.  With
the highest face, these faces and the modifier of every level, the hit points are the exact sum held
between two bounds, which are hit points themselves: what the same additions, one after the other
and each held in range, make of the least and of the greatest amount.  These bounds are in the way
of nothing that can be hit points where the modifier takes nothing away, and where the dice of all
levels together have no more sides than the greatest amount. -/
theorem hitPoints_held (r : Roller) {hitDie level : Nat} (hdie : 1 ≤ hitDie) (hlevel : 1 ≤ level)
    (constitution : Int) :
    let faces := (r.dice.pool hitDie (level - 1)).1
    let found := r.hitPoints hitDie level constitution
    let exact := Amount.ofCount hitDie + (faces.map Amount.ofCount).sum + level * constitution
    let low := max 1 (Amount.addAll Amount.least (levelAmounts constitution faces))
    let high := max 1 (Amount.addAll Amount.greatest (levelAmounts constitution faces))
    (faces.length = level - 1 ∧ found.2.dice = (r.dice.pool hitDie (level - 1)).2 ∧
      ∃ rolls, found.2.history.toList = r.history.toList ++ rolls ∧
        rolls.map (·.faces) = faces.map ([·])) ∧
      (1 ≤ low ∧ low ≤ high ∧ high ≤ Amount.greatest ∧ found.1 = max low (min high exact)) ∧
      (0 ≤ constitution ∨ level * hitDie ≤ Amount.greatest →
        found.1 = max 1 (min Amount.greatest exact)) := by
  intro faces found exact low high
  have hlength : faces.length = level - 1 := Dice.length_pool _ _ _
  have hsum : Amount.ofCount hitDie + (levelAmounts constitution faces).sum = exact := by
    rw [sum_levelAmounts, hlength, Nat.sub_add_cancel hlevel, ← Int.add_assoc]
  have hfound : found.1 =
      max (Amount.addAll (Amount.ofCount hitDie) (levelAmounts constitution faces)) 1 :=
    hitPoints_eq r hitDie level constitution
  have hfits := Amount.fits_ofCount hitDie
  refine ⟨⟨hlength, rolled_hitPoints r hitDie level constitution⟩, ?_, ?_⟩
  · have hheld := Amount.addAll_eq_held hfits (levelAmounts constitution faces)
    have hle := Amount.addAll_mono (show Amount.least ≤ Amount.greatest by decide)
      (levelAmounts constitution faces)
    have hhigh := (Amount.fits_addAll Amount.fits_greatest (levelAmounts constitution faces)).2
    have hone : 1 ≤ Amount.greatest := by decide
    rw [hsum] at hheld
    rw [hfound, hheld]
    omega
  · rw [hfound, ← hsum]
    intro hlimits
    by_cases hc : 0 ≤ constitution
    · rw [Amount.addAll_of_nonneg hfits (nonneg_levelAmounts hc faces), Int.max_comm]
    · have hfaces : ∀ face ∈ faces, face ≤ hitDie := fun face hm =>
        Nat.le_trans (Dice.bounds_pool _ _ _ face hm).2 (Nat.max_le.mpr ⟨Nat.le_refl _, hdie⟩)
      refine max_addAll_of_gains_le (Amount.ofCount_nonneg hitDie)
        (gains_levelAmounts_le (Int.le_of_not_le hc) hfaces ?_)
      rw [hlength, Nat.sub_add_cancel hlevel]
      exact hlimits.resolve_left hc

/-- A die as great as amounts are, beyond which the second level is cut off before the modifier is
taken away; and three levels with a common die. -/
theorem hitPoints_held_beyond :
    let great := ((ofDice (.ofFaces [5])).hitPoints 2147483647 2 (-1)).1
    let common := ((ofDice (.ofFaces [4, 7])).hitPoints 8 3 (-2)).1
    1 ≤ 2147483647 ∧ 1 ≤ 2 ∧ great = max 1 (min 2147483646 2147483650) ∧
      1 ≤ 8 ∧ 1 ≤ 3 ∧ ((3 : Nat) * (8 : Nat) : Int) ≤ Amount.greatest ∧
      common = max 1 (min Amount.greatest 13) := by
  intro great common
  obtain ⟨-, ⟨-, -, -, hgreat⟩, -⟩ :=
    hitPoints_held (ofDice (.ofFaces [5])) (show 1 ≤ 2147483647 by decide) (show 1 ≤ 2 by decide)
      (-1)
  obtain ⟨-, -, hcommon⟩ :=
    hitPoints_held (ofDice (.ofFaces [4, 7])) (show 1 ≤ 8 by decide) (show 1 ≤ 3 by decide) (-2)
  exact ⟨by decide, by decide, hgreat.trans (by decide), by decide, by decide, by decide,
    (hcommon (.inr (by decide))).trans (by decide)⟩

/-- A great die shows 5 at the second level, and the modifier is -1.  The exact sum is above the
greatest amount, but the hit points are one less than that. -/
theorem hitPoints_fall_short :
    let r := ofDice (.ofFaces [5])
    let faces := (r.dice.pool 2147483647 (2 - 1)).1
    let exact := Amount.ofCount 2147483647 + (faces.map Amount.ofCount).sum + (2 : Nat) * (-1)
    exact = 2147483650 ∧ max 1 (min Amount.greatest exact) = 2147483647 ∧
      (r.hitPoints 2147483647 2 (-1)).1 = 2147483646 := by
  decide

end Roller

end Tabletop
