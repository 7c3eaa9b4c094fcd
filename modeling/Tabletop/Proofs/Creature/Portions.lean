import Tabletop.Proofs.Creature.Health

/-!
# Creature — damage and healing in portions

Whether damage comes in one hit or in two makes no difference, and neither does it for healing.
Damage brings hit points down to some number and healing brings them up to some number
(`Health.loweredTo`, `Health.raisedTo`); on the way there a stop changes nothing
(`loweredTo_loweredTo`, `raisedTo_raisedTo`), although the creature may go down or wake at the stop.
`AddUp` says what two portions and the whole have to do with each other, and
`portions_addUp` that damage and healing do so, for any health.
-/

namespace Tabletop

namespace Health

variable {h h' h'' : Health} {a b hp hp' : Int} {d : Bool}

/-! ### Damage -/

/-- The health with no more than some hit points left, and down when there are none. -/
def loweredTo (h : Health) (d : Bool) (hp : Int) : Health :=
  { h with current := hp, state := if hp = 0 then stateAtZero d h.state else h.state }

theorem damage_eq_loweredTo (h : Health) (amount : Int) (d : Bool) :
    let left := max (h.current - max amount 0) 0
    h.damage amount d =
      ((max amount 0, h.state == .conscious && left == 0), h.loweredTo d left) := rfl

theorem stateAtZero_stateAtZero (d : Bool) (s : LifeState) :
    stateAtZero d (stateAtZero d s) = stateAtZero d s := by
  cases s <;> cases d <;> rfl

/-- Who has gone down at the stop goes down there, and stays so. -/
theorem loweredTo_loweredTo (hzero : hp = 0 → hp' = 0) :
    (h.loweredTo d hp).loweredTo d hp' = h.loweredTo d hp' := by
  unfold loweredTo
  by_cases hhp : hp = 0
  · simp only [hhp, hzero hhp, if_true, stateAtZero_stateAtZero]
  · simp only [hhp, if_false]

/-- Who is left without hit points is not on its feet. -/
theorem isUp_loweredTo (h : Health) (d : Bool) (hp : Int) :
    ((h.loweredTo d hp).state == .conscious) = (h.state == .conscious && !(hp == 0)) := by
  unfold loweredTo
  by_cases hhp : hp = 0
  · simp [hhp, stateAtZero_ne_conscious]
  · simp [hhp]

/-! ### Healing -/

/-- The health with some hit points at least, and awake when there are any. -/
def raisedTo (h : Health) (hp : Int) : Health :=
  if h.isUnconscious && decide (0 < hp) then
    { h with current := hp, state := .conscious, saves := .none }
  else { h with current := hp }

theorem heal_eq_raisedTo (hd : h.state ≠ .dead) (amount : Int) :
    let healed := min (h.current + max amount 0) h.maximum
    h.heal amount =
      ((healed - h.current, h.isUnconscious && decide (0 < healed)), h.raisedTo healed) := by
  rw [heal, if_neg hd]
  rfl

theorem raisedTo_of_woke (hu : h.isUnconscious = true) (hpos : 0 < hp) :
    h.raisedTo hp = { h with current := hp, state := .conscious, saves := .none } := by
  rw [raisedTo, hu, decide_eq_true hpos, Bool.true_and, if_pos rfl]

theorem raisedTo_of_kept (hw : h.isUnconscious = true → hp ≤ 0) :
    h.raisedTo hp = { h with current := hp } := by
  rw [raisedTo, if_neg]
  rw [Bool.and_eq_true_iff, decide_eq_true_iff]
  exact fun hw' => absurd hw'.2 (Int.not_lt.mpr (hw hw'.1))

@[simp] theorem current_raisedTo (h : Health) (hp : Int) : (h.raisedTo hp).current = hp := by
  unfold raisedTo
  split <;> rfl

@[simp] theorem maximum_raisedTo (h : Health) (hp : Int) :
    (h.raisedTo hp).maximum = h.maximum := by
  unfold raisedTo
  split <;> rfl

/-- Who has some hit points is not unconscious any more. -/
theorem isUnconscious_raisedTo (h : Health) (hp : Int) :
    (h.raisedTo hp).isUnconscious = (h.isUnconscious && !decide (0 < hp)) := by
  by_cases hw : h.isUnconscious = true ∧ 0 < hp
  · rw [raisedTo_of_woke hw.1 hw.2, hw.1, decide_eq_true hw.2]
    rfl
  · have hkept : h.isUnconscious = true → hp ≤ 0 := fun hu =>
      Int.not_lt.mp fun hpos => hw ⟨hu, hpos⟩
    rw [raisedTo_of_kept hkept]
    cases hu : h.isUnconscious with
    | false => exact hu
    | true =>
        rw [decide_eq_false (Int.not_lt.mpr (hkept hu))]
        exact hu

theorem state_raisedTo_ne_dead (hd : h.state ≠ .dead) (hp : Int) :
    (h.raisedTo hp).state ≠ .dead := by
  unfold raisedTo
  split
  · exact LifeState.noConfusion
  · exact hd

/-- Who has woken at the stop has woken, and the others wake later or not at all. -/
theorem raisedTo_raisedTo (hle : hp ≤ hp') : (h.raisedTo hp).raisedTo hp' = h.raisedTo hp' := by
  by_cases hw : h.isUnconscious = true ∧ 0 < hp
  · have hawake : (h.raisedTo hp).isUnconscious = false := by
      rw [isUnconscious_raisedTo, decide_eq_true hw.2, Bool.not_true, Bool.and_false]
    rw [raisedTo_of_kept fun hu => absurd (hawake.symm.trans hu) Bool.false_ne_true,
      raisedTo_of_woke hw.1 hw.2, raisedTo_of_woke hw.1 (Int.lt_of_lt_of_le hw.2 hle)]
  · rw [raisedTo_of_kept fun hu => Int.not_lt.mp fun hpos => hw ⟨hu, hpos⟩]
    rfl

/-! ### Portions and the whole -/

/-- Two portions one after the other come to the whole: to the same health, with amounts that add
up.  The whole takes the creature from its feet, or wakes it, exactly when one portion does, and
never do both. -/
structure AddUp (first second whole : (Int × Bool) × Health) : Prop where
  health : second.2 = whole.2
  amount : first.1.1 + second.1.1 = whole.1.1
  turned : whole.1.2 = true ↔ first.1.2 = true ∨ second.1.2 = true
  once : ¬(first.1.2 = true ∧ second.1.2 = true)

/-- What can happen once has happened at the stop, or happens behind it. -/
theorem AddUp.of_stop {x y z : Int} {can stopped done : Bool} (hdone : stopped = true → done = true)
    (hamount : x + y = z) (hhealth : h'' = h') :
    AddUp ((x, can && stopped), h) ((y, (can && !stopped) && done), h'')
      ((z, can && done), h') where
  health := hhealth
  amount := hamount
  turned := by cases can <;> cases stopped <;> cases done <;> simp_all
  once := by cases can <;> cases stopped <;> simp

theorem damage_addUp (h : Health) (ha : 0 ≤ a) (hb : 0 ≤ b) (d : Bool) :
    AddUp (h.damage a d) ((h.damage a d).2.damage b d) (h.damage (a + b) d) := by
  have hsum : max (a + b) 0 = a + b := Int.max_eq_left (Int.add_nonneg ha hb)
  have hcurrent : (h.loweredTo d (max (h.current - a) 0)).current = max (h.current - a) 0 := rfl
  have hleft : max (max (h.current - a) 0 - b) 0 = max (h.current - (a + b)) 0 := by omega
  have hzero : max (h.current - a) 0 = 0 → max (h.current - (a + b)) 0 = 0 := by omega
  simp only [damage_eq_loweredTo, Int.max_eq_left ha, Int.max_eq_left hb, hsum, hcurrent, hleft,
    isUp_loweredTo]
  exact .of_stop (by simpa using hzero) rfl (loweredTo_loweredTo hzero)

theorem heal_addUp (h : Health) (ha : 0 ≤ a) (hb : 0 ≤ b) :
    AddUp (h.heal a) ((h.heal a).2.heal b) (h.heal (a + b)) := by
  by_cases hd : h.state = .dead
  · have hdead : ∀ amount, h.heal amount = ((0, false), h) := fun amount => if_pos hd
    rw [hdead, hdead, hdead]
    exact ⟨rfl, rfl, by simp, by simp⟩
  · have hsum : max (a + b) 0 = a + b := Int.max_eq_left (Int.add_nonneg ha hb)
    have hraised : min (min (h.current + a) h.maximum + b) h.maximum =
        min (h.current + (a + b)) h.maximum := by omega
    have hle : min (h.current + a) h.maximum ≤ min (h.current + (a + b)) h.maximum := by omega
    simp only [heal_eq_raisedTo hd, heal_eq_raisedTo (state_raisedTo_ne_dead hd _),
      current_raisedTo, maximum_raisedTo, Int.max_eq_left ha, Int.max_eq_left hb, hsum, hraised,
      isUnconscious_raisedTo]
    refine .of_stop (fun hpos => ?_) (by omega) (raisedTo_raisedTo hle)
    exact decide_eq_true (Int.lt_of_lt_of_le (of_decide_eq_true hpos) hle)

/-- **Portions add up.**  Damage in two portions and the same damage in one hit leave a creature in
the same health and do the same amount, and the hit takes it from its feet exactly when one of the
portions does; and so it is with healing and waking. -/
theorem portions_addUp (h : Health) (ha : 0 ≤ a) (hb : 0 ≤ b) (diesAtZero : Bool) :
    AddUp (h.damage a diesAtZero) ((h.damage a diesAtZero).2.damage b diesAtZero)
        (h.damage (a + b) diesAtZero) ∧
      AddUp (h.heal a) ((h.heal a).2.heal b) (h.heal (a + b)) :=
  ⟨h.damage_addUp ha hb diesAtZero, h.heal_addUp ha hb⟩

/-- A player falls to the second of two blows, and lies; healing in two portions wakes it with the
first of them, and what is above its maximum is lost from the second. -/
theorem portions_addUp_fallen :
    let up := full 10
    let down := (up.damage 12 false).2
    (0 : Int) ≤ 7 ∧ (0 : Int) ≤ 5 ∧ down.state = .unconscious false ∧
      AddUp (up.damage 7 false) ((up.damage 7 false).2.damage 5 false) (up.damage 12 false) ∧
      AddUp (down.heal 7) ((down.heal 7).2.heal 5) (down.heal 12) ∧
      (down.heal 7).1 = (7, true) ∧ ((down.heal 7).2.heal 5).1 = (3, false) :=
  ⟨by decide, by decide, rfl, (portions_addUp (full 10) (by decide) (by decide) false).1,
    (portions_addUp ((full 10).damage 12 false).2 (by decide) (by decide) false).2, rfl, rfl⟩

end Health

end Tabletop
