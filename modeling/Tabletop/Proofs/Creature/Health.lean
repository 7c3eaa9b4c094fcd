import Mathlib.Tactic.ByContra
import Tabletop.Creature.Health

/-!
# Creature — sound health

What hit points, life state and death saves have to do with each other (`Health.Sound`), whatever
happens to a creature: every operation on its health keeps them sound.  What healing and death saves
can come to is said once (`Healed`, `Saved`), and the rest goes by cases on that.  The dead stay as
they are (`damage_of_dead` and the lemmas after it).  The last part does the arithmetic of the
operations in the ranges that amounts and saves are kept in, and gives up where a result leaves its
range (`damage?`, `heal?`, `deathSave?`); in sound health none does, and the results are those of
the operations themselves.
-/

namespace Tabletop

namespace Health

variable {h h' : Health} {natural : Nat} {r : DeathSaveOutcome × Health}

/-- Hit points, life state and death saves agree. -/
structure Sound (h : Health) : Prop where
  /-- There is a hit point to have. -/
  maximum_pos : 1 ≤ h.maximum
  /-- Hit points do not fall below 0. -/
  current_nonneg : 0 ≤ h.current
  /-- Hit points do not rise above the maximum. -/
  current_le : h.current ≤ h.maximum
  /-- The creature is at 0 hit points exactly when it is not on its feet. -/
  down_iff : h.current = 0 ↔ h.state ≠ .conscious
  /-- Three saves are made at most. -/
  successes_le : h.saves.successes ≤ 3
  /-- Three saves are missed at most. -/
  failures_le : h.saves.failures ≤ 3
  /-- The third missed save is death. -/
  fatal : h.saves.failures = 3 → h.state = .dead

/-! ### What the operations can come to -/

theorem stateAtZero_ne_conscious (d : Bool) (s : LifeState) : stateAtZero d s ≠ .conscious := by
  cases s <;> cases d <;> exact LifeState.noConfusion

theorem stateAtZero_dead (d : Bool) : stateAtZero d .dead = .dead := rfl

theorem isUnconscious_iff : h.isUnconscious = true ↔ ∃ stable, h.state = .unconscious stable := by
  unfold isUnconscious
  cases h.state with
  | unconscious stable => exact ⟨fun _ => ⟨stable, rfl⟩, fun _ => rfl⟩
  | _ => simp

theorem isDying_iff : h.isDying = true ↔ h.state = .unconscious false ∧ h.current ≤ 0 := by
  rw [isDying, Bool.and_eq_true_iff, beq_iff_eq, decide_eq_true_iff]

/-- What healing can come to, with the hit points it comes to. -/
inductive Healed (h : Health) (healed : Int) : Health → Prop
  /-- The dead stay as they are. -/
  | dead (hd : h.state = .dead) : Healed h healed h
  /-- An unconscious creature wakes, without death saves. -/
  | woke (hu : h.isUnconscious = true) (hpos : 0 < healed) :
      Healed h healed { h with current := healed, state := .conscious, saves := .none }
  /-- Whoever is awake stays so, and without hit points nobody wakes. -/
  | kept (hd : h.state ≠ .dead) (hw : h.isUnconscious = true → healed ≤ 0) :
      Healed h healed { h with current := healed }

theorem healed_heal (h : Health) (amount : Int) :
    Healed h (min (h.current + max amount 0) h.maximum) (h.heal amount).2 := by
  rw [heal]
  by_cases hd : h.state = .dead
  · rw [if_pos hd]
    exact .dead hd
  · rw [if_neg hd]
    dsimp only
    split
    · next hw =>
        obtain ⟨hu, hpos⟩ := Bool.and_eq_true_iff.mp hw
        exact .woke hu (of_decide_eq_true hpos)
    · next hw =>
        refine .kept hd fun hu => Int.not_lt.mp fun hpos => hw ?_
        rw [hu, decide_eq_true hpos]
        rfl

/-- What a death save can come to. -/
inductive Saved (h : Health) (natural : Nat) : DeathSaveOutcome × Health → Prop
  /-- Only the dying make death saves. -/
  | notDying (hd : h.isDying = false) : Saved h natural (.notDying, h)
  /-- A natural 20 wakes the creature. -/
  | revived (hd : h.isDying = true) (hn : 20 ≤ natural) :
      Saved h natural (.revived, { h with current := 1, state := .conscious, saves := .none })
  /-- The third missed save kills it. -/
  | died (hd : h.isDying = true) (hn : natural < 20)
      (hf : 3 ≤ (countSave natural h.saves).failures) :
      Saved h natural (.died, { h with state := .dead, saves := countSave natural h.saves })
  /-- The third save made stabilizes it. -/
  | stabilized (hd : h.isDying = true) (hn : natural < 20)
      (hf : (countSave natural h.saves).failures < 3)
      (hs : 3 ≤ (countSave natural h.saves).successes) :
      Saved h natural
        (.stabilized, { h with state := .unconscious true, saves := countSave natural h.saves })
  /-- Another save is made or missed, and the creature is dying as before. -/
  | counted {answer : DeathSaveOutcome} (hd : h.isDying = true) (hn : natural < 20)
      (hf : (countSave natural h.saves).failures < 3)
      (hs : (countSave natural h.saves).successes < 3)
      (ha : answer = if 10 ≤ natural then .success (countSave natural h.saves).successes
        else .failure (countSave natural h.saves).failures) :
      Saved h natural (answer, { h with saves := countSave natural h.saves })

theorem saved_deathSave (h : Health) (natural : Nat) : Saved h natural (h.deathSave natural) := by
  rw [deathSave]
  cases hd : h.isDying with
  | false =>
      rw [Bool.not_false, if_pos rfl]
      exact .notDying hd
  | true =>
      rw [Bool.not_true, if_neg Bool.false_ne_true]
      split
      · exact .revived hd ‹_›
      · next hn =>
          have hn := Nat.lt_of_not_le hn
          dsimp only
          split
          · exact .died hd hn ‹_›
          · next hf =>
              have hf := Nat.lt_of_not_le hf
              split
              · exact .stabilized hd hn hf ‹_›
              · next hs =>
                  have hs := Nat.lt_of_not_le hs
                  split
                  · exact .counted hd hn hf hs (if_pos ‹_›).symm
                  · exact .counted hd hn hf hs (if_neg ‹_›).symm

/-! ### What the operations keep -/

theorem Healed.maximum {healed : Int} (hr : Healed h healed h') : h'.maximum = h.maximum := by
  cases hr <;> rfl

theorem Saved.maximum (hr : Saved h natural r) : r.2.maximum = h.maximum := by
  cases hr <;> rfl

@[simp] theorem maximum_heal (h : Health) (amount : Int) :
    (h.heal amount).2.maximum = h.maximum := (healed_heal h amount).maximum

@[simp] theorem maximum_stabilize (h : Health) : h.stabilize.2.maximum = h.maximum := by
  rw [stabilize]
  split <;> rfl

@[simp] theorem maximum_deathSave (h : Health) (natural : Nat) :
    (h.deathSave natural).2.maximum = h.maximum := (saved_deathSave h natural).maximum

theorem sound_full (maximum : Int) : (full maximum).Sound where
  maximum_pos := Int.le_max_right _ _
  current_nonneg := Int.le_trans Int.one_nonneg (Int.le_max_right _ _)
  current_le := Int.le_refl _
  down_iff := by
    have hpos : 1 ≤ max maximum 1 := Int.le_max_right _ _
    simp only [full, ne_eq, not_true_eq_false, iff_false]
    omega
  successes_le := Nat.zero_le _
  failures_le := Nat.zero_le _
  fatal h := nomatch h

theorem Sound.damage (hs : h.Sound) (amount : Int) (d : Bool) : (h.damage amount d).2.Sound := by
  obtain ⟨hmax, hnonneg, hle, hdown, hsucc, hfail, hfatal⟩ := hs
  refine ⟨hmax, Int.le_max_right _ _, ?_, ?_, hsucc, hfail, fun hf => ?_⟩
  · simp only [current_damage, maximum_damage]
    omega
  · simp only [Health.damage]
    split
    · exact ⟨fun _ => stateAtZero_ne_conscious d _, fun _ => ‹_›⟩
    · -- some hit points are left, so there were some before
      have hup : ¬ h.current = 0 := by omega
      rw [hdown, not_not] at hup
      simp only [hup, ne_eq, not_true_eq_false, iff_false]
      assumption
  · have hdead := hfatal hf
    simp only [Health.damage, hdead, stateAtZero_dead, ite_self]

theorem Healed.sound {healed : Int} (hr : Healed h healed h') (hs : h.Sound)
    (hlow : h.current ≤ healed) (hhigh : healed ≤ h.maximum) : h'.Sound := by
  have hkept := hs
  obtain ⟨hmax, hnonneg, hle, hdown, hsucc, hfail, hfatal⟩ := hs
  cases hr with
  | dead => exact hkept
  | woke hu hpos =>
      have hne : ¬ healed = 0 := by omega
      exact ⟨hmax, Int.le_of_lt hpos, hhigh, ⟨fun h => absurd h hne, fun h => absurd rfl h⟩,
        Nat.zero_le _, Nat.zero_le _, fun hf => nomatch hf⟩
  | kept hd hw =>
      refine ⟨hmax, Int.le_trans hnonneg hlow, hhigh, ⟨fun hzero => ?_, fun hstate => ?_⟩, hsucc,
        hfail, hfatal⟩
      · exact hdown.mp (Int.le_antisymm (hzero ▸ hlow) hnonneg)
      · -- who is neither on its feet nor dead is unconscious, and has not woken
        refine Int.le_antisymm (hw (isUnconscious_iff.mpr ?_)) (Int.le_trans hnonneg hlow)
        cases hs : h.state with
        | conscious => exact absurd hs hstate
        | unconscious stable => exact ⟨stable, rfl⟩
        | dead => exact absurd hs hd

theorem Sound.heal (hs : h.Sound) (amount : Int) : (h.heal amount).2.Sound := by
  have hle := hs.current_le
  exact (healed_heal h amount).sound hs (by omega) (Int.min_le_right _ _)

theorem Sound.stabilize (hs : h.Sound) : h.stabilize.2.Sound := by
  have hkept := hs
  obtain ⟨hmax, hnonneg, hle, hdown, hsucc, hfail, hfatal⟩ := hs
  rw [Health.stabilize]
  split
  · next hstate =>
      refine ⟨hmax, hnonneg, hle, ⟨fun _ => LifeState.noConfusion, fun _ => ?_⟩, hsucc, hfail,
        fun hf => nomatch hstate.symm.trans (hfatal hf)⟩
      exact hdown.mpr (by rw [hstate]; exact LifeState.noConfusion)
  · exact hkept

/-- Counting a save leaves at most three of each kind. -/
theorem countSave_le (natural : Nat) {saves : DeathSaves} (hs : saves.successes ≤ 3)
    (hf : saves.failures ≤ 3) :
    (countSave natural saves).successes ≤ 3 ∧ (countSave natural saves).failures ≤ 3 := by
  unfold countSave
  split
  · exact ⟨hs, Nat.min_le_right _ _⟩
  · split
    · exact ⟨Nat.min_le_right _ _, hf⟩
    · exact ⟨hs, Nat.min_le_right _ _⟩

theorem Saved.sound (hr : Saved h natural r) (hs : h.Sound) : r.2.Sound := by
  have hkept := hs
  obtain ⟨hmax, hnonneg, hle, hdown, hsucc, hfail, hfatal⟩ := hs
  obtain ⟨hsucc', hfail'⟩ := countSave_le natural hsucc hfail
  -- a creature that made a death save and lies still is at 0 hit points as before
  have hlying {s : LifeState} (hd : h.isDying = true) (hs : s ≠ .conscious)
      (hf : (countSave natural h.saves).failures = 3 → s = .dead) :
      Sound { h with state := s, saves := countSave natural h.saves } :=
    have hzero := Int.le_antisymm (isDying_iff.mp hd).2 hnonneg
    ⟨hmax, hnonneg, hle, ⟨fun _ => hs, fun _ => hzero⟩, hsucc', hfail', hf⟩
  cases hr with
  | notDying hd => exact hkept
  | revived hd hn =>
      exact ⟨hmax, Int.one_nonneg, hmax, ⟨(nomatch ·), fun h => absurd rfl h⟩, Nat.zero_le _,
        Nat.zero_le _, fun hf => nomatch hf⟩
  | died hd hn hf => exact hlying hd LifeState.noConfusion fun _ => rfl
  | stabilized hd hn hf hs =>
      exact hlying hd LifeState.noConfusion fun h3 => absurd h3 (Nat.ne_of_lt hf)
  | counted hd hn hf hs ha =>
      have hstate := (isDying_iff.mp hd).1
      exact hlying (s := h.state) hd (by rw [hstate]; exact LifeState.noConfusion) fun h3 =>
        absurd h3 (Nat.ne_of_lt hf)

theorem Sound.deathSave (hs : h.Sound) (natural : Nat) : (h.deathSave natural).2.Sound :=
  (saved_deathSave h natural).sound hs

/-! ### The dead -/

theorem damage_of_dead (hs : h.Sound) (hdead : h.state = .dead) (amount : Int) (d : Bool) :
    (h.damage amount d).2 = h := by
  have hzero : h.current = 0 := hs.down_iff.mpr (by rw [hdead]; exact LifeState.noConfusion)
  have hleft : max (h.current - max amount 0) 0 = h.current := by omega
  simp only [damage, hleft, hdead, stateAtZero_dead, ite_self]
  rw [← hdead]

theorem heal_of_dead (hdead : h.state = .dead) (amount : Int) : (h.heal amount).2 = h := by
  rw [heal, if_pos hdead]

theorem stabilize_of_dead (hdead : h.state = .dead) : h.stabilize.2 = h := by
  rw [stabilize, if_neg (by rw [hdead]; exact LifeState.noConfusion)]

theorem deathSave_of_dead (hdead : h.state = .dead) (natural : Nat) :
    (h.deathSave natural).2 = h := by
  have hd : h.isDying = false := by
    rw [isDying, hdead]
    rfl
  rw [deathSave, hd, Bool.not_false, if_pos rfl]

end Health

/-! ### The ranges of the arithmetic -/

namespace Amount

/-- A difference of two amounts, absent when it leaves the range. -/
def sub? (x y : Int) : Option Int := if Fits (x - y) then some (x - y) else none

theorem sub?_of_fits {x y : Int} (h : Fits (x - y)) : sub? x y = some (x - y) := if_pos h

end Amount

namespace DeathSaves

/-- The greatest number that a count of saves can hold. -/
def greatest : Nat := 255

/-- A count of saves with some more, absent when it leaves the range. -/
def more? (count saves : Nat) : Option Nat :=
  if count + saves ≤ greatest then some (count + saves) else Option.none

theorem more?_of_le {count saves : Nat} (h : count + saves ≤ greatest) :
    more? count saves = some (count + saves) := if_pos h

end DeathSaves

namespace Health

variable {h : Health}

/-- Damage in the range of amounts. -/
def damage? (h : Health) (amount : Int) (diesAtZero : Bool) : Option ((Int × Bool) × Health) := do
  let applied := max amount 0
  let left := max (← Amount.sub? h.current applied) 0
  return ((applied, h.state == .conscious && left == 0),
    { h with
      current := left
      state := if left = 0 then stateAtZero diesAtZero h.state else h.state })

/-- Healing in the range of amounts, where a sum that is too large counts as the greatest. -/
def heal? (h : Health) (amount : Int) : Option ((Int × Bool) × Health) :=
  if h.state = .dead then some ((0, false), h)
  else do
    let healed := min (Amount.add h.current (max amount 0)) h.maximum
    let woke := h.isUnconscious && decide (0 < healed)
    let restored ← Amount.sub? healed h.current
    return ((restored, woke),
      if woke then { h with current := healed, state := .conscious, saves := .none }
      else { h with current := healed })

/-- The saves after a natural roll below 20, in the range of counts of saves. -/
def countSave? (natural : Nat) (saves : DeathSaves) : Option DeathSaves :=
  if natural ≤ 1 then do
    let failures ← DeathSaves.more? saves.failures 2
    return { saves with failures := min failures 3 }
  else if 10 ≤ natural then do
    let successes ← DeathSaves.more? saves.successes 1
    return { saves with successes := min successes 3 }
  else do
    let failures ← DeathSaves.more? saves.failures 1
    return { saves with failures := min failures 3 }

/-- A death save in the range of counts of saves. -/
def deathSave? (h : Health) (natural : Nat) : Option (DeathSaveOutcome × Health) :=
  if !h.isDying then some (.notDying, h)
  else if 20 ≤ natural then
    some (.revived, { h with current := 1, state := .conscious, saves := .none })
  else do
    let saves ← countSave? natural h.saves
    return if 3 ≤ saves.failures then (.died, { h with state := .dead, saves })
      else if 3 ≤ saves.successes then (.stabilized, { h with state := .unconscious true, saves })
      else if 10 ≤ natural then (.success saves.successes, { h with saves })
      else (.failure saves.failures, { h with saves })

theorem damage?_eq (hs : h.Sound) (hm : h.maximum ≤ Amount.greatest) {amount : Int}
    (ha : Amount.Fits amount) (d : Bool) : h.damage? amount d = some (h.damage amount d) := by
  obtain ⟨-, hnonneg, hle, -⟩ := hs
  have hfits : Amount.Fits (h.current - max amount 0) := by
    unfold Amount.Fits Amount.least Amount.greatest at *
    omega
  simp only [damage?, Amount.sub?_of_fits hfits]
  rfl

theorem heal?_eq (hs : h.Sound) (hm : h.maximum ≤ Amount.greatest) {amount : Int}
    (ha : Amount.Fits amount) : h.heal? amount = some (h.heal amount) := by
  obtain ⟨-, hnonneg, hle, -⟩ := hs
  by_cases hdead : h.state = .dead
  · rw [heal?, heal, if_pos hdead, if_pos hdead]
  · -- a sum that is too large is above the maximum, so it does not matter what it counts as
    have hsum : min (Amount.add h.current (max amount 0)) h.maximum =
        min (h.current + max amount 0) h.maximum := by
      unfold Amount.add Amount.clamp Amount.least Amount.greatest at *
      omega
    have hfits : Amount.Fits (min (h.current + max amount 0) h.maximum - h.current) := by
      unfold Amount.Fits Amount.least Amount.greatest at *
      omega
    rw [heal?, heal, if_neg hdead, if_neg hdead, hsum]
    simp only [Amount.sub?_of_fits hfits]
    rfl

theorem countSave?_eq (natural : Nat) {saves : DeathSaves} (hs : saves.successes ≤ 3)
    (hf : saves.failures ≤ 3) : countSave? natural saves = some (countSave natural saves) := by
  have hmore {count some : Nat} (hc : count ≤ 3) (hs : some ≤ 2) :
      count + some ≤ DeathSaves.greatest :=
    Nat.le_trans (Nat.add_le_add hc hs) (by decide)
  simp only [countSave?, DeathSaves.more?_of_le (hmore hf (Nat.le_refl 2)),
    DeathSaves.more?_of_le (hmore hs (Nat.le_succ 1)),
    DeathSaves.more?_of_le (hmore hf (Nat.le_succ 1)), countSave]
  split
  · rfl
  · split <;> rfl

theorem deathSave?_eq (hs : h.Sound) (natural : Nat) :
    h.deathSave? natural = some (h.deathSave natural) := by
  rw [deathSave?, deathSave, countSave?_eq natural hs.successes_le hs.failures_le]
  split
  · rfl
  · split
    · rfl
    · rfl

end Health

end Tabletop
