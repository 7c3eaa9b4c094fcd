import Tabletop.Proofs.Creature.Health

/-!
# Creature — death saves over a life

What a death save answers, whatever has happened to the creature before.  A creature lives through
`Vital` events, and `Health.Lived` holds of the health that this can come to.  The table of death
saves (`DeathSaveOutcome.Follows`) says what a natural roll has to come to: 20 wakes the creature,
from 10 on a save is made, and below that one is missed.  Every death save of a dying creature
follows the table, with one exception (`follows_deathSave_iff`): the three saves that made a
creature stable are still counted when it is hurt again, and then a save that is missed makes it
stable once more (`not_follows_relapse`).
-/

namespace Tabletop

/-- Something that happens to the health of a creature. -/
inductive Vital where
  /-- It takes damage, and dies of it at 0 hit points or does not. -/
  | damage (amount : Int) (diesAtZero : Bool)
  /-- It is healed. -/
  | heal (amount : Int)
  /-- It is made stable. -/
  | stabilize
  /-- It makes a death save with a natural roll. -/
  | deathSave (natural : Nat)

namespace DeathSaveOutcome

/-- A save was made. -/
def isMade : DeathSaveOutcome → Bool
  | .success _ | .stabilized => true
  | _ => false

/-- A save was missed. -/
def isMissed : DeathSaveOutcome → Bool
  | .failure _ | .died => true
  | _ => false

/-- The answer is one that the table of death saves has for a natural roll. -/
structure Follows (natural : Nat) (answer : DeathSaveOutcome) : Prop where
  revived : answer = .revived ↔ 20 ≤ natural
  made : answer.isMade = true → 10 ≤ natural ∧ natural ≤ 19
  missed : answer.isMissed = true ↔ natural ≤ 9

end DeathSaveOutcome

namespace Health

variable {h : Health} {natural : Nat}

/-- The health after an event. -/
def undergo (h : Health) : Vital → Health
  | .damage amount diesAtZero => (h.damage amount diesAtZero).2
  | .heal amount => (h.heal amount).2
  | .stabilize => h.stabilize.2
  | .deathSave natural => (h.deathSave natural).2

/-- The health after some events. -/
def undergoAll (h : Health) (vitals : List Vital) : Health := vitals.foldl undergo h

/-- Health that full health can come to. -/
def Lived (h : Health) : Prop := ∃ maximum vitals, (full maximum).undergoAll vitals = h

theorem Sound.undergo (hs : h.Sound) (vital : Vital) : (h.undergo vital).Sound := by
  cases vital with
  | damage amount diesAtZero => exact hs.damage amount diesAtZero
  | heal amount => exact hs.heal amount
  | stabilize => exact hs.stabilize
  | deathSave natural => exact hs.deathSave natural

theorem Sound.undergoAll (hs : h.Sound) (vitals : List Vital) : (h.undergoAll vitals).Sound := by
  induction vitals generalizing h with
  | nil => exact hs
  | cons vital rest ih => exact ih (hs.undergo vital)

theorem Lived.sound (hl : h.Lived) : h.Sound := by
  obtain ⟨maximum, vitals, rfl⟩ := hl
  exact (sound_full maximum).undergoAll vitals

/-! ### Counting a save -/

/-- From 10 on a save is made, and no more are missed. -/
theorem countSave_of_le (hn : 10 ≤ natural) (saves : DeathSaves) :
    countSave natural saves = { saves with successes := min (saves.successes + 1) 3 } := by
  rw [countSave, if_neg (by omega), if_pos hn]

/-- Below 10 a save is missed, or two, and no more are made. -/
theorem countSave_of_lt (hn : natural ≤ 9) (saves : DeathSaves) :
    countSave natural saves =
      { saves with failures := min (saves.failures + if natural ≤ 1 then 2 else 1) 3 } := by
  unfold countSave
  split
  · rfl
  · rw [if_neg (by omega)]

/-- A dying creature has not missed three saves. -/
theorem Sound.failures_lt_of_dying (hs : h.Sound) (hd : h.isDying = true) :
    h.saves.failures < 3 := by
  refine Nat.lt_of_le_of_ne hs.failures_le fun h3 => ?_
  exact nomatch (isDying_iff.mp hd).1.symm.trans (hs.fatal h3)

/-! ### The table -/

/-- The creature is dying although it has made three saves: it was stable, and was hurt again. -/
def Relapsed (h : Health) : Prop := h.isDying = true ∧ h.saves.successes = 3

/-- A roll of 10 or more follows the table. -/
theorem Saved.follows_of_le {r : DeathSaveOutcome × Health} (hr : Saved h natural r)
    (hs : h.Sound) (hd : h.isDying = true) (hn : 10 ≤ natural) : r.1.Follows natural := by
  -- no save is missed by such a roll, so nobody dies of it
  have hf : (countSave natural h.saves).failures < 3 := by
    rw [countSave_of_le hn]
    exact hs.failures_lt_of_dying hd
  cases hr with
  | notDying hno => exact nomatch hd.symm.trans hno
  | revived _ h20 => exact ⟨⟨fun _ => h20, fun _ => rfl⟩, nofun, nofun, fun h9 => by omega⟩
  | died _ _ h3 => exact absurd h3 (Nat.not_le.mpr hf)
  | stabilized _ h20 =>
      exact ⟨⟨nofun, fun h => by omega⟩, fun _ => ⟨hn, by omega⟩, nofun, fun h9 => by omega⟩
  | counted _ h20 _ _ ha =>
      rw [ha, if_pos hn]
      exact ⟨⟨nofun, fun h => by omega⟩, fun _ => ⟨hn, by omega⟩, nofun, fun h9 => by omega⟩

/-- A roll below 10 is a missed save, unless it does not kill a creature that has made three. -/
theorem Saved.follows_iff_of_lt {r : DeathSaveOutcome × Health} (hr : Saved h natural r)
    (hd : h.isDying = true) (hn : natural ≤ 9) :
    r.1.Follows natural ↔
      ¬ (3 ≤ h.saves.successes ∧ (countSave natural h.saves).failures < 3) := by
  have hmade : (countSave natural h.saves).successes = h.saves.successes := by
    rw [countSave_of_lt hn]
  cases hr with
  | notDying hno => exact nomatch hd.symm.trans hno
  | revived _ h20 => omega
  | died _ _ h3 =>
      refine iff_of_true ⟨⟨nofun, fun h => by omega⟩, nofun, fun _ => hn, fun _ => rfl⟩ ?_
      exact fun h => absurd h.2 (Nat.not_lt.mpr h3)
  | stabilized _ _ hf h3 =>
      -- this is the exception: three saves count as made, and none by this roll
      rw [hmade] at h3
      exact iff_of_false (fun h => nomatch h.missed.mpr hn) (not_not.mpr ⟨h3, hf⟩)
  | counted _ _ _ h3 ha =>
      rw [ha, if_neg (by omega)]
      rw [hmade] at h3
      refine iff_of_true ⟨⟨nofun, fun h => by omega⟩, nofun, fun _ => hn, fun _ => rfl⟩ ?_
      exact fun h => absurd h.1 (Nat.not_le.mpr h3)

/-- **When death saves follow the table.**  Whatever has happened to a creature that is dying, its
death save follows the table, except for one case: the creature has made three saves before, and
misses one that does not kill it. -/
theorem follows_deathSave_iff (hl : h.Lived) (hd : h.isDying = true) (natural : Nat) :
    (h.deathSave natural).1.Follows natural ↔
      ¬ (h.Relapsed ∧ natural ≤ 9 ∧
        h.saves.failures + (if natural ≤ 1 then 2 else 1) < 3) := by
  have hs := hl.sound
  have hr := saved_deathSave h natural
  by_cases hn : natural ≤ 9
  · rw [hr.follows_iff_of_lt hd hn, countSave_of_lt hn]
    have hle := hs.successes_le
    simp only [Relapsed, hd, hn, true_and]
    omega
  · have h10 : 10 ≤ natural := by omega
    exact iff_of_true (hr.follows_of_le hs hd h10) fun h => hn h.2.1

/-- A creature that has just fallen makes its first save with a 12. -/
theorem follows_deathSave_fallen :
    let h := (full 10).undergoAll [.damage 10 false]
    h.Lived ∧ h.isDying = true ∧ (h.deathSave 12).1.Follows 12 :=
  ⟨⟨10, _, rfl⟩, rfl,
    (follows_deathSave_iff ⟨10, [.damage 10 false], rfl⟩ rfl 12).mpr fun h => absurd h.2.1 (by decide)⟩

/-- Three saves make a creature stable; it is hurt, misses a save with a 5, and is stable again. -/
theorem not_follows_relapse :
    let h := (full 10).undergoAll
      [.damage 10 false, .deathSave 10, .deathSave 10, .deathSave 10, .damage 1 false]
    h.isDying = true ∧ (h.deathSave 5).1 = .stabilized ∧ ¬ (h.deathSave 5).1.Follows 5 :=
  ⟨rfl, rfl, fun h => nomatch h.missed.mpr (by decide)⟩

end Health

end Tabletop
