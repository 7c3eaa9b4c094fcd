import Tabletop.Proofs.Creature.Event

/-!
# Creature — life and death

What holds of the life of a combatant at every point, whatever has happened to it since it was made
from a stat block (`life_sound`).  Besides being sound, its health goes by who controls it
(`Health.SoundFor`): without a player it dies where others fall unconscious, and with one it dies of
missed death saves alone.  Once it is dead nothing changes its health any more.
-/

namespace Tabletop

namespace Health

variable {h h' : Health} {player : Bool}

/-- Sound health of a creature, with or without a player. -/
structure SoundFor (player : Bool) (h : Health) : Prop extends Sound h where
  /-- Without a player a creature does not lie unconscious, and makes no death saves. -/
  unplayed : player = false → h.isUnconscious = false ∧ h.saves = .none
  /-- With a player it dies of missed death saves alone. -/
  played : player = true → h.state = .dead → h.saves.failures = 3

theorem soundFor_full (player : Bool) (maximum : Int) : SoundFor player (full maximum) where
  toSound := sound_full maximum
  unplayed _ := ⟨rfl, rfl⟩
  played _ hd := nomatch hd

theorem isUnconscious_stateAtZero (h : Health) (saves : DeathSaves) (s : LifeState) :
    isUnconscious { h with state := stateAtZero true s, saves } = false := by
  cases s <;> rfl

theorem dead_of_stateAtZero {s : LifeState} (hs : stateAtZero false s = .dead) : s = .dead := by
  cases s with
  | dead => rfl
  | _ => cases hs

theorem SoundFor.damage (hs : h.SoundFor player) (amount : Int) :
    (h.damage amount !player).2.SoundFor player where
  toSound := hs.toSound.damage amount _
  unplayed hp := by
    obtain ⟨hup, hsaves⟩ := hs.unplayed hp
    refine ⟨?_, hsaves⟩
    simp only [Health.damage, hp, Bool.not_false]
    split
    · exact isUnconscious_stateAtZero h h.saves h.state
    · exact hup
  played hp hd := by
    simp only [Health.damage, hp, Bool.not_true] at hd
    split at hd
    · exact hs.played hp (dead_of_stateAtZero hd)
    · exact hs.played hp hd

theorem Healed.soundFor {healed : Int} (hr : Healed h healed h') (hs : h.SoundFor player)
    (hsound : h'.Sound) : h'.SoundFor player := by
  refine ⟨hsound, fun hp => ?_, fun hp hd => ?_⟩
  · cases hr with
    | dead => exact hs.unplayed hp
    | woke => exact ⟨rfl, rfl⟩
    | kept => exact hs.unplayed hp
  · cases hr with
    | dead => exact hs.played hp hd
    | woke => cases hd
    | kept => exact hs.played hp hd

theorem SoundFor.heal (hs : h.SoundFor player) (amount : Int) :
    (h.heal amount).2.SoundFor player :=
  (healed_heal h amount).soundFor hs (hs.toSound.heal amount)

theorem SoundFor.stabilize (hs : h.SoundFor player) : h.stabilize.2.SoundFor player := by
  have hsound := hs.toSound.stabilize
  rw [Health.stabilize] at hsound ⊢
  split
  · next hstate =>
      rw [if_pos hstate] at hsound
      refine ⟨hsound, fun hp => ?_, fun _ => LifeState.noConfusion⟩
      have hup := (hs.unplayed hp).1
      rw [isUnconscious, hstate] at hup
      cases hup
  · exact hs

/-- Who makes death saves has a player. -/
theorem SoundFor.played_of_dying (hs : h.SoundFor player) (hd : h.isDying = true) :
    player = true := by
  rw [← Bool.not_eq_false]
  intro hp
  have hup := (hs.unplayed hp).1
  rw [isUnconscious, (isDying_iff.mp hd).1] at hup
  cases hup

theorem Saved.soundFor {natural : Nat} {r : DeathSaveOutcome × Health} (hr : Saved h natural r)
    (hs : h.SoundFor player) : r.2.SoundFor player := by
  refine ⟨hr.sound hs.toSound, fun hp => ?_, fun hp hdead => ?_⟩
  · -- without a player the creature is not dying, so nothing changes
    cases hr with
    | notDying => exact hs.unplayed hp
    | revived hd | died hd | stabilized hd | counted hd =>
        exact nomatch hp.symm.trans (hs.played_of_dying hd)
  · cases hr with
    | notDying => exact hs.played hp hdead
    | died hd hn hf =>
        exact Nat.le_antisymm (countSave_le natural hs.successes_le hs.failures_le).2 hf
    | counted hd => exact nomatch (isDying_iff.mp hd).1.symm.trans hdead
    | revived | stabilized => cases hdead

theorem SoundFor.deathSave (hs : h.SoundFor player) (natural : Nat) :
    (h.deathSave natural).2.SoundFor player := (saved_deathSave h natural).soundFor hs

end Health

namespace Combatant

variable {c : Combatant}

theorem soundFor_undergo (h : c.health.SoundFor c.isPlayer) (event : Event) :
    (c.undergo event).health.SoundFor c.isPlayer := by
  cases event with
  | damage amount d => exact h.damage amount
  | heal amount => exact h.heal amount
  | stabilize => exact h.stabilize
  | deathSave natural => exact h.deathSave natural
  | _ =>
      rw [health_undergo rfl]
      exact h

/-- The health of everybody who has lived is sound. -/
theorem Lived.soundFor (h : c.Lived) : c.health.SoundFor c.isPlayer := by
  refine h.induct (motive := fun c => c.health.SoundFor c.isPlayer) (fun id s => ?_)
    fun c event hc => ?_
  · exact Health.soundFor_full _ _
  · rw [isPlayer_undergo]
    exact soundFor_undergo hc event

/-- Hit points do not rise by an event that gives none back. -/
theorem current_undergo_le (h : c.Lived) {event : Event} (he : event.restores = false) :
    (c.undergo event).health.current ≤ c.health.current := by
  cases event with
  | heal | deathSave => cases he
  | damage amount d =>
      have hpos := h.soundFor.current_nonneg
      have hleft : (c.undergo (.damage amount d)).health.current =
          max (c.health.current - max amount 0) 0 := rfl
      omega
  | stabilize =>
      have hsame : (c.undergo .stabilize).health = c.health.stabilize.2 := rfl
      rw [hsame, Health.stabilize]
      split <;> exact Int.le_refl _
  | _ => exact Int.le_of_eq (congrArg Health.current (health_undergo rfl c))

theorem Lives.current_le {P : CombatantId → Event → Prop} {c' : Combatant} (h : Lives P c c')
    (hl : c.Lived) (hp : ∀ event, P c.id event → event.restores = false) :
    c'.health.current ≤ c.health.current := by
  obtain ⟨events, hevents, rfl⟩ := h
  have hno : ∀ event ∈ events, event.restores = false := fun event hm => hp event (hevents event hm)
  clear hevents hp
  induction events generalizing c with
  | nil => exact Int.le_refl _
  | cons event rest ih =>
      have hlived : (c.undergo event).Lived :=
        hl.lives (lives_undergo (P := fun _ _ => True) event trivial)
      have hrest := ih hlived fun event hm => hno event (List.mem_cons_of_mem _ hm)
      exact Int.le_trans hrest (current_undergo_le hl (hno event List.mem_cons_self))

theorem isDead_iff : c.isDead = true ↔ c.health.state = .dead := beq_iff_eq

/-- Nothing changes the health of the dead. -/
theorem health_undergo_of_dead (hs : c.health.Sound) (hd : c.health.state = .dead)
    (event : Event) : (c.undergo event).health = c.health := by
  cases event with
  | damage amount d => exact Health.damage_of_dead hs hd amount _
  | heal amount => exact Health.heal_of_dead hd amount
  | stabilize => exact Health.stabilize_of_dead hd
  | deathSave natural => exact Health.deathSave_of_dead hd natural
  | _ => exact health_undergo rfl c

theorem health_undergoAll_of_dead (hs : c.health.Sound) (hd : c.health.state = .dead)
    (events : List Event) : (c.undergoAll events).health = c.health := by
  induction events generalizing c with
  | nil => rfl
  | cons event rest ih =>
      have hkept := health_undergo_of_dead hs hd event
      rw [undergoAll_cons, ih (hkept.symm ▸ hs) (hkept.symm ▸ hd), hkept]

/-- **Life and death keep their rules.**  Whatever has happened to a combatant since it was made
from a stat block, its maximum is what it was, one at least; its hit points lie between 0 and the
maximum, and are 0 exactly when it is not on its feet; it has made and missed three death saves at
most.  No result of the arithmetic leaves its range.  Without a player it does not lie unconscious
and makes no death saves; with one it is dead exactly when it has missed three.  Once it is dead,
nothing changes its health any more. -/
theorem life_sound (id : CombatantId) (s : StatBlock) (hs : Amount.Fits s.maxHp)
    (events : List Event) :
    let c := (ofStatBlock id s).undergoAll events
    let h := c.health
    (h.maximum = max s.maxHp 1 ∧ 1 ≤ h.maximum) ∧
      (0 ≤ h.current ∧ h.current ≤ h.maximum) ∧
      (h.current = 0 ↔ h.state ≠ .conscious) ∧
      (h.saves.successes ≤ 3 ∧ h.saves.failures ≤ 3) ∧
      (∀ amount, Amount.Fits amount →
        (∀ diesAtZero, h.damage? amount diesAtZero = some (h.damage amount diesAtZero)) ∧
          h.heal? amount = some (h.heal amount)) ∧
      (∀ natural, h.deathSave? natural = some (h.deathSave natural)) ∧
      (s.isPlayer = false → c.isUnconscious = false ∧ h.saves = .none) ∧
      (s.isPlayer = true → (c.isDead = true ↔ h.saves.failures = 3)) ∧
      (c.isDead = true → ∀ more, (c.undergoAll more).health = h) := by
  intro c h
  have hlater := (ofStatBlock id s).later_undergoAll events
  have hsound : h.SoundFor s.isPlayer := by
    have hlived : c.Lived := ⟨s, events, by rw [hlater.id]; rfl⟩
    rw [show s.isPlayer = c.isPlayer from hlater.isPlayer.symm]
    exact hlived.soundFor
  have hmax : h.maximum = max s.maxHp 1 := hlater.maximum
  have hgreatest : h.maximum ≤ Amount.greatest := by
    rw [hmax]
    exact Int.max_le.mpr ⟨hs.2, by decide⟩
  refine ⟨⟨hmax, hsound.maximum_pos⟩, ⟨hsound.current_nonneg, hsound.current_le⟩, hsound.down_iff,
    ⟨hsound.successes_le, hsound.failures_le⟩, fun amount ha => ⟨fun d => ?_, ?_⟩,
    fun natural => ?_, hsound.unplayed, fun hp => ?_, fun hd more => ?_⟩
  · exact Health.damage?_eq hsound.toSound hgreatest ha d
  · exact Health.heal?_eq hsound.toSound hgreatest ha
  · exact Health.deathSave?_eq hsound.toSound natural
  · rw [isDead_iff]
    exact ⟨hsound.played hp, hsound.fatal⟩
  · exact health_undergoAll_of_dead hsound.toSound (isDead_iff.mp hd) more

/-- A player who falls and misses three saves is dead, and healing does not help. -/
theorem life_sound_fallen :
    let s := { StatBlock.basic "Ann" 10 10 with isPlayer := true }
    let c := (ofStatBlock ⟨1⟩ s).undergoAll [.damage 12 .fire, .deathSave 1, .deathSave 9]
    Amount.Fits s.maxHp ∧ Amount.Fits 5 ∧ c.isDead = true ∧ c.health.saves.failures = 3 ∧
      c.health.heal? 5 = some (c.health.heal 5) ∧
      (c.undergoAll [.heal 5]).health = c.health := by
  intro s c
  have hfits : Amount.Fits s.maxHp := by decide
  obtain ⟨-, -, -, -, harith, -, -, hplayed, hdead⟩ := life_sound ⟨1⟩ s hfits
    [.damage 12 .fire, .deathSave 1, .deathSave 9]
  exact ⟨hfits, by decide, rfl, (hplayed rfl).mp rfl, (harith 5 (by decide)).2, hdead rfl [.heal 5]⟩

end Combatant

end Tabletop
