import Tabletop.Proofs.Creature.Life

/-!
# Creature — damage

What damage can come to in sound health is said once (`Health.Hurt`), as for healing and death
saves.  Damage of nothing, of 0 or less, leaves a combatant as it is at every point of its life, with
one exception (`harmless_iff`): the state at 0 hit points is found anew after all damage, whatever
its amount, so that who lies stable is dying again (`harmed_by_nothing`).
-/

namespace Tabletop

namespace Health

variable {h : Health} {applied : Int} {diesAtZero player : Bool} {r : (Int × Bool) × Health}

/-- What damage can come to. -/
inductive Hurt (h : Health) (applied : Int) (diesAtZero : Bool) : (Int × Bool) × Health → Prop
  /-- The dead stay as they are. -/
  | dead (hd : h.state = .dead) : Hurt h applied diesAtZero ((applied, false), h)
  /-- Hit points are left, and the creature stays on its feet. -/
  | stood (hup : h.state = .conscious) (hlt : applied < h.current) :
      Hurt h applied diesAtZero ((applied, false), { h with current := h.current - applied })
  /-- No hit points are left, and the creature goes down. -/
  | fell (hup : h.state = .conscious) (hle : h.current ≤ applied) :
      Hurt h applied diesAtZero ((applied, true),
        { h with current := 0, state := stateAtZero diesAtZero h.state })
  /-- Who lies already goes down anew. -/
  | lay (hu : h.isUnconscious = true) :
      Hurt h applied diesAtZero ((applied, false),
        { h with state := stateAtZero diesAtZero h.state })

theorem Sound.hurt_damage (hs : h.Sound) (amount : Int) (d : Bool) :
    Hurt h (max amount 0) d (h.damage amount d) := by
  have hnone : 0 ≤ max amount 0 := Int.le_max_right _ _
  rw [Health.damage]
  by_cases hup : h.state = .conscious
  · rw [hup, beq_self_eq_true, Bool.true_and, ← hup]
    rcases Int.lt_or_le (max amount 0) h.current with hlt | hle
    · have hleft : max (h.current - max amount 0) 0 = h.current - max amount 0 := by omega
      have hpos : h.current - max amount 0 ≠ 0 := by omega
      rw [hleft, if_neg hpos, beq_false_of_ne hpos]
      exact .stood hup hlt
    · have hleft : max (h.current - max amount 0) 0 = 0 := by omega
      rw [hleft, if_pos rfl]
      exact .fell hup hle
  · have hzero : h.current = 0 := hs.down_iff.mpr hup
    have hleft : max (h.current - max amount 0) 0 = h.current := by omega
    rw [hleft, if_pos hzero, beq_false_of_ne hup, Bool.false_and]
    cases hstate : h.state with
    | conscious => exact absurd hstate hup
    | unconscious stable =>
        rw [← hstate]
        exact .lay (isUnconscious_iff.mpr ⟨stable, hstate⟩)
    | dead =>
        rw [stateAtZero_dead, ← hstate]
        exact .dead hstate

/-- Who lies unconscious has a player, and does not die of damage. -/
theorem SoundFor.stateAtZero_of_unconscious (hs : h.SoundFor player)
    (hu : h.isUnconscious = true) : stateAtZero (!player) h.state = .unconscious false := by
  have hplayer : player = true := by
    rw [← Bool.not_eq_false]
    exact fun hp => nomatch hu.symm.trans (hs.unplayed hp).1
  obtain ⟨stable, hstate⟩ := isUnconscious_iff.mp hu
  rw [hplayer, hstate]
  rfl

/-! ### Damage of nothing -/

/-- What damage of nothing comes to: who lies stable is dying again. -/
def unsettled (h : Health) : Health :=
  { h with state := if h.state = .unconscious true then .unconscious false else h.state }

theorem unsettled_of_stable (hstable : h.state = .unconscious true) :
    h.unsettled = { h with state := .unconscious false } := by
  rw [unsettled, if_pos hstable]

theorem unsettled_of_ne (hstable : h.state ≠ .unconscious true) : h.unsettled = h := by
  rw [unsettled, if_neg hstable]

theorem unsettled_eq_iff : h.unsettled = h ↔ h.state ≠ .unconscious true := by
  refine ⟨fun hsame hstable => ?_, unsettled_of_ne⟩
  have hdying := congrArg Health.state hsame
  rw [unsettled_of_stable hstable, hstable] at hdying
  cases hdying

theorem isUnconscious_unsettled (h : Health) : h.unsettled.isUnconscious = h.isUnconscious := by
  by_cases hstable : h.state = .unconscious true
  · rw [unsettled_of_stable hstable, isUnconscious, isUnconscious, hstable]
  · rw [unsettled_of_ne hstable]

theorem isDead_unsettled (h : Health) : (h.unsettled.state == .dead) = (h.state == .dead) := by
  by_cases hstable : h.state = .unconscious true
  · rw [unsettled_of_stable hstable, hstable]
    rfl
  · rw [unsettled_of_ne hstable]

theorem Hurt.unsettled (hr : Hurt h 0 (!player) r) (hs : h.SoundFor player) :
    r = ((0, false), h.unsettled) := by
  cases hr with
  | dead hd => rw [unsettled_of_ne (by rw [hd]; exact LifeState.noConfusion)]
  | stood hup hlt =>
      rw [unsettled_of_ne (by rw [hup]; exact LifeState.noConfusion), Int.sub_zero]
  | fell hup hle =>
      -- who is on its feet has hit points
      have hzero : h.current = 0 := Int.le_antisymm hle hs.current_nonneg
      exact absurd hup (hs.down_iff.mp hzero)
  | lay hu =>
      rw [hs.stateAtZero_of_unconscious hu]
      obtain ⟨stable, hstate⟩ := isUnconscious_iff.mp hu
      cases stable with
      | true => rw [unsettled_of_stable hstate]
      | false =>
          rw [unsettled_of_ne (by rw [hstate]; exact nofun), ← hstate]

end Health

namespace Combatant

variable {c : Combatant} {amount : Int}

theorem takeDamage_of_le (hl : c.Lived) (ha : amount ≤ 0) (damageType : DamageType) :
    c.takeDamage amount damageType =
      (⟨0, damageType, c.health.current, c.isUnconscious, c.isDead, false⟩,
        { c with health := c.health.unsettled }) := by
  have hdone : c.health.damage amount (!c.isPlayer) = ((0, false), c.health.unsettled) := by
    have hr := hl.soundFor.hurt_damage amount !c.isPlayer
    rw [Int.max_eq_right ha] at hr
    exact hr.unsettled hl.soundFor
  rw [takeDamage, hdone, isUnconscious, isDead, ← c.health.isUnconscious_unsettled,
    ← c.health.isDead_unsettled]
  rfl

/-- **When damage of nothing does nothing.**  Damage of 0 or less is no damage taken and takes
nobody from its feet, at any point of a combatant's life.  The combatant stays exactly as it was if
and only if it was not lying stable.  If it was, it is dying again, and nothing else about it has
changed. -/
theorem harmless_iff (id : CombatantId) (s : StatBlock) (events : List Event) (amount : Int)
    (ha : amount ≤ 0) (damageType : DamageType) :
    let c := (ofStatBlock id s).undergoAll events
    let hurt := c.takeDamage amount damageType
    hurt.1 = ⟨0, damageType, c.health.current, c.isUnconscious, c.isDead, false⟩ ∧
      (hurt.2 = c ↔ c.health.state ≠ .unconscious true) ∧
      (c.health.state = .unconscious true →
        hurt.2 = { c with health := { c.health with state := .unconscious false } } ∧
          hurt.2.health.isDying = true) := by
  intro c hurt
  have hlived : c.Lived := ⟨s, events, by rw [id_undergoAll]; rfl⟩
  have hdone : hurt = _ := takeDamage_of_le hlived ha damageType
  rw [hdone]
  refine ⟨rfl, ?_, fun hstable => ?_⟩
  · rw [← Health.unsettled_eq_iff]
    exact ⟨congrArg Combatant.health, fun hsame => by rw [hsame]⟩
  · have hzero : c.health.current = 0 :=
      hlived.soundFor.down_iff.mpr (by rw [hstable]; exact LifeState.noConfusion)
    rw [Health.unsettled_of_stable hstable]
    exact ⟨rfl, Health.isDying_iff.mpr ⟨rfl, Int.le_of_eq hzero⟩⟩

/-- A player is dying and has made a save: a blow that does no harm changes nothing about it. -/
theorem harmless_iff_dying :
    let c := (ofStatBlock ⟨1⟩ { StatBlock.basic "Ann" 10 10 with isPlayer := true }).undergoAll
      [.damage 12 .fire, .deathSave 15]
    (-4 : Int) ≤ 0 ∧ c.health.state ≠ .unconscious true ∧ (c.takeDamage (-4) .cold).2 = c ∧
      (c.takeDamage (-4) .cold).1 = ⟨0, .cold, 0, true, false, false⟩ := by
  intro c
  have hstate : c.health.state ≠ .unconscious true := by decide
  obtain ⟨hanswer, hsame, -⟩ := harmless_iff ⟨1⟩ { StatBlock.basic "Ann" 10 10 with isPlayer := true }
    [.damage 12 .fire, .deathSave 15] (-4) (by decide) .cold
  exact ⟨by decide, hstate, hsame.mpr hstate, hanswer⟩

/-- A player who lies stable makes no death saves, but damage of 0 has it make them again. -/
theorem harmed_by_nothing :
    let c := (ofStatBlock ⟨1⟩ { StatBlock.basic "Ann" 10 10 with isPlayer := true }).undergoAll
      [.damage 10 .fire, .stabilize]
    let hurt := c.takeDamage 0 .fire
    hurt.1.taken = 0 ∧ hurt.2 ≠ c ∧ c.health.state = .unconscious true ∧
      hurt.2.health.state = .unconscious false ∧ (c.deathSave 5).1 = .notDying ∧
      (hurt.2.deathSave 5).1 = .failure 1 := by
  refine ⟨rfl, fun hsame => ?_, rfl, rfl, rfl, rfl⟩
  cases congrArg (fun c : Combatant => c.health.state) hsame

end Combatant

end Tabletop
