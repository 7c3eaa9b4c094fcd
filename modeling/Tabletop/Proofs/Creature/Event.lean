import Tabletop.Proofs.Creature.Health
import Tabletop.Creature.Combatant

/-!
# Creature — what happens to a combatant

Everything that can happen to one combatant, as one type (`Event`), so that what becomes of it is
its answer to a list of events (`Combatant.undergoAll`).  Whatever happens, it keeps its identity
and its stat block (`Combatant.later_undergo`).  `Combatant.Lives` relates a combatant to what
becomes of it by events of certain kinds, and `Combatant.Lived` holds of those that were made from a
stat block: what every event keeps holds of all of them.
-/

namespace Tabletop

/-- Something that happens to a combatant. -/
inductive Event where
  /-- It takes damage. -/
  | damage (amount : Int) (damageType : DamageType)
  /-- It is healed. -/
  | heal (amount : Int)
  /-- It is made stable. -/
  | stabilize
  /-- It makes a death save with a natural roll. -/
  | deathSave (natural : Nat)
  /-- A condition is applied. -/
  | addCondition (condition : Condition)
  /-- The condition of a name is taken away. -/
  | removeCondition (name : String)
  /-- Its conditions grow one round older. -/
  | ageConditions
  /-- It spends what a kind of action takes, if it has it. -/
  | spend (kind : ActionKind)
  /-- It moves some feet, if it has them. -/
  | move (feet : Nat)
  /-- It gets its turn back. -/
  | resetTurn
  /-- It has rolled initiative. -/
  | initiative (total : Int)

namespace Event

/-- The event is about hit points, life state or death saves. -/
def isVital : Event → Bool
  | .damage .. | .heal _ | .stabilize | .deathSave _ => true
  | _ => false

/-- The event may give hit points back. -/
def restores : Event → Bool
  | .heal _ | .deathSave _ => true
  | _ => false

end Event

namespace Combatant

variable {c c' : Combatant} {P : CombatantId → Event → Prop}

/-- What was asked of a combatant, which stays as it is where it is refused. -/
def attempt (c : Combatant) : Except Exhausted Combatant → Combatant
  | .ok c' => c'
  | .error _ => c

/-- The combatant after an event. -/
def undergo (c : Combatant) : Event → Combatant
  | .damage amount damageType => (c.takeDamage amount damageType).2
  | .heal amount => (c.heal amount).2
  | .stabilize => c.stabilize.2
  | .deathSave natural => (c.deathSave natural).2
  | .addCondition condition => (c.addCondition condition).2
  | .removeCondition name => (c.removeCondition name).2
  | .ageConditions => c.ageConditions.2
  | .spend kind => c.attempt (c.spend kind)
  | .move feet => c.attempt (c.move feet)
  | .resetTurn => c.resetTurn
  | .initiative total => { c with initiative := some total }

/-- The combatant after some events. -/
def undergoAll (c : Combatant) (events : List Event) : Combatant := events.foldl undergo c

@[simp] theorem undergoAll_nil (c : Combatant) : c.undergoAll [] = c := rfl

@[simp] theorem undergoAll_cons (c : Combatant) (event : Event) (rest : List Event) :
    c.undergoAll (event :: rest) = (c.undergo event).undergoAll rest := rfl

theorem undergoAll_append (c : Combatant) (events events' : List Event) :
    c.undergoAll (events ++ events') = (c.undergoAll events).undergoAll events' :=
  List.foldl_append

theorem attempt_spend (c : Combatant) (kind : ActionKind) :
    c.attempt (c.spend kind) = if c.canSpend kind then c.charge kind else c := by
  rw [spend]
  split <;> rfl

theorem attempt_move (c : Combatant) (feet : Nat) :
    c.attempt (c.move feet) =
      if feet ≤ c.movement then { c with movement := c.movement - feet } else c := by
  rw [move]
  split <;> rfl

/-! ### What every event keeps -/

/-- The stat block that a combatant goes by. -/
def sheet (c : Combatant) : StatBlock :=
  { name := c.name, maxHp := c.health.maximum, armorClass := c.armorClass
    initiativeBonus := c.initiativeBonus, isPlayer := c.isPlayer, attackBonus := c.attackBonus
    damageDice := c.damageDice, damageBonus := c.damageBonus, damageType := c.damageType
    maxMovement := some c.maxMovement }

/-- `c'` is what may have become of `c`: it keeps its identity and its stat block, and it has no
more feet left than a turn allows if it had no more before. -/
structure Later (c c' : Combatant) : Prop where
  id : c'.id = c.id
  sheet : c'.sheet = c.sheet
  feet : c.movement ≤ c.maxMovement → c'.movement ≤ c'.maxMovement

theorem Later.refl (c : Combatant) : Later c c := ⟨rfl, rfl, fun h => h⟩

theorem Later.trans {a b c : Combatant} (h₁ : Later a b) (h₂ : Later b c) : Later a c :=
  ⟨h₂.id.trans h₁.id, h₂.sheet.trans h₁.sheet, fun h => h₂.feet (h₁.feet h)⟩

theorem Later.isPlayer (h : Later c c') : c'.isPlayer = c.isPlayer :=
  congrArg StatBlock.isPlayer h.sheet

theorem Later.maximum (h : Later c c') : c'.health.maximum = c.health.maximum :=
  congrArg StatBlock.maxHp h.sheet

/-- A change of health alone that leaves the maximum as it is. -/
theorem later_health (c : Combatant) {health : Health} (h : health.maximum = c.health.maximum) :
    Later c { c with health } :=
  ⟨rfl, by rw [sheet, sheet, h], fun h => h⟩

theorem later_charge (c : Combatant) (kind : ActionKind) : Later c (c.charge kind) := by
  cases kind <;> exact ⟨rfl, rfl, fun h => h⟩

/-- Whatever happens to a combatant, it keeps what it goes by. -/
theorem later_undergo (c : Combatant) (event : Event) : Later c (c.undergo event) := by
  cases event with
  | damage amount damageType => exact c.later_health (Health.maximum_damage _ _ _)
  | heal amount => exact c.later_health (Health.maximum_heal _ _)
  | stabilize => exact c.later_health (Health.maximum_stabilize _)
  | deathSave natural => exact c.later_health (Health.maximum_deathSave _ _)
  | spend kind =>
      rw [undergo, attempt_spend]
      split
      · exact c.later_charge kind
      · exact .refl c
  | move feet =>
      rw [undergo, attempt_move]
      split
      · exact ⟨rfl, rfl, fun h => Nat.le_trans (Nat.sub_le _ _) h⟩
      · exact .refl c
  | resetTurn => exact ⟨rfl, rfl, fun _ => Nat.le_refl _⟩
  | addCondition | removeCondition | ageConditions | initiative => exact ⟨rfl, rfl, fun h => h⟩

theorem later_undergoAll (c : Combatant) (events : List Event) :
    Later c (c.undergoAll events) := by
  induction events generalizing c with
  | nil => exact .refl c
  | cons event rest ih => exact (c.later_undergo event).trans (ih _)

@[simp] theorem id_undergoAll (c : Combatant) (events : List Event) :
    (c.undergoAll events).id = c.id := (c.later_undergoAll events).id

@[simp] theorem isPlayer_undergo (c : Combatant) (event : Event) :
    (c.undergo event).isPlayer = c.isPlayer := (c.later_undergo event).isPlayer

@[simp] theorem health_charge (c : Combatant) (kind : ActionKind) :
    (c.charge kind).health = c.health := by
  cases kind <;> rfl

@[simp] theorem conditions_charge (c : Combatant) (kind : ActionKind) :
    (c.charge kind).conditions = c.conditions := by
  cases kind <;> rfl

/-- Health changes by the events that are about it only. -/
theorem health_undergo {event : Event} (h : event.isVital = false) (c : Combatant) :
    (c.undergo event).health = c.health := by
  cases event with
  | damage | heal | stabilize | deathSave => cases h
  | spend kind =>
      rw [undergo, attempt_spend]
      split
      · exact c.health_charge kind
      · rfl
  | move feet =>
      rw [undergo, attempt_move]
      split <;> rfl
  | _ => rfl

theorem health_undergoAll {events : List Event} (h : ∀ event ∈ events, event.isVital = false)
    (c : Combatant) : (c.undergoAll events).health = c.health := by
  induction events generalizing c with
  | nil => rfl
  | cons event rest ih =>
      rw [undergoAll_cons, ih fun _ hm => h _ (List.mem_cons_of_mem _ hm),
        health_undergo (h event List.mem_cons_self)]

/-- Initiative changes by being rolled only. -/
theorem initiative_undergo {event : Event} (h : ∀ total, event ≠ .initiative total)
    (c : Combatant) : (c.undergo event).initiative = c.initiative := by
  cases event with
  | initiative total => exact absurd rfl (h total)
  | spend kind =>
      rw [undergo, attempt_spend]
      split
      · cases kind <;> rfl
      · rfl
  | move feet =>
      rw [undergo, attempt_move]
      split <;> rfl
  | _ => rfl

theorem initiative_undergoAll {events : List Event}
    (h : ∀ event ∈ events, ∀ total, event ≠ .initiative total) (c : Combatant) :
    (c.undergoAll events).initiative = c.initiative := by
  induction events generalizing c with
  | nil => rfl
  | cons event rest ih =>
      rw [undergoAll_cons, ih fun _ hm => h _ (List.mem_cons_of_mem _ hm),
        initiative_undergo (h event List.mem_cons_self)]

/-! ### What becomes of a combatant -/

/-- `c` becomes `c'` by events that may happen to it. -/
def Lives (P : CombatantId → Event → Prop) (c c' : Combatant) : Prop :=
  ∃ events, (∀ event ∈ events, P c.id event) ∧ c.undergoAll events = c'

theorem Lives.refl (c : Combatant) : Lives P c c :=
  ⟨[], fun _ h => absurd h List.not_mem_nil, rfl⟩

theorem Lives.trans {a b c : Combatant} (h₁ : Lives P a b) (h₂ : Lives P b c) : Lives P a c := by
  obtain ⟨events, hp, rfl⟩ := h₁
  obtain ⟨events', hp', rfl⟩ := h₂
  refine ⟨events ++ events', fun event hm => ?_, undergoAll_append _ _ _⟩
  rw [id_undergoAll] at hp'
  exact (List.mem_append.mp hm).elim (hp event) (hp' event)

theorem lives_undergo (event : Event) (h : P c.id event) : Lives P c (c.undergo event) :=
  ⟨[event], fun _ hm => List.mem_singleton.mp hm ▸ h, rfl⟩

theorem Lives.later (h : Lives P c c') : Later c c' := by
  obtain ⟨events, -, rfl⟩ := h
  exact c.later_undergoAll events

/-- Events that are not about health leave up whoever is. -/
theorem Lives.isAlive (h : Lives P c c') (hp : ∀ event, P c.id event → event.isVital = false) :
    c'.isAlive = c.isAlive := by
  obtain ⟨events, hevents, rfl⟩ := h
  rw [Combatant.isAlive, health_undergoAll fun event hm => hp event (hevents event hm)]
  rfl

/-- A combatant that was made from a stat block, whatever has happened to it since. -/
def Lived (c : Combatant) : Prop :=
  ∃ (s : StatBlock) (events : List Event), c = (ofStatBlock c.id s).undergoAll events

theorem lived_ofStatBlock (id : CombatantId) (s : StatBlock) : (ofStatBlock id s).Lived :=
  ⟨s, [], rfl⟩

theorem Lived.lives (h : c.Lived) (hl : Lives P c c') : c'.Lived := by
  obtain ⟨s, events, hc⟩ := h
  obtain ⟨events', -, rfl⟩ := hl
  refine ⟨s, events ++ events', ?_⟩
  rw [id_undergoAll, undergoAll_append, ← hc]

/-- What holds of a fresh combatant and is kept by every event holds of all that have lived. -/
theorem Lived.induct (h : c.Lived) {motive : Combatant → Prop}
    (fresh : ∀ id s, motive (ofStatBlock id s))
    (step : ∀ c event, motive c → motive (c.undergo event)) : motive c := by
  obtain ⟨s, events, hc⟩ := h
  rw [hc]
  clear hc
  generalize hfrom : ofStatBlock c.id s = start
  have hstart : motive start := hfrom ▸ fresh c.id s
  clear hfrom
  induction events generalizing start with
  | nil => exact hstart
  | cons event rest ih => exact ih _ (step start event hstart)

end Combatant

end Tabletop
