import Mathlib.Algebra.GroupWithZero.Nat
import Tabletop.Proofs.Creature.Event

/-!
# Creature — what a turn allows

What a combatant has left of its turn, and which events take something out of it.  A turn allows an
action, a bonus action and a reaction once (`ActionKind.slots`), and some feet; a new turn gives all
of it back (`Rested`).  `Spends` balances what a combatant had against what it has left and the
events that it paid for in between: one that it can afford takes exactly what it costs
(`spends_undergo`), and one that is idle takes nothing (`spends_of_isIdle`).
-/

namespace Tabletop

/-- The kinds of action that a turn allows once. -/
def ActionKind.slots : List ActionKind := [.action, .bonusAction, .reaction]

namespace Event

/-- The event spends what a kind of action takes. -/
def spends (kind : ActionKind) : Event → Bool
  | .spend other => other == kind
  | _ => false

/-- The feet that the event takes. -/
def feet : Event → Nat
  | .move feet => feet
  | _ => 0

/-- The event neither takes anything out of a turn nor gives it back. -/
def isIdle : Event → Bool
  | .spend _ | .move _ | .resetTurn => false
  | _ => true

end Event

namespace Combatant

variable {c c' c'' : Combatant} {event : Event} {kind : ActionKind} {paid paid' : List Event}
  {P : CombatantId → Event → Prop}

/-- The combatant has left what an event takes. -/
def Affords (c : Combatant) : Event → Prop
  | .spend kind => c.canSpend kind = true
  | .move feet => feet ≤ c.movement
  | _ => True

/-- The combatant has everything that a turn allows. -/
structure Rested (c : Combatant) : Prop where
  slots : ∀ kind, c.canSpend kind = true
  movement : c.movement = c.maxMovement

theorem rested_resetTurn (c : Combatant) : c.resetTurn.Rested :=
  ⟨fun kind => by cases kind <;> rfl, rfl⟩

theorem rested_ofStatBlock (id : CombatantId) (s : StatBlock) : (ofStatBlock id s).Rested :=
  ⟨fun kind => by cases kind <;> rfl, rfl⟩

theorem attempt_spend_of_affords (ha : c.Affords (.spend kind)) :
    c.attempt (c.spend kind) = c.charge kind :=
  (c.attempt_spend kind).trans (if_pos ha)

theorem attempt_move_of_affords {feet : Nat} (ha : c.Affords (.move feet)) :
    c.attempt (c.move feet) = { c with movement := c.movement - feet } :=
  (c.attempt_move feet).trans (if_pos ha)

/-! ### Idle events -/

theorem canSpend_undergo_of_isIdle (h : event.isIdle = true) (c : Combatant) (kind : ActionKind) :
    (c.undergo event).canSpend kind = c.canSpend kind := by
  cases event with
  | spend | move | resetTurn => cases h
  | _ => cases kind <;> rfl

theorem movement_undergo_of_isIdle (h : event.isIdle = true) (c : Combatant) :
    (c.undergo event).movement = c.movement := by
  cases event with
  | spend | move | resetTurn => cases h
  | _ => rfl

/-! ### What events take -/

/-- A charge leaves the other kinds of action as they are. -/
theorem canSpend_charge_of_ne {other : ActionKind} (h : other ≠ kind) (c : Combatant) :
    (c.charge other).canSpend kind = c.canSpend kind := by
  cases other with
  | action =>
      cases kind with
      | action => exact absurd rfl h
      | _ => rfl
  | bonusAction =>
      cases kind with
      | bonusAction => exact absurd rfl h
      | _ => rfl
  | reaction =>
      cases kind with
      | reaction => exact absurd rfl h
      | _ => rfl
  | movement | freeAction => rfl

/-- A slot that is charged is used up. -/
theorem canSpend_charge (hk : kind ∈ ActionKind.slots) (c : Combatant) :
    (c.charge kind).canSpend kind = false := by
  cases kind with
  | movement | freeAction => simp [ActionKind.slots] at hk
  | _ => rfl

/-- What a combatant can afford takes from each slot what it spends of it. -/
theorem canSpend_undergo (ha : c.Affords event) (hr : event ≠ .resetTurn)
    (hk : kind ∈ ActionKind.slots) :
    (event.spends kind).toNat + ((c.undergo event).canSpend kind).toNat =
      (c.canSpend kind).toNat := by
  cases event with
  | spend other =>
      have hcan : c.canSpend other = true := ha
      rw [undergo, attempt_spend_of_affords ha]
      by_cases ho : other = kind
      · subst ho
        rw [canSpend_charge hk, hcan, Event.spends, BEq.rfl]
        rfl
      · rw [canSpend_charge_of_ne ho, Event.spends, beq_false_of_ne ho]
        exact Nat.zero_add _
  | move feet =>
      rw [undergo, attempt_move_of_affords ha]
      cases kind <;> exact Nat.zero_add _
  | resetTurn => exact absurd rfl hr
  | _ =>
      rw [canSpend_undergo_of_isIdle rfl]
      exact Nat.zero_add _

/-- What a combatant can afford takes the feet that it costs. -/
theorem movement_undergo (ha : c.Affords event) (hr : event ≠ .resetTurn) :
    event.feet + (c.undergo event).movement = c.movement := by
  cases event with
  | spend other =>
      rw [undergo, attempt_spend_of_affords ha]
      cases other <;> exact Nat.zero_add _
  | move feet =>
      rw [undergo, attempt_move_of_affords ha]
      exact Nat.add_sub_of_le ha
  | resetTurn => exact absurd rfl hr
  | _ =>
      rw [movement_undergo_of_isIdle rfl]
      exact Nat.zero_add _

/-! ### The balance of a turn -/

/-- What a combatant had is what it has left and what it has paid. -/
structure Spends (c : Combatant) (paid : List Event) (c' : Combatant) : Prop where
  slots : ∀ kind ∈ ActionKind.slots,
    paid.countP (Event.spends kind) + (c'.canSpend kind).toNat = (c.canSpend kind).toNat
  movement : (paid.map Event.feet).sum + c'.movement = c.movement
  maxMovement : c'.maxMovement = c.maxMovement

theorem Spends.refl (c : Combatant) : Spends c [] c :=
  ⟨fun _ _ => Nat.zero_add _, Nat.zero_add _, rfl⟩

theorem Spends.trans (h : Spends c paid c') (h' : Spends c' paid' c'') :
    Spends c (paid ++ paid') c'' where
  slots kind hk := by rw [List.countP_append, Nat.add_assoc, h'.slots kind hk, h.slots kind hk]
  movement := by rw [List.map_append, List.sum_append, Nat.add_assoc, h'.movement, h.movement]
  maxMovement := h'.maxMovement.trans h.maxMovement

theorem Later.maxMovement (h : Later c c') : c'.maxMovement = c.maxMovement :=
  Option.some.inj (congrArg StatBlock.maxMovement h.sheet)

/-- A combatant pays for what it can afford. -/
theorem spends_undergo (ha : c.Affords event) (hr : event ≠ .resetTurn) :
    Spends c [event] (c.undergo event) where
  slots kind hk := by
    have hcount : [event].countP (Event.spends kind) = (event.spends kind).toNat := by
      rw [List.countP_singleton]
      cases event.spends kind <;> rfl
    rw [hcount, canSpend_undergo ha hr hk]
  movement := by
    rw [List.map_singleton, List.sum_singleton]
    exact movement_undergo ha hr
  maxMovement := (c.later_undergo event).maxMovement

theorem spends_of_isIdle (h : event.isIdle = true) (c : Combatant) :
    Spends c [] (c.undergo event) where
  slots kind _ := by
    rw [canSpend_undergo_of_isIdle h]
    exact Nat.zero_add _
  movement := by
    rw [movement_undergo_of_isIdle h]
    exact Nat.zero_add _
  maxMovement := (c.later_undergo event).maxMovement

theorem Lives.spends (h : Lives P c c') (hp : ∀ event, P c.id event → event.isIdle = true) :
    Spends c [] c' := by
  obtain ⟨events, hevents, rfl⟩ := h
  have hidle : ∀ event ∈ events, event.isIdle = true := fun event hm => hp event (hevents event hm)
  clear hevents hp
  induction events generalizing c with
  | nil => exact .refl c
  | cons event rest ih =>
      have hfirst := spends_of_isIdle (hidle event List.mem_cons_self) c
      exact hfirst.trans (ih fun event hm => hidle event (List.mem_cons_of_mem _ hm))

/-- No slot is paid for twice, and no more feet than there were. -/
theorem Spends.le (h : Spends c paid c') :
    (∀ kind ∈ ActionKind.slots, paid.countP (Event.spends kind) ≤ 1) ∧
      (paid.map Event.feet).sum ≤ c.movement := by
  refine ⟨fun kind hk => ?_, h.movement ▸ Nat.le_add_right _ _⟩
  have hslot := h.slots kind hk
  have hle := Bool.toNat_le (c.canSpend kind)
  omega

/-- Whoever had everything has used up the slots that it paid for, and the feet that it moved. -/
theorem Spends.of_rested (h : Spends c paid c') (hr : c.Rested) :
    (∀ kind ∈ ActionKind.slots,
      c'.canSpend kind = false ↔ ∃ price ∈ paid, price.spends kind = true) ∧
      c'.movement + (paid.map Event.feet).sum = c'.maxMovement := by
  constructor
  · intro kind hk
    have hslot := h.slots kind hk
    rw [hr.slots kind] at hslot
    rw [← List.countP_pos_iff]
    cases hcan : c'.canSpend kind with
    | false =>
        rw [hcan, Bool.toNat_false, Bool.toNat_true] at hslot
        exact ⟨fun _ => by omega, fun _ => rfl⟩
    | true =>
        rw [hcan, Bool.toNat_true] at hslot
        exact ⟨nofun, fun hpos => by omega⟩
  · rw [Nat.add_comm, h.movement, h.maxMovement, hr.movement]

theorem Rested.spends (hr : c.Rested) (h : Spends c [] c') : c'.Rested where
  slots kind := by
    cases kind with
    | movement | freeAction => rfl
    | _ =>
        rw [← Bool.not_eq_false, (h.of_rested hr).1 _ (by decide)]
        exact fun ⟨price, hm, _⟩ => List.not_mem_nil hm
  movement := (h.of_rested hr).2

end Combatant

end Tabletop
