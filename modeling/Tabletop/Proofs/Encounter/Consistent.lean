import Mathlib.Data.List.Forall2
import Tabletop.Proofs.Encounter.Cause

/-!
# Encounter — consistent states

The invariant that ties the table, the turn order, the place in it, the round and the phase
together (`Consistent`).  A fight that has not begun is consistent.  Steady operations keep it
(`Steady.consistent`), and so do joining, leaving and the beginning of the fight; that turns keep it
too is shown with the turns.
-/

namespace Tabletop

namespace Encounter

open Combatant (Later Lives)

variable {e e' : Encounter} {id : CombatantId}

/-- The parts of a fight fit together. -/
structure Consistent (e : Encounter) : Prop where
  /-- Identities grow along the table. -/
  increasing : e.ids.Pairwise fun a b => a.number < b.number
  /-- The next identity is greater than all at the table. -/
  issued : ∀ id ∈ e.ids, id.number < e.nextNumber
  /-- Nobody has two places in the turn order. -/
  order_nodup : e.order.Nodup
  /-- Everybody in the turn order is at the table. -/
  order_ids : ∀ id ∈ e.order, id ∈ e.ids
  /-- The turn is at a place of the order, or the order is empty. -/
  turn_lt : e.turn < e.order.length ∨ e.turn = 0 ∧ e.order.length = 0
  /-- Initiative is never seen being rolled. -/
  not_initiative : e.phase ≠ .initiative
  /-- Before the fight there are no rounds and there is no order. -/
  inactive : e.phase = .inactive → e.round = 0 ∧ e.order = []
  /-- A fight that goes on has a round. -/
  running : e.phase = .active ∨ e.phase = .paused → 1 ≤ e.round
  /-- The round can be counted. -/
  counted : e.round ≤ Count.greatest
  /-- Nobody has more feet left than a turn allows. -/
  feet : ∀ c ∈ e.combatants, c.movement ≤ c.maxMovement

theorem Consistent.nodup (h : e.Consistent) : e.ids.Nodup :=
  h.increasing.imp fun hlt heq => Nat.ne_of_lt hlt (congrArg CombatantId.number heq)

theorem consistent_withDice (settings : Settings) (dice : Dice) :
    (withDice settings dice).Consistent where
  increasing := .nil
  issued _ h := absurd h List.not_mem_nil
  order_nodup := .nil
  order_ids _ h := absurd h List.not_mem_nil
  turn_lt := .inr ⟨rfl, rfl⟩
  not_initiative := Phase.noConfusion
  inactive _ := ⟨rfl, rfl⟩
  running h := h.elim Phase.noConfusion Phase.noConfusion
  counted := Nat.zero_le _
  feet _ h := absurd h List.not_mem_nil

/-! ### The same table -/

theorem KeepsTable.feet (h : KeepsTable e e')
    (hf : ∀ c ∈ e.combatants, c.movement ≤ c.maxMovement) :
    ∀ c ∈ e'.combatants, c.movement ≤ c.maxMovement := by
  intro c' hc'
  obtain ⟨c, hc, hl⟩ := exists_of_forall₂ h.combatants hc'
  exact hl.feet (hf c hc)

/-- The same table around another course of the fight is consistent if the course is. -/
theorem KeepsTable.consistent (h : KeepsTable e e') (hc : e.Consistent)
    (order_nodup : e'.order.Nodup) (order_ids : ∀ id ∈ e'.order, id ∈ e.ids)
    (turn_lt : e'.turn < e'.order.length ∨ e'.turn = 0 ∧ e'.order.length = 0)
    (not_initiative : e'.phase ≠ .initiative)
    (inactive : e'.phase = .inactive → e'.round = 0 ∧ e'.order = [])
    (running : e'.phase = .active ∨ e'.phase = .paused → 1 ≤ e'.round)
    (counted : e'.round ≤ Count.greatest) : e'.Consistent where
  increasing := by rw [h.ids]; exact hc.increasing
  issued := by rw [h.ids, h.nextNumber]; exact hc.issued
  order_nodup := order_nodup
  order_ids := by rw [h.ids]; exact order_ids
  turn_lt := turn_lt
  not_initiative := not_initiative
  inactive := inactive
  running := running
  counted := counted
  feet := h.feet hc.feet

theorem Steady.consistent (h : Steady e e') (hc : e.Consistent) : e'.Consistent := by
  refine h.toKeepsTable.consistent hc ?_ ?_ ?_ ?_ ?_ ?_ ?_
  · rw [h.order]; exact hc.order_nodup
  · rw [h.order]; exact hc.order_ids
  · rw [h.turn, h.order]; exact hc.turn_lt
  · rw [h.phase]; exact hc.not_initiative
  · rw [h.phase, h.round, h.order]; exact hc.inactive
  · rw [h.phase, h.round]; exact hc.running
  · rw [h.round]; exact hc.counted

/-- Another phase, when it is one that the round allows. -/
theorem Consistent.withPhase (hc : e.Consistent) {phase : Phase} (hi : phase ≠ .initiative)
    (hn : phase ≠ .inactive) (hr : phase = .active ∨ phase = .paused → 1 ≤ e.round) :
    ({ e with phase } : Encounter).Consistent :=
  { hc with not_initiative := hi, inactive := fun h => absurd h hn, running := hr }

/-! ### Joining and leaving -/

theorem ids_add (s : StatBlock) : (e.add s).2.ids = e.ids ++ [⟨e.nextNumber⟩] := by
  simp [add, ids, Combatant.ofStatBlock]

/-- Whoever is at the table is found there when somebody joins. -/
theorem find?_add {c : Combatant} (hc : e.find? id = some c) (s : StatBlock) :
    (e.add s).2.find? id = some c := by
  simp only [find?] at hc
  simp [add, find?, hc]

/-- Nobody else joins with somebody. -/
theorem find?_add_of_ne (h : id ≠ ⟨e.nextNumber⟩) (s : StatBlock) :
    (e.add s).2.find? id = e.find? id := by
  simp [add, find?, Combatant.ofStatBlock, Ne.symm h]

theorem consistent_add (hc : e.Consistent) (s : StatBlock) : (e.add s).2.Consistent where
  increasing := by
    rw [ids_add, List.pairwise_append]
    refine ⟨hc.increasing, List.pairwise_singleton _ _, fun a ha b hb => ?_⟩
    rw [List.mem_singleton.mp hb]
    exact hc.issued a ha
  issued := by
    intro id hid
    rw [ids_add, List.mem_append, List.mem_singleton] at hid
    rcases hid with hid | rfl
    · exact Nat.lt_succ_of_lt (hc.issued id hid)
    · exact Nat.lt_succ_self _
  order_nodup := hc.order_nodup
  order_ids id hid := by
    rw [ids_add]
    exact List.mem_append_left _ (hc.order_ids id hid)
  turn_lt := hc.turn_lt
  not_initiative := hc.not_initiative
  inactive := hc.inactive
  running := hc.running
  counted := hc.counted
  feet := by
    intro c hm
    rcases List.mem_append.mp hm with hm | hm
    · exact hc.feet c hm
    · rw [List.mem_singleton.mp hm]
      exact Nat.le_refl _

/-- The state that is left when the combatant of an identity leaves. -/
def without (e : Encounter) (id : CombatantId) : Encounter :=
  { e with
    combatants := e.combatants.filter fun other => other.id != id
    order := e.order.filter fun other => other != id
    turn := if e.turn < (e.order.filter fun other => other != id).length then e.turn else 0 }

theorem remove_of_find? {c : Combatant} (h : e.find? id = some c) :
    e.remove id = (.ok c, e.without id) := by
  rw [remove, lookup_of_find? h, Outcome.andThen_ok]
  rfl

theorem remove_of_none (h : e.find? id = none) :
    e.remove id = (.error (.unknownCombatant id), e) := by
  rw [remove, lookup_of_none h, Outcome.andThen_error]

theorem ids_without : (e.without id).ids = e.ids.filter fun other => other != id := by
  simp only [ids, without, List.filter_map]
  rfl

theorem find?_without_self : (e.without id).find? id = none := by
  simp [find?, without]

/-- Nobody else leaves the table with somebody. -/
theorem find?_without {other : CombatantId} (h : id ≠ other) :
    (e.without other).find? id = e.find? id := by
  rw [find?, without, List.find?_filter, find?]
  congr 1
  funext c
  by_cases hid : c.id = id
  · simp [hid, h]
  · simp [hid]

theorem consistent_without (hc : e.Consistent) : (e.without id).Consistent where
  increasing := by rw [ids_without]; exact hc.increasing.filter _
  issued := by
    intro other ho
    rw [ids_without] at ho
    exact hc.issued other (List.mem_filter.mp ho).1
  order_nodup := hc.order_nodup.filter _
  order_ids := by
    intro other ho
    obtain ⟨hm, hne⟩ := List.mem_filter.mp ho
    rw [ids_without]
    exact List.mem_filter.mpr ⟨hc.order_ids other hm, hne⟩
  turn_lt := by
    simp only [without]
    split
    · exact .inl ‹_›
    · omega
  not_initiative := hc.not_initiative
  inactive h := by
    obtain ⟨hr, ho⟩ := hc.inactive h
    exact ⟨hr, by simp only [without, ho, List.filter_nil]⟩
  running := hc.running
  counted := hc.counted
  feet c hm := hc.feet c (List.mem_filter.mp hm).1

/-! ### The beginning -/

theorem ids_rollInitiative (cs : List Combatant) (r : Roller) :
    (rollInitiative cs r).1.map (·.id) = cs.map (·.id) := by
  induction cs generalizing r with
  | nil => rfl
  | cons c rest ih => simp only [rollInitiative, List.map_cons, ih]

theorem forall₂_readyWith (cs : List Combatant) (r : Roller) :
    List.Forall₂ (Lives Command.start.Causes) cs
      (List.zipWith readyWith (rollInitiative cs r).1 cs) := by
  induction cs generalizing r with
  | nil => exact .nil
  | cons c rest ih =>
      have hready (entry : InitiativeEntry) : Lives Command.start.Causes c (readyWith entry c) :=
        (Combatant.lives_undergo (.initiative entry.total) (.initiative ..)).trans
          (Combatant.lives_undergo .resetTurn (.ready _))
      exact .cons (hready _) (ih _)

/-- The state in which a fight begins. -/
def begun (e : Encounter) : Encounter :=
  let rolled := rollInitiative e.combatants e.roller
  { e with
    roller := rolled.2
    combatants := List.zipWith readyWith rolled.1 e.combatants
    order := (sortInitiative rolled.1).map (·.id)
    turn := 0
    round := 1
    phase := .active }

theorem start_of_inactive (hp : e.phase = .inactive) (hne : e.combatants ≠ []) :
    e.start = (.ok ⟨sortInitiative (rollInitiative e.combatants e.roller).1, 1⟩, e.begun) := by
  have hempty : e.combatants.isEmpty = false := by simpa using hne
  simp only [start, hp, hempty, ne_eq, not_true_eq_false, if_false, Bool.false_eq_true]
  rfl

theorem start_of_empty (hp : e.phase = .inactive) (he : e.combatants = []) :
    e.start = (.error .noCombatants, e) := by
  simp [start, hp, he]

theorem start_of_begun (hp : e.phase ≠ .inactive) :
    e.start = (.error (.invalidTransition e.phase .initiative), e) := by
  rw [start, if_pos hp]

theorem befalls_begun (e : Encounter) : Befalls Command.start.Causes e e.begun :=
  forall₂_readyWith _ _

theorem keepsTable_begun (e : Encounter) : KeepsTable e e.begun :=
  ⟨rfl, rfl, (befalls_begun e).later⟩

/-- The turn order holds everybody at the table. -/
theorem perm_order_begun (e : Encounter) : e.begun.order.Perm e.ids := by
  have h : (sortInitiative (rollInitiative e.combatants e.roller).1).Perm _ :=
    List.mergeSort_perm _ _
  exact (h.map _).trans (ids_rollInitiative _ _ ▸ .refl _)

/-- Where initiative falls in the order of the table, that is the turn order. -/
theorem order_begun_of_pairwise
    (h : (rollInitiative e.combatants e.roller).1.Pairwise fun a b => b.total ≤ a.total) :
    e.begun.order = e.ids := by
  have hsorted : sortInitiative (rollInitiative e.combatants e.roller).1 =
      (rollInitiative e.combatants e.roller).1 :=
    List.mergeSort_of_pairwise (h.imp fun hle => decide_eq_true hle)
  simp only [begun]
  rw [hsorted, ids_rollInitiative, ids]

theorem consistent_begun (hc : e.Consistent) (hne : e.combatants ≠ []) :
    e.begun.Consistent := by
  have hp := perm_order_begun e
  have hpos : 0 < e.begun.order.length := by
    rw [hp.length_eq, ids, List.length_map]
    exact List.length_pos_iff.mpr hne
  have hone : 1 ≤ Count.greatest := by decide
  exact (keepsTable_begun e).consistent hc (hp.nodup_iff.mpr hc.nodup) (fun id h => hp.mem_iff.mp h)
    (.inl hpos) Phase.noConfusion Phase.noConfusion (fun _ => Nat.le_refl 1) hone

end Encounter

end Tabletop
