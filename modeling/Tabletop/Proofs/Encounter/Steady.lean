import Mathlib.Data.List.Forall2
import Tabletop.Encounter.Command
import Tabletop.Proofs.Creature.Event
import Tabletop.Proofs.Encounter.Table

/-!
# Encounter — steady operations

What a fight keeps while something happens to those in it.  `KeepsTable` relates two states with
the same people at the table, each as it may have become, and `Steady` two such states in which the
fight has not moved on either.  Both go over from operation to operation, and putting a changed
combatant in the place of the one it was is steady.
-/

namespace Tabletop

/-- Nobody joins or leaves by the command, and the fight does not move on by it. -/
def Command.isSteady : Command → Bool
  | .damage .. | .heal .. | .applyCondition .. | .removeCondition .. => true
  | .attack .. | .cast .. | .act .. | .move .. | .roll .. => true
  | _ => false

@[simp] theorem Outcome.map_snd {α β : Type} (f : α → β) (o : Outcome α) : (o.map f).2 = o.2 := by
  rcases o with ⟨a | err, e⟩ <;> rfl

namespace Encounter

open Combatant (Later)

variable {e e' e'' : Encounter} {c c₀ : Combatant}

/-- The same people are at the table, each perhaps changed. -/
structure KeepsTable (e e' : Encounter) : Prop where
  settings : e'.settings = e.settings
  nextNumber : e'.nextNumber = e.nextNumber
  combatants : List.Forall₂ Later e.combatants e'.combatants

/-- The same people are at the table, and the fight stands where it stood. -/
structure Steady (e e' : Encounter) : Prop extends KeepsTable e e' where
  order : e'.order = e.order
  turn : e'.turn = e.turn
  round : e'.round = e.round
  phase : e'.phase = e.phase

theorem KeepsTable.refl (e : Encounter) : KeepsTable e e :=
  ⟨rfl, rfl, List.forall₂_same.mpr fun c _ => Later.refl c⟩

theorem forall₂_trans {α : Type} {R : α → α → Prop} (hR : ∀ a b c, R a b → R b c → R a c)
    {l₁ l₂ l₃ : List α} (h₁ : List.Forall₂ R l₁ l₂) (h₂ : List.Forall₂ R l₂ l₃) :
    List.Forall₂ R l₁ l₃ := by
  induction h₁ generalizing l₃ with
  | nil => exact h₂
  | cons h _ ih =>
      obtain ⟨c, l, hc, hl, rfl⟩ := List.forall₂_cons_left_iff.mp h₂
      exact .cons (hR _ _ _ h hc) (ih hl)

theorem exists_of_forall₂ {α β : Type} {R : α → β → Prop} {l : List α} {l' : List β}
    (h : List.Forall₂ R l l') {b : β} (hb : b ∈ l') : ∃ a ∈ l, R a b := by
  induction h with
  | nil => cases hb
  | @cons a b' l l' hab _ ih =>
      rcases List.mem_cons.mp hb with rfl | hb
      · exact ⟨a, List.mem_cons_self, hab⟩
      · obtain ⟨a', ha', hr⟩ := ih hb
        exact ⟨a', List.mem_cons_of_mem _ ha', hr⟩

theorem KeepsTable.trans (h₁ : KeepsTable e e') (h₂ : KeepsTable e' e'') : KeepsTable e e'' :=
  ⟨h₂.settings.trans h₁.settings, h₂.nextNumber.trans h₁.nextNumber,
    forall₂_trans (R := Later) (fun _ _ _ => Later.trans) h₁.combatants h₂.combatants⟩

theorem KeepsTable.ids (h : KeepsTable e e') : e'.ids = e.ids := by
  have hm : List.Forall₂ (fun a b : CombatantId => a = b) e.ids e'.ids :=
    List.forall₂_map_left_iff.mpr (List.forall₂_map_right_iff.mpr
      (h.combatants.imp fun _ _ hl => hl.id.symm))
  rw [List.forall₂_eq_eq_eq] at hm
  exact hm.symm

theorem Steady.refl (e : Encounter) : Steady e e :=
  ⟨.refl e, rfl, rfl, rfl, rfl⟩

theorem Steady.trans (h₁ : Steady e e') (h₂ : Steady e' e'') : Steady e e'' :=
  ⟨h₁.toKeepsTable.trans h₂.toKeepsTable, h₂.order.trans h₁.order, h₂.turn.trans h₁.turn,
    h₂.round.trans h₁.round, h₂.phase.trans h₁.phase⟩

/-- A combatant that takes the place of another is related to it, and everybody else to themselves,
when the relation is reflexive. -/
theorem forall₂_replace {R : Combatant → Combatant → Prop} (hR : ∀ c, R c c)
    (hn : e.ids.Nodup) (hc : e.find? c.id = some c₀) (h : R c₀ c) :
    List.Forall₂ R e.combatants (e.replace c).combatants := by
  rw [replace, List.forall₂_map_right_iff, List.forall₂_same]
  intro other ho
  by_cases hid : other.id = c.id
  · have hfound := find?_of_mem hn ho
    rw [hid, hc] at hfound
    cases hfound
    rw [if_pos hid]
    exact h
  · rw [if_neg hid]
    exact hR other

theorem steady_replace (hn : e.ids.Nodup) (hc : e.find? c.id = some c₀) (h : Later c₀ c) :
    Steady e (e.replace c) :=
  ⟨⟨rfl, rfl, forall₂_replace .refl hn hc h⟩, rfl, rfl, rfl, rfl⟩

end Encounter

end Tabletop
