import Mathlib.Data.List.Nodup
import Tabletop.Encounter.Action
import Tabletop.Encounter.Turn

/-!
# Encounter — the table

Who stands at the table, and what the operations on single combatants answer.  The table is read
through its identities (`ids`) and through `find?`: `find?_replace` says what a changed combatant
does to every look-up, and each operation has one equation for every way it can go (`lookup`,
`change`, `use`, `spend`, `namesOf`).
-/

namespace Tabletop

namespace Encounter

variable {α : Type} {e : Encounter} {c c' : Combatant} {id : CombatantId}

/-- The identities of those who take part, in the order in which they came. -/
def ids (e : Encounter) : List CombatantId := e.combatants.map (·.id)

/-! ### Look-up -/

theorem mem_of_find? (h : e.find? id = some c) : c ∈ e.combatants :=
  List.mem_of_find?_eq_some h

theorem id_of_find? (h : e.find? id = some c) : c.id = id := by
  simpa using List.find?_some h

theorem find?_eq_none_iff : e.find? id = none ↔ id ∉ e.ids := by
  simp [find?, ids]

theorem exists_find?_of_mem_ids (h : id ∈ e.ids) : ∃ c, e.find? id = some c := by
  rw [← Option.isSome_iff_exists, Option.isSome_iff_ne_none]
  exact fun hn => find?_eq_none_iff.mp hn h

/-- Where no identity is there twice, everybody is found under their own. -/
theorem find?_of_mem (hn : e.ids.Nodup) (hc : c ∈ e.combatants) : e.find? c.id = some c := by
  obtain ⟨d, hd⟩ := exists_find?_of_mem_ids (List.mem_map.mpr ⟨c, hc, rfl⟩ : c.id ∈ e.ids)
  rw [hd, List.inj_on_of_nodup_map hn (mem_of_find? hd) hc (id_of_find? hd)]

/-! ### Whoever has the turn -/

/-- It is somebody's turn when the fight goes on or is suspended, their identity stands at the
current place of the order, and they are at the table. -/
theorem current?_eq_some_iff :
    e.current? = some c ↔
      (e.phase = .active ∨ e.phase = .paused) ∧ e.order[e.turn]? = some c.id ∧
        e.find? c.id = some c := by
  unfold current?
  split
  · next hp =>
      rw [Option.bind_eq_some_iff]
      constructor
      · rintro ⟨id, hid, hfound⟩
        rw [← id_of_find? hfound] at hid hfound
        exact ⟨hp, hid, hfound⟩
      · rintro ⟨-, hid, hfound⟩
        exact ⟨c.id, hid, hfound⟩
  · next hp => exact ⟨(nomatch ·), fun h => absurd h.1 hp⟩

theorem find?_of_current? (h : e.current? = some c) : e.find? c.id = some c :=
  (current?_eq_some_iff.mp h).2.2

theorem getElem?_order_of_current? (h : e.current? = some c) : e.order[e.turn]? = some c.id :=
  (current?_eq_some_iff.mp h).2.1

/-! ### Replacing a combatant -/

/-- A changed combatant is found in the place of the one it was; nobody else changes. -/
theorem find?_replace :
    (e.replace c).find? id = if id = c.id then (e.find? id).map (fun _ => c) else e.find? id := by
  simp only [find?, replace]
  induction e.combatants with
  | nil => simp
  | cons other rest ih =>
      have hb : ∀ a b : CombatantId, ¬ a = b → (a == b) = false := fun _ _ => beq_false_of_ne
      simp only [List.map_cons, List.find?_cons, ih]
      by_cases ho : other.id = c.id <;> by_cases hi : id = c.id
      · simp [ho, hi]
      · simp [ho, hi, hb _ _ (Ne.symm hi)]
      · simp [ho, hi, hb _ _ ho]
      · simp [ho, hi]

/-- Whoever is at the table after a change is the changed combatant or was there before. -/
theorem mem_replace (h : c' ∈ (e.replace c).combatants) :
    c' = c ∨ c' ∈ e.combatants ∧ c'.id ≠ c.id := by
  obtain ⟨other, hm, rfl⟩ := List.mem_map.mp h
  by_cases ho : other.id = c.id
  · rw [if_pos ho]
    exact .inl rfl
  · rw [if_neg ho]
    exact .inr ⟨hm, ho⟩

/-! ### Operations on one combatant -/

theorem lookup_of_find? (h : e.find? id = some c) : e.lookup id = (.ok c, e) := by
  simp only [lookup, h]

theorem lookup_of_none (h : e.find? id = none) :
    e.lookup id = (.error (.unknownCombatant id), e) := by
  simp only [lookup, h]

@[simp] theorem lookup_snd : (e.lookup id).2 = e := by
  unfold lookup
  split <;> rfl

theorem change_of_find? {f : Combatant → α × Combatant} (h : e.find? id = some c) :
    e.change id f = (.ok (f c).1, e.replace (f c).2) := by
  rw [change, lookup_of_find? h, Outcome.andThen_ok]

theorem change_of_none {f : Combatant → α × Combatant} (h : e.find? id = none) :
    e.change id f = (.error (.unknownCombatant id), e) := by
  rw [change, lookup_of_none h, Outcome.andThen_error]

theorem use_of_ok {f : Combatant → Except Exhausted Combatant} (h : e.find? id = some c)
    (hf : f c = .ok c') : e.use id f = (.ok c', e.replace c') := by
  rw [use, lookup_of_find? h, Outcome.andThen_ok, hf]

theorem use_of_exhausted {f : Combatant → Except Exhausted Combatant} {x : Exhausted}
    (h : e.find? id = some c) (hf : f c = .error x) :
    e.use id f = (.error (.exhausted (.turn x)), e) := by
  rw [use, lookup_of_find? h, Outcome.andThen_ok, hf]

theorem use_of_none {f : Combatant → Except Exhausted Combatant} (h : e.find? id = none) :
    e.use id f = (.error (.unknownCombatant id), e) := by
  rw [use, lookup_of_none h, Outcome.andThen_error]

theorem spend_of_canSpend {kind : ActionKind} (h : e.find? id = some c)
    (hk : c.canSpend kind = true) :
    e.spend id kind = (.ok (c.charge kind), e.replace (c.charge kind)) :=
  use_of_ok h (by rw [Combatant.spend, if_pos hk])

@[simp] theorem namesOf_snd (e : Encounter) (ids : List CombatantId) : (e.namesOf ids).2 = e := by
  induction ids with
  | nil => rfl
  | cons id rest ih =>
      rw [namesOf]
      cases h : e.find? id with
      | none => rw [lookup_of_none h, Outcome.andThen_error]
      | some c =>
          rw [lookup_of_find? h, Outcome.andThen_ok]
          rcases ho : e.namesOf rest with ⟨names | err, e'⟩ <;> rw [ho] at ih <;> exact ih

end Encounter

end Tabletop
