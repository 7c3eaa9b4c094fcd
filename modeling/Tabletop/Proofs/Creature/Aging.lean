import Tabletop.Proofs.Creature.Condition

/-!
# Creature — sets of conditions over many rounds

A set of conditions that came about by conditions being applied, taken away and aged
(`ConditionSet.Change`) is in order: its names are distinct, a condition that is applied again
stays in its place, and one that is taken away leaves the others in theirs
(`ConditionSet.Orderly`).  Stored under their names, as a map from keys to conditions, its
conditions would be the same ones after every change, each under its own name (`entries_applyAll`).

What is left of the set after some rounds is said in one step for all of them
(`ConditionSet.Ages`): each condition is on its own, so that a round of the set is a round of every
condition (`toList_rounds`), and what is left of one condition is known (`Condition.after`).
-/

namespace Tabletop

/-! ### One condition -/

namespace Condition

variable {x y : Condition} {k : Nat}

/-- What is left of a condition after `k` rounds, of which there is at least one: all of it if it
never ends, and otherwise the rounds beyond `k`. -/
theorem after_of_pos (hk : 1 ≤ k) (x : Condition) :
    x.after k = if x.duration < 0 ∨ k < x.duration then
      some (if x.duration < 0 then x else { x with duration := x.duration - k }) else none := by
  unfold after lifetime
  by_cases hp : x.duration < 0
  · rw [if_pos hp, if_pos (.inl hp), if_pos hp]
  · have hlife : (k : Int) < max x.duration 1 ↔ x.duration < 0 ∨ k < x.duration := by omega
    simp only [if_neg hp, hlife]

theorem name_after (h : x.after k = some y) : y.name = x.name := by
  unfold after at h
  split_ifs at h
  · cases h
    rfl
  · cases h
    rfl

/-- A condition ends with the round that its duration names, or with the first if that is 0. -/
theorem ends_iff (x : Condition) (k : Nat) :
    (x.after k).any (fun y => y.older?.isNone) = true ↔
      x.duration = (k + 1 : Nat) ∨ k + 1 = 1 ∧ x.duration = 0 := by
  have hends : (x.after k).any (fun y => y.older?.isNone) = true ↔ x.expiries k (k + 1) = 1 := by
    rw [expiries_succ]
    split <;> simp_all
  rw [hends, expiries, lifetime]
  -- the lifetime of a condition with a duration of 0 is one round
  split <;> omega

/-- The name of a condition, if a round ends what is left of it after `k` others. -/
theorem map_name_filter_after (x : Condition) (k : Nat) :
    ((x.after k).filter fun y => y.older?.isNone).map (·.name) =
      if x.duration = (k + 1 : Nat) ∨ k + 1 = 1 ∧ x.duration = 0 then some x.name else none := by
  have hends := x.ends_iff k
  cases hafter : x.after k with
  | none =>
      rw [hafter] at hends
      rw [if_neg fun h => Bool.false_ne_true (hends.mpr h)]
      rfl
  | some y =>
      rw [hafter, Option.any_some] at hends
      rw [Option.filter_some]
      by_cases hy : y.older?.isNone = true
      · rw [if_pos hy, if_pos (hends.mp hy), Option.map_some, name_after hafter]
      · rw [if_neg hy, if_neg (mt hends.mpr hy), Option.map_none]

end Condition

namespace ConditionSet

variable {s : ConditionSet} {c old : Condition} {front back : List Condition} {k : Nat}

/-! ### Changes -/

/-- Something that changes a set of conditions. -/
inductive Change where
  /-- A condition is applied. -/
  | insert (c : Condition)
  /-- The condition of a name is taken away. -/
  | remove (name : String)
  /-- One round passes. -/
  | age

/-- The set after a change. -/
def apply (s : ConditionSet) : Change → ConditionSet
  | .insert c => (s.insert c).2
  | .remove name => (s.remove name).2
  | .age => s.age.2

/-- The set after some changes. -/
def applyAll (s : ConditionSet) (changes : List Change) : ConditionSet := changes.foldl apply s

theorem nodup_apply (hn : s.names.Nodup) (change : Change) : (s.apply change).names.Nodup := by
  cases change with
  | insert c => exact nodup_insert hn c
  | remove name => exact nodup_remove hn name
  | age => exact nodup_age hn

theorem nodup_applyAll (hn : s.names.Nodup) (changes : List Change) :
    (s.applyAll changes).names.Nodup := by
  induction changes generalizing s with
  | nil => exact hn
  | cons change rest ih => exact ih (nodup_apply hn change)

/-! ### Places -/

theorem put_append (hfront : c.name ∉ front.map (·.name)) (hold : c.name = old.name) :
    put c (front ++ old :: back) = front ++ c :: back := by
  induction front with
  | nil => exact if_pos hold.symm
  | cons other rest ih =>
      rw [List.map_cons, List.mem_cons, not_or] at hfront
      rw [List.cons_append, put, if_neg (Ne.symm hfront.1), ih hfront.2, List.cons_append]

/-- What a set does with the conditions that it holds. -/
structure Orderly (s : ConditionSet) : Prop where
  /-- There is one condition for each name. -/
  distinct : s.names.Nodup
  /-- A condition takes the place of the one of its name, which is the answer. -/
  replaced : ∀ front old back c, s.toList = front ++ old :: back → c.name = old.name →
    s.insert c = (some old, ⟨front ++ c :: back⟩)
  /-- A condition that is taken away is the answer, and the others are left in their order. -/
  removed : ∀ front old back, s.toList = front ++ old :: back →
    s.remove old.name = (some old, ⟨front ++ back⟩)

/-- Where names are distinct, a name has one place. -/
theorem orderly_of_nodup (hn : s.names.Nodup) : s.Orderly := by
  have hget : ∀ {front old back}, s.toList = front ++ old :: back →
      s.get? old.name = some old := fun hs =>
    (get?_eq_some_iff hn).mpr ⟨hs ▸ List.mem_append_right _ List.mem_cons_self, rfl⟩
  have hplace : ∀ {front old back}, s.toList = front ++ old :: back →
      old.name ∉ front.map (·.name) ∧ old.name ∉ back.map (·.name) := by
    intro front old back hs
    -- a name that stood in another place as well would be there twice
    rw [names, hs, List.map_append, List.map_cons, List.nodup_middle, List.nodup_cons,
      List.mem_append, not_or] at hn
    exact hn.1
  have hother : ∀ {name : String} {l : List Condition}, name ∉ l.map (·.name) →
      l.filter (fun c => c.name != name) = l := fun hl =>
    List.filter_eq_self.mpr fun c hc => bne_iff_ne.mpr fun h => hl (List.mem_map.mpr ⟨c, hc, h⟩)
  exact {
    distinct := hn
    replaced := fun front old back c hs hname => by
      rw [insert, hname, hget hs, hs, put_append (hname ▸ (hplace hs).1) hname]
    removed := fun front old back hs => by
      rw [remove, hget hs, hs, List.filter_append, List.filter_cons_of_neg (by simp),
        hother (hplace hs).1, hother (hplace hs).2] }

/-! ### Conditions under keys -/

/-- A map with a condition under a key, in the place that the key has or at the end. -/
def assign (key : String) (c : Condition) :
    List (String × Condition) → List (String × Condition)
  | [] => [(key, c)]
  | (other, old) :: rest =>
    if other = key then (other, c) :: rest else (other, old) :: assign key c rest

/-- A map from keys to conditions after a change; conditions are found by their keys. -/
def applyEntries (entries : List (String × Condition)) : Change → List (String × Condition)
  | .insert c => assign c.name c entries
  | .remove name => entries.filter fun e => e.1 != name
  | .age => (entries.map fun e => (e.1, e.2.tick)).filter fun e => e.2.duration != 0

/-- A condition under its name. -/
def entry (c : Condition) : String × Condition := (c.name, c)

theorem assign_entry (c : Condition) (l : List Condition) :
    assign c.name c (l.map entry) = (put c l).map entry := by
  induction l with
  | nil => rfl
  | cons other rest ih =>
      rw [List.map_cons, entry, assign, put]
      by_cases ho : other.name = c.name
      · rw [if_pos ho, if_pos ho, List.map_cons, entry, ho]
      · rw [if_neg ho, if_neg ho, ih, List.map_cons, entry]

/-- A change keeps every condition under its name. -/
theorem applyEntries_entry (s : ConditionSet) (change : Change) :
    applyEntries (s.toList.map entry) change = (s.apply change).toList.map entry := by
  cases change with
  | insert c => exact assign_entry c s.toList
  | remove name => exact List.filter_map
  | age =>
      have htick : (s.toList.map entry).map (fun e => (e.1, e.2.tick)) =
          (s.toList.map Condition.tick).map entry := by
        rw [List.map_map, List.map_map]
        exact List.map_congr_left fun c _ => Prod.ext c.name_tick.symm rfl
      rw [applyEntries, htick]
      exact List.filter_map

theorem entries_applyAll (s : ConditionSet) (changes : List Change) :
    changes.foldl applyEntries (s.toList.map entry) = (s.applyAll changes).toList.map entry := by
  induction changes generalizing s with
  | nil => rfl
  | cons change rest ih => rw [List.foldl_cons, applyEntries_entry, ih]; rfl

/-! ### Rounds -/

/-- What the last of some rounds gives, if there is one, and the set after them. -/
def rounds (s : ConditionSet) : Nat → List String × ConditionSet
  | 0 => ([], s)
  | k + 1 => (s.rounds k).2.age

/-- Every condition has grown older by itself. -/
theorem toList_rounds (s : ConditionSet) (k : Nat) :
    (s.rounds k).2.toList = s.toList.filterMap fun c => c.after k := by
  induction k with
  | zero => simp [rounds]
  | succ k ih =>
      rw [rounds, toList_age, ih, List.filterMap_filterMap]
      exact List.filterMap_congr fun c _ => (c.after_succ k).symm

/-- A filtered and mapped list, in one go. -/
theorem map_filter_eq_filterMap {α β : Type} (p : α → Prop) [DecidablePred p] (g : α → β)
    (l : List α) :
    (l.filter p).map g = l.filterMap fun x => if p x then some (g x) else none := by
  rw [← List.filterMap_eq_map, List.filterMap_filter]
  simp only [decide_eq_true_iff, Function.comp_apply]

/-- What some rounds make of a set of conditions, and what the last of them gives. -/
structure Ages (s : ConditionSet) (k : Nat) : Prop where
  /-- In their order there are left the conditions that never end, as they were, and those that
  last longer, with so many rounds fewer. -/
  left : (s.rounds k).2.toList =
    (s.toList.filter fun c => c.duration < 0 ∨ (k : Int) < c.duration).map fun c =>
      if c.duration < 0 then c else { c with duration := c.duration - k }
  /-- In their order the conditions end that last so many rounds; a duration of 0 is one round. -/
  ended : (s.rounds k).1 =
    (s.toList.filter fun c => c.duration = (k : Int) ∨ k = 1 ∧ c.duration = 0).map (·.name)

theorem ages (hk : 1 ≤ k) (s : ConditionSet) : s.Ages k where
  left := by
    rw [toList_rounds, map_filter_eq_filterMap]
    exact List.filterMap_congr fun c _ => Condition.after_of_pos hk c
  ended := by
    obtain ⟨k, rfl⟩ := Nat.exists_eq_add_of_le' hk
    rw [rounds, ended_age, toList_rounds, List.filter_filterMap, List.map_filterMap,
      map_filter_eq_filterMap]
    exact List.filterMap_congr fun c _ => c.map_name_filter_after k

/-- **Sets of conditions over many rounds.**  Whatever changes have made a set of conditions, it is
in order and holds each condition under its name; and `k` rounds leave in it, in their order, the
conditions that never end and those that last longer than `k` rounds, and the last of the rounds
names those that last just as long. -/
theorem applyAll_ages (changes : List Change) (hk : 1 ≤ k) :
    let s := empty.applyAll changes
    s.Orderly ∧ changes.foldl applyEntries [] = s.toList.map (fun c => (c.name, c)) ∧ s.Ages k :=
  ⟨orderly_of_nodup (nodup_applyAll (s := empty) .nil changes), entries_applyAll empty changes,
    ages hk _⟩

/-- Two rounds, over a condition that was replaced in its place. -/
theorem applyAll_ages_blessed :
    let changes : List Change := [.insert (.ofName "Dodging" 0), .insert (.ofName "Blessed" 5),
      .insert (.ofName "Cursed" Condition.forever), .insert (.ofName "Blessed" 2)]
    let s := empty.applyAll changes
    1 ≤ 2 ∧ s.names = ["Dodging", "Blessed", "Cursed"] ∧ s.Ages 2 ∧
      (s.rounds 1).1 = ["Dodging"] ∧ (s.rounds 2).1 = ["Blessed"] ∧
      (s.rounds 2).2.names = ["Cursed"] := by
  intro changes s
  obtain ⟨-, -, hages⟩ := applyAll_ages changes (show 1 ≤ 2 by decide)
  exact ⟨by decide, by decide, hages, by decide, by decide, by decide⟩

end ConditionSet

end Tabletop
