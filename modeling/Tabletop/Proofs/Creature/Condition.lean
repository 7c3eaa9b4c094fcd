import Mathlib.Data.List.Nodup
import Tabletop.Proofs.Creature.Event

/-!
# Creature — conditions that age

A set of conditions is read through `names` and `get?`: each operation has one equation for what
`get?` gives after it, and keeps the names distinct.  A condition that ages becomes an older one or
ends (`Condition.older?`), and `Condition.after` is what is left of it after some rounds: it goes on
for ever if its duration is negative, and otherwise ends with the round that its duration names, or
with the first if that is 0.  Only events about a condition change it (`Combatant.get?_undergo`).
-/

namespace Tabletop

namespace Condition

variable {x : Condition} {k : Nat}

/-! ### One condition -/

/-- The condition one round older, if it does not end. -/
def older? (x : Condition) : Option Condition := if x.tick.duration = 0 then none else some x.tick

/-- The number of rounds with the last of which a condition ends, if it ends. -/
def lifetime (x : Condition) : Int := max x.duration 1

/-- What is left of a condition after some rounds. -/
def after (x : Condition) (k : Nat) : Option Condition :=
  if x.duration < 0 then some x
  else if k < x.lifetime then some { x with duration := x.duration - k } else none

/-- How often a condition ends while its age goes from `k` rounds to `k'`: once if the round that
ends it is among them, and else not at all. -/
def expiries (x : Condition) (k k' : Nat) : Nat :=
  if 0 ≤ x.duration ∧ k < x.lifetime ∧ x.lifetime ≤ k' then 1 else 0

@[simp] theorem after_zero (x : Condition) : x.after 0 = some x := by
  have hpos : (0 : Int) < x.lifetime := by
    unfold lifetime
    omega
  rw [after, if_pos (show ((0 : Nat) : Int) < x.lifetime from hpos)]
  simp

theorem older?_of_permanent (h : x.duration < 0) : x.older? = some x := by
  have ht : x.tick = x := if_neg (by omega)
  rw [older?, ht, if_neg (by omega)]

theorem tick_of_pos (h : 0 < x.duration) : x.tick = { x with duration := x.duration - 1 } :=
  if_pos h

/-- One more round makes the condition that is left one round older. -/
theorem after_succ (x : Condition) (k : Nat) : x.after (k + 1) = (x.after k).bind older? := by
  unfold after lifetime
  by_cases hp : x.duration < 0
  · rw [if_pos hp, if_pos hp, Option.bind_some, older?_of_permanent hp]
  · rw [if_neg hp, if_neg hp]
    by_cases hk : (k : Int) < max x.duration 1
    · rw [if_pos hk, Option.bind_some, older?]
      by_cases hpos : 0 < x.duration - k
      · rw [tick_of_pos hpos]
        dsimp only
        have hsub : x.duration - k - 1 = x.duration - ((k + 1 : Nat) : Int) := by omega
        rw [hsub]
        by_cases hlast : ((k + 1 : Nat) : Int) < max x.duration 1
        · rw [if_pos hlast, if_neg (by omega)]
        · rw [if_neg hlast, if_pos (by omega)]
      · -- a duration of 0 has no round left to lose, and ends with the first
        have hzero : x.duration - k = 0 := by omega
        have ht : tick { x with duration := x.duration - k } =
            { x with duration := x.duration - k } := if_neg hpos
        rw [if_neg (by omega), ht, if_pos hzero]
    · rw [if_neg hk, if_neg (by omega), Option.bind_none]

theorem expiries_self (x : Condition) (k : Nat) : x.expiries k k = 0 :=
  if_neg fun h => absurd h.2.1 (Int.not_lt.mpr h.2.2)

theorem expiries_add (x : Condition) {k k' k'' : Nat} (h : k ≤ k') (h' : k' ≤ k'') :
    x.expiries k k' + x.expiries k' k'' = x.expiries k k'' := by
  unfold expiries
  by_cases hd : 0 ≤ x.duration
  · simp only [hd, true_and]
    split <;> split <;> split <;> omega
  · simp only [hd, false_and, if_false]

/-- One more round ends a condition that is left and has no older one. -/
theorem expiries_succ (x : Condition) (k : Nat) :
    x.expiries k (k + 1) = if (x.after k).any (fun y => y.older?.isNone) then 1 else 0 := by
  have hended : (x.after k).any (fun y => y.older?.isNone) = true ↔
      (x.after k).isSome ∧ x.after (k + 1) = none := by
    rw [after_succ]
    cases x.after k <;> simp
  simp only [hended]
  unfold expiries after
  by_cases hp : x.duration < 0
  · simp [hp, Int.not_le.mpr hp]
  · by_cases hk : (k : Int) < x.lifetime
    · simp [hp, hk, Int.not_lt.mp hp]
    · simp [hp, hk]

end Condition

namespace ConditionSet

variable {s : ConditionSet} {x : Condition} {name : String}

/-! ### Sets of conditions -/

/-- Where names are distinct, every condition is found under its own. -/
theorem get?_eq_some_iff (hn : s.names.Nodup) :
    s.get? name = some x ↔ x ∈ s.toList ∧ x.name = name := by
  constructor
  · intro h
    exact ⟨List.mem_of_find?_eq_some h, by simpa using List.find?_some h⟩
  · rintro ⟨hm, rfl⟩
    have hsome : (s.get? x.name).isSome := by
      rw [get?, List.find?_isSome]
      exact ⟨x, hm, beq_self_eq_true _⟩
    obtain ⟨y, hy⟩ := Option.isSome_iff_exists.mp hsome
    have hname : y.name = x.name := by simpa using List.find?_some hy
    rw [hy, List.inj_on_of_nodup_map hn (List.mem_of_find?_eq_some hy) hm hname]

theorem names_put (c : Condition) (l : List Condition) :
    (put c l).map (·.name) =
      if c.name ∈ l.map (·.name) then l.map (·.name) else l.map (·.name) ++ [c.name] := by
  induction l with
  | nil => rfl
  | cons other rest ih =>
      rw [put]
      by_cases ho : other.name = c.name
      · rw [if_pos ho, List.map_cons, List.map_cons, ho, if_pos List.mem_cons_self]
      · rw [if_neg ho, List.map_cons, List.map_cons, ih]
        by_cases hr : c.name ∈ rest.map (·.name)
        · rw [if_pos hr, if_pos (List.mem_cons_of_mem _ hr)]
        · rw [if_neg hr, if_neg, List.cons_append]
          rw [List.mem_cons, not_or]
          exact ⟨fun h => ho h.symm, hr⟩

theorem nodup_insert (hn : s.names.Nodup) (c : Condition) : (s.insert c).2.names.Nodup := by
  have hput := names_put c s.toList
  rw [insert, names, hput]
  split
  · exact hn
  · next hnew => exact hn.append (List.nodup_singleton _) (List.disjoint_singleton.mpr hnew)

theorem nodup_remove (hn : s.names.Nodup) (name : String) : (s.remove name).2.names.Nodup :=
  (List.filter_sublist.map _).nodup hn

/-- A condition that is applied is found under its name; the others are as before. -/
theorem get?_insert (s : ConditionSet) (c : Condition) (name : String) :
    (s.insert c).2.get? name = if c.name = name then some c else s.get? name := by
  simp only [insert, get?]
  induction s.toList with
  | nil => by_cases hc : c.name = name <;> simp [put, hc]
  | cons other rest ih =>
      rw [put]
      by_cases ho : other.name = c.name
      · rw [if_pos ho]
        by_cases hc : c.name = name <;> simp [hc, ho]
      · rw [if_neg ho, List.find?_cons, List.find?_cons, ih]
        by_cases hc : c.name = name
        · have hne : (other.name == name) = false := beq_false_of_ne (hc ▸ ho)
          simp [hc, hne]
        · simp [hc]

/-- A name that is taken away is gone; the others are as before. -/
theorem get?_remove (s : ConditionSet) (taken name : String) :
    (s.remove taken).2.get? name = if taken = name then none else s.get? name := by
  simp only [remove, get?, List.find?_filter]
  by_cases ht : taken = name
  · rw [if_pos ht, List.find?_eq_none]
    simp [ht]
  · rw [if_neg ht]
    congr 1
    funext c
    by_cases hc : c.name = name
    · simp [hc, Ne.symm ht]
    · simp [hc]

/-! ### Aging -/

theorem sublist_names_age (s : ConditionSet) : s.age.2.names.Sublist s.names := by
  have hname : (s.toList.map Condition.tick).map (·.name) = s.names := by
    rw [List.map_map]
    exact List.map_congr_left fun c _ => c.name_tick
  rw [← hname]
  exact List.filter_sublist.map _

theorem nodup_age (hn : s.names.Nodup) : s.age.2.names.Nodup := (sublist_names_age s).nodup hn

/-- The names that end are those of the conditions that have no older one. -/
theorem ended_age (s : ConditionSet) :
    s.age.1 = (s.toList.filter fun c => c.older?.isNone).map (·.name) := by
  simp only [age]
  induction s.toList with
  | nil => rfl
  | cons c rest ih =>
      simp only [List.map_cons, List.filter_cons, Condition.older?]
      by_cases hd : c.tick.duration = 0 <;> simp [hd, ih, Condition.older?]

theorem toList_age (s : ConditionSet) : s.age.2.toList = s.toList.filterMap Condition.older? := by
  simp only [age]
  induction s.toList with
  | nil => rfl
  | cons c rest ih =>
      simp only [List.map_cons, List.filter_cons, List.filterMap_cons, Condition.older?]
      by_cases hd : c.tick.duration = 0 <;> simp [hd, ih, Condition.older?]

theorem name_older? {c : Condition} (h : c.older? = some x) : x.name = c.name := by
  unfold Condition.older? at h
  split at h
  · cases h
  · cases h
    exact c.name_tick

/-- After a round every condition is the older one that it has become. -/
theorem get?_age (hn : s.names.Nodup) (name : String) :
    s.age.2.get? name = (s.get? name).bind Condition.older? := by
  refine Option.ext fun y => ?_
  rw [get?_eq_some_iff (nodup_age hn), toList_age, List.mem_filterMap, Option.bind_eq_some_iff]
  constructor
  · rintro ⟨⟨c, hc, hy⟩, rfl⟩
    exact ⟨c, (get?_eq_some_iff hn).mpr ⟨hc, (name_older? hy).symm⟩, hy⟩
  · rintro ⟨c, hc, hy⟩
    obtain ⟨hm, rfl⟩ := (get?_eq_some_iff hn).mp hc
    exact ⟨⟨c, hm, hy⟩, name_older? hy⟩

/-- A round ends a condition that has no older one, and says so once. -/
theorem count_age (hn : s.names.Nodup) (name : String) :
    s.age.1.count name = if (s.get? name).any (fun c => c.older?.isNone) then 1 else 0 := by
  have hnodup : s.age.1.Nodup := by
    rw [ended_age]
    exact (List.filter_sublist.map _).nodup hn
  have hmem : name ∈ s.age.1 ↔ (s.get? name).any (fun c => c.older?.isNone) = true := by
    rw [ended_age, List.mem_map, Option.any_eq_true]
    constructor
    · rintro ⟨c, hc, rfl⟩
      obtain ⟨hm, hended⟩ := List.mem_filter.mp hc
      exact ⟨c, (get?_eq_some_iff hn).mpr ⟨hm, rfl⟩, hended⟩
    · rintro ⟨c, hc, hended⟩
      obtain ⟨hm, hname⟩ := (get?_eq_some_iff hn).mp hc
      exact ⟨c, List.mem_filter.mpr ⟨hm, hended⟩, hname⟩
  rw [hnodup.count]
  simp only [hmem]

end ConditionSet

/-! ### The conditions of a combatant -/

namespace Event

/-- The event may change the condition of a name. -/
def concerns (name : String) : Event → Bool
  | .addCondition condition => condition.name == name
  | .removeCondition taken => taken == name
  | .ageConditions => true
  | _ => false

end Event

namespace Combatant

variable {c : Combatant} {event : Event} {name : String}

/-- Conditions are changed by events that concern them only. -/
theorem get?_undergo (h : event.concerns name = false) (c : Combatant) :
    (c.undergo event).conditions.get? name = c.conditions.get? name := by
  cases event with
  | addCondition condition =>
      have hne : condition.name ≠ name := by simpa [Event.concerns] using h
      exact (ConditionSet.get?_insert _ _ _).trans (if_neg hne)
  | removeCondition taken =>
      have hne : taken ≠ name := by simpa [Event.concerns] using h
      exact (ConditionSet.get?_remove _ _ _).trans (if_neg hne)
  | ageConditions => cases h
  | spend kind =>
      rw [undergo, attempt_spend]
      split
      · rw [conditions_charge]
      · rfl
  | move feet =>
      rw [undergo, attempt_move]
      split <;> rfl
  | _ => rfl

theorem get?_undergoAll {events : List Event} (h : ∀ event ∈ events, event.concerns name = false)
    (c : Combatant) : (c.undergoAll events).conditions.get? name = c.conditions.get? name := by
  induction events generalizing c with
  | nil => rfl
  | cons event rest ih =>
      rw [undergoAll_cons, ih fun _ hm => h _ (List.mem_cons_of_mem _ hm),
        get?_undergo (h event List.mem_cons_self)]

theorem nodup_undergo (hn : c.conditions.names.Nodup) (event : Event) :
    (c.undergo event).conditions.names.Nodup := by
  cases event with
  | addCondition condition => exact ConditionSet.nodup_insert hn condition
  | removeCondition taken => exact ConditionSet.nodup_remove hn taken
  | ageConditions => exact ConditionSet.nodup_age hn
  | spend kind =>
      rw [undergo, attempt_spend]
      split
      · rw [conditions_charge]
        exact hn
      · exact hn
  | move feet =>
      rw [undergo, attempt_move]
      split <;> exact hn
  | _ => exact hn

/-- Nobody who has lived has two conditions of one name. -/
theorem Lived.names_nodup (h : c.Lived) : c.conditions.names.Nodup :=
  h.induct (motive := fun c => c.conditions.names.Nodup) (fun _ _ => .nil) fun _ event hn =>
    nodup_undergo hn event

end Combatant

end Tabletop
