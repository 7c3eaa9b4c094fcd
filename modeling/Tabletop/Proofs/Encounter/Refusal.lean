import Tabletop.Proofs.Encounter.Walk

/-!
# Encounter — refusals

A refused operation leaves no trace (`Outcome.Atomic`).  Operations that ask before they change
anything are atomic by `Atomic.andThen`.  Two are not of that shape: `attack` rolls before it spends
the action, and `nextTurn` moves the turn before it looks anybody up.  Neither can be refused that
late: an attack by somebody who has their action always takes place (`attack_of_hasAction`), and in
an active fight the turn goes on unless the rounds have run out (`nextTurn_goes_on`).
-/

namespace Tabletop

variable {α β : Type} {e : Encounter}

/-! ### Atomic outcomes -/

namespace Outcome

/-- If the outcome is a refusal, the state is still `e`. -/
def Atomic (e : Encounter) (o : Outcome α) : Prop := ∀ err, o.1 = .error err → o.2 = e

theorem atomic_unchanged (answer : Except EncounterError α) : Atomic e (answer, e) :=
  fun _ _ => rfl

theorem atomic_ok {a : α} {e' : Encounter} : Atomic e (.ok a, e') := fun _ h => nomatch h

/-- Operations in a row are atomic when the first is, and the rest is after its answer. -/
theorem Atomic.andThen {o : Outcome α} {next : α → Encounter → Outcome β} (h : o.Atomic e)
    (hnext : ∀ a, o.1 = .ok a → (next a o.2).Atomic e) : (o.andThen next).Atomic e := by
  rcases o with ⟨a | err, e'⟩
  · exact fun err _ => h _ rfl
  · exact hnext _ rfl

theorem Atomic.map {o : Outcome α} (h : o.Atomic e) (f : α → β) : (o.map f).Atomic e :=
  h.andThen fun _ _ => atomic_ok

end Outcome

namespace Encounter

open Outcome (Atomic atomic_unchanged atomic_ok)

variable {c d : Combatant} {id attacker target : CombatantId} {advantage disadvantage : Bool}

/-! ### Operations on single combatants -/

theorem atomic_lookup : (e.lookup id).Atomic e := fun _ _ => lookup_snd

theorem atomic_change {f : Combatant → α × Combatant} : (e.change id f).Atomic e :=
  atomic_lookup.andThen fun _ _ => atomic_ok

theorem atomic_use {f : Combatant → Except Exhausted Combatant} : (e.use id f).Atomic e := by
  refine atomic_lookup.andThen fun c _ => ?_
  rw [lookup_snd]
  cases f c with
  | ok c' => exact atomic_ok
  | error err => exact atomic_unchanged _

theorem atomic_remove : (e.remove id).Atomic e := atomic_lookup.andThen fun _ _ => atomic_ok

theorem atomic_namesOf (ids : List CombatantId) : (e.namesOf ids).Atomic e :=
  fun _ _ => namesOf_snd e ids

/-! ### Actions -/

theorem atomic_cast (spell : String) (targets : List CombatantId) (level : Nat) :
    (e.cast id spell targets level).Atomic e := by
  refine (atomic_namesOf targets).andThen fun _ _ => ?_
  rw [namesOf_snd]
  exact atomic_use.andThen fun _ _ => atomic_ok

theorem atomic_act (kind : ActionKind) (name description : String) (targets : List CombatantId) :
    (e.act id kind name description targets).Atomic e := by
  refine (atomic_namesOf targets).andThen fun _ _ => ?_
  rw [namesOf_snd]
  exact atomic_use.andThen fun _ _ => atomic_ok

theorem atomic_move (feet : Nat) : (e.move id feet).Atomic e :=
  atomic_use.andThen fun _ _ => atomic_ok

theorem attack_of_unknown_attacker (ha : e.find? attacker = none) :
    e.attack attacker target advantage disadvantage =
      (.error (.unknownCombatant attacker), e) := by
  rw [attack, lookup_of_none ha, Outcome.andThen_error]

theorem attack_of_unknown_target (ha : e.find? attacker = some c) (ht : e.find? target = none) :
    e.attack attacker target advantage disadvantage = (.error (.unknownCombatant target), e) := by
  rw [attack, lookup_of_find? ha, Outcome.andThen_ok, lookup_of_none ht, Outcome.andThen_error]

theorem attack_of_no_action (ha : e.find? attacker = some c) (ht : e.find? target = some d)
    (hc : c.hasAction = false) :
    e.attack attacker target advantage disadvantage =
      (.error (.exhausted (.turn ⟨c.name, .action⟩)), e) := by
  rw [attack, lookup_of_find? ha, Outcome.andThen_ok, lookup_of_find? ht, Outcome.andThen_ok, hc]
  rfl

theorem isSome_find?_replace : ((e.replace c).find? id).isSome = (e.find? id).isSome := by
  rw [find?_replace]
  split
  · exact Option.isSome_map
  · rfl

/-- A blow at somebody at the table is never refused, and the target is still there after it. -/
theorem strike_of_find? (ht : (e.find? target).isSome) (c : Combatant) (hit critical : Bool) :
    ∃ blow e', e.strike c target hit critical = (.ok blow, e') ∧ (e'.find? target).isSome := by
  cases hit with
  | false => exact ⟨_, e, rfl, ht⟩
  | true =>
      obtain ⟨d, hd⟩ := Option.isSome_iff_exists.mp ht
      let r := (rollDamage c.damageDice critical e.roller).2
      have hd' : ({ e with roller := r } : Encounter).find? target = some d := hd
      rw [strike, if_pos rfl]
      dsimp only
      rw [damage, change_of_find? hd', Outcome.andThen_ok]
      refine ⟨_, _, rfl, ?_⟩
      rw [isSome_find?_replace]
      exact ht

/-- An attack by somebody who has their action on somebody at the table takes place: neither the
action nor the target can go missing once the die is cast. -/
theorem attack_of_hasAction (ha : e.find? attacker = some c) (ht : e.find? target = some d)
    (hc : c.hasAction = true) :
    ∃ done e', e.attack attacker target advantage disadvantage = (.ok done, e') := by
  rw [attack, lookup_of_find? ha, Outcome.andThen_ok, lookup_of_find? ht, Outcome.andThen_ok, hc]
  rw [Bool.not_true, if_neg Bool.false_ne_true]
  dsimp only
  have hspend (r : Roller) : ({ e with roller := r } : Encounter).spend attacker .action =
      (.ok (c.charge .action), ({ e with roller := r } : Encounter).replace (c.charge .action)) :=
    spend_of_canSpend (e := { e with roller := r }) ha hc
  rw [hspend, Outcome.andThen_ok]
  -- what is spent and what is dealt changes combatants, but takes nobody from the table
  have hthere (r : Roller) :
      ((({ e with roller := r } : Encounter).replace (c.charge .action)).find? target).isSome := by
    rw [isSome_find?_replace]
    exact Option.isSome_iff_exists.mpr ⟨d, ht⟩
  obtain ⟨blow, e', hstrike, hafter⟩ := strike_of_find? (hthere _) c _ _
  rw [hstrike, Outcome.andThen_ok]
  obtain ⟨after, hafter⟩ := Option.isSome_iff_exists.mp hafter
  rw [lookup_of_find? hafter, Outcome.andThen_ok]
  exact ⟨_, _, rfl⟩

theorem atomic_attack : (e.attack attacker target advantage disadvantage).Atomic e := by
  cases ha : e.find? attacker with
  | none =>
      rw [attack_of_unknown_attacker ha]
      exact atomic_unchanged _
  | some c =>
      cases ht : e.find? target with
      | none =>
          rw [attack_of_unknown_target ha ht]
          exact atomic_unchanged _
      | some d =>
          cases hc : c.hasAction with
          | false =>
              rw [attack_of_no_action ha ht hc]
              exact atomic_unchanged _
          | true =>
              obtain ⟨done, e', h⟩ := attack_of_hasAction ha ht hc
              rw [h]
              exact atomic_ok

/-! ### The course of the fight -/

theorem atomic_start : e.start.Atomic e := by
  by_cases hp : e.phase = .inactive
  · by_cases hne : e.combatants = []
    · rw [start_of_empty hp hne]
      exact atomic_unchanged _
    · rw [start_of_inactive hp hne]
      exact atomic_ok
  · rw [start_of_begun hp]
    exact atomic_unchanged _

theorem atomic_nextTurn (hc : e.Consistent) : e.nextTurn.Atomic e := by
  by_cases ha : e.phase = .active
  · rcases nextTurn_goes_on hc ha with ⟨advance, e', h⟩ | ⟨-, h⟩
    · rw [h]
      exact atomic_ok
    · rw [h]
      exact atomic_unchanged _
  · rw [nextTurn_of_not_active ha]
    exact atomic_unchanged _

/-- The turn is ended by whoever has it, and by nobody else. -/
theorem endTurn_cases (ha : e.phase = .active) (id : CombatantId) :
    (e.order[e.turn]? = some id ∧ e.endTurn id = e.nextTurn) ∨
      (e.order[e.turn]? ≠ some id ∧
        e.endTurn id = (.error (.notYourTurn id e.order[e.turn]?), e)) := by
  by_cases ht : e.order[e.turn]? = some id
  · exact .inl ⟨ht, by rw [endTurn, if_neg (not_not.mpr ha), if_neg (not_not.mpr ht)]⟩
  · exact .inr ⟨ht, by rw [endTurn, if_neg (not_not.mpr ha), if_pos ht]⟩

theorem endTurn_of_not_active (ha : e.phase ≠ .active) (id : CombatantId) :
    e.endTurn id = (.error (.notActive e.phase), e) := by
  rw [endTurn, if_pos ha]

theorem atomic_endTurn (hc : e.Consistent) (id : CombatantId) : (e.endTurn id).Atomic e := by
  by_cases ha : e.phase = .active
  · rcases endTurn_cases ha id with ⟨-, h⟩ | ⟨-, h⟩
    · rw [h]
      exact atomic_nextTurn hc
    · rw [h]
      exact atomic_unchanged _
  · rw [endTurn_of_not_active ha]
    exact atomic_unchanged _

theorem atomic_pause : e.pause.Atomic e := by
  unfold pause
  split
  · exact atomic_unchanged _
  · exact atomic_ok

theorem atomic_resume : e.resume.Atomic e := by
  unfold resume
  split
  · exact atomic_unchanged _
  · exact atomic_ok

/-! ### Commands -/

/-- No command leaves a trace when it is refused. -/
theorem atomic_perform (hc : e.Consistent) (command : Command) :
    (e.perform command).Atomic e := by
  cases command with
  | add s => exact atomic_ok
  | remove id => exact atomic_remove.map _
  | start => exact atomic_start.map _
  | nextTurn => exact (atomic_nextTurn hc).map _
  | endTurn id => exact (atomic_endTurn hc id).map _
  | pause => exact atomic_pause.map _
  | resume => exact atomic_resume.map _
  | finish => exact atomic_ok
  | damage id amount d => exact atomic_change.map _
  | heal id amount => exact atomic_change.map _
  | applyCondition id x => exact atomic_change.map _
  | removeCondition id name => exact atomic_change.map _
  | attack attacker target advantage disadvantage => exact atomic_attack.map _
  | cast caster spell targets level => exact (atomic_cast spell targets level).map _
  | act actor kind name description targets => exact (atomic_act kind name description targets).map _
  | move id feet => exact (atomic_move feet).map _
  | roll request => exact atomic_ok

end Encounter

end Tabletop
