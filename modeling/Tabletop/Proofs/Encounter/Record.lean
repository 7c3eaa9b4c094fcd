import Tabletop.Proofs.Encounter.Deed

/-!
# Encounter — what is recorded

What the operations of a fight write to its log.  A deed writes one entry, in the round in which it
is done (`Done.entries`), and no other command writes anything (`log_perform`): neither the roll of
the dice, nor what merely happens to a combatant, nor the course of the turns.
-/

namespace Tabletop

namespace Encounter

variable {e e' : Encounter} {id attacker target : CombatantId} {command : Command} {deed : Deed}
  {advantage disadvantage : Bool} {dealt : List DamageEntry}

/-! ### Deeds -/

/-- What is dealt is not recorded by itself, and takes no time. -/
theorem Dealt.log_round (h : Dealt e dealt e') : e'.log = e.log ∧ e'.round = e.round := by
  cases h <;> exact ⟨rfl, rfl⟩

/-- The entry for a deed that is done now. -/
def entryOf (e : Encounter) (deed : Deed) : LogEntry :=
  { deed with id := e.log.nextId, round := e.round }

theorem entries_record (e : Encounter) (deed : Deed) :
    (e.record deed).2.log.entries.toList = e.log.entries.toList ++ [e.entryOf deed] :=
  Array.toList_push

/-- A deed is recorded once, in the round in which it is done. -/
theorem Done.entries (h : Done e command deed e') :
    e'.log.entries.toList = e.log.entries.toList ++ [e.entryOf deed] := by
  cases h with
  | intro hp hc ha r hd =>
      obtain ⟨hlog, hround⟩ := hd.log_round
      rw [entries_record, entryOf, hlog, hround]
      rfl

theorem Done.round (h : Done e command deed e') : e'.round = e.round := by
  cases h with
  | intro hp hc ha r hd => exact hd.log_round.2

/-- An attack that takes place is recorded once: as an attack of the one on the other, in the round
in which it is made. -/
theorem attack_records {done : Attack}
    (h : e.attack attacker target advantage disadvantage = (.ok done, e')) :
    ∃ entry : LogEntry, e'.log.entries.toList = e.log.entries.toList ++ [entry] ∧
      entry.actor = attacker ∧ entry.kind = .action ∧ entry.name = "Attack" ∧
      entry.targets = [target] ∧ entry.round = e.round := by
  obtain ⟨deed, hdone, hactor, hkind, hname, htargets⟩ := done_attack h
  exact ⟨_, hdone.entries, hactor, hkind, hname, htargets, rfl⟩

/-! ### Everything else -/

theorem log_change {α : Type} {f : Combatant → α × Combatant} :
    (e.change id f).2.log = e.log := by
  cases h : e.find? id with
  | none => rw [change_of_none h]
  | some c =>
      rw [change_of_find? h]
      rfl

@[simp] theorem log_visit {stop : CombatantId × Nat} : (e.visit stop).2.log = e.log := by
  rw [visit_snd]

@[simp] theorem log_walk {places : List (CombatantId × Nat)} : (e.walk places).log = e.log := by
  induction places generalizing e with
  | nil => rfl
  | cons stop rest ih => rw [walk, ih, log_visit]

/-- The course of the fight is not recorded. -/
theorem Step.log {reply : Except EncounterError Reply} (h : Step e command reply e')
    (hs : command.isSteady = false) : e'.log = e.log := by
  cases h with
  | plain hc => exact nomatch hs.symm.trans hc
  | turned => exact log_walk
  | _ => rfl

/-- A command by which nobody acts is not recorded. -/
theorem log_perform (hc : e.Consistent) (hd : command.isDeed = false) :
    (e.perform command).2.log = e.log := by
  cases command with
  | damage | heal | applyCondition | removeCondition =>
      rw [perform, Outcome.map_snd]
      exact log_change
  | roll request => rfl
  | attack | cast | act | move => cases hd
  | _ => exact (step_perform hc _).log rfl

end Encounter

end Tabletop
