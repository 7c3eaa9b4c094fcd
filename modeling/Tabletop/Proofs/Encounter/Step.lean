import Tabletop.Proofs.Encounter.Refusal

/-!
# Encounter — one step

Everything that a command can do to a fight, said once (`Step`).  A command is refused and changes
nothing, or it does something to those in the fight, or it moves the fight on in one of eight ways.
`step_perform` shows that every command carried out in a consistent fight is one of these steps;
what holds of every step is then shown by cases, without looking at an operation again.
-/

namespace Tabletop

variable {α β : Type}

/-- The reply tells of something done to those in the fight, or of a roll. -/
def Reply.isPlain : Reply → Bool
  | .joined _ | .left _ | .started _ | .advanced _ | .done | .finished _ => false
  | _ => true

/-- An outcome with another answer is a refusal, or its answer is that other one. -/
theorem Outcome.map_cases (f : α → β) (o : Outcome α) :
    (∃ err, o.1 = .error err ∧ o.map f = (.error err, o.2)) ∨
      ∃ a, o.1 = .ok a ∧ o.map f = (.ok (f a), o.2) := by
  rcases o with ⟨err | a, e⟩
  · exact .inl ⟨err, rfl, rfl⟩
  · exact .inr ⟨a, rfl, rfl⟩

namespace Encounter

variable {e e' : Encounter} {command : Command} {reply : Except EncounterError Reply}

/-- What a command can do: its reply, and the state after it. -/
inductive Step (e : Encounter) : Command → Except EncounterError Reply → Encounter → Prop
  /-- The command is refused. -/
  | refused {command : Command} (err : EncounterError) : Step e command (.error err) e
  /-- Something happens to those in the fight, or the dice are rolled. -/
  | plain {command : Command} {reply : Reply} {e' : Encounter} (hc : command.isSteady = true)
      (hr : reply.isPlain = true) (h : Touches command.Causes e e') : Step e command (.ok reply) e'
  /-- Somebody joins. -/
  | joined (s : StatBlock) : Step e (.add s) (.ok (.joined ⟨e.nextNumber⟩)) (e.add s).2
  /-- Somebody leaves. -/
  | left {id : CombatantId} {c : Combatant} (h : e.find? id = some c) :
      Step e (.remove id) (.ok (.left c)) (e.without id)
  /-- The fight begins. -/
  | begun (hp : e.phase = .inactive) (hne : e.combatants ≠ []) (report : InitiativeReport) :
      Step e .start (.ok (.started report)) e.begun
  /-- The turn goes on to the next who may act. -/
  | turned {command : Command} {passed : List (CombatantId × Nat)} {stop : CombatantId × Nat}
      {info : TurnInfo} (hc : command = .nextTurn ∨ ∃ id, command = .endTurn id)
      (ha : e.phase = .active) (h : Turned e passed stop info) (hr : info.round ≤ Count.greatest) :
      Step e command (.ok (.advanced (.turn info))) (e.walk (passed ++ [stop]))
  /-- Nobody may act, and the turn stays where it is. -/
  | nobody {command : Command} (hc : command = .nextTurn ∨ ∃ id, command = .endTurn id)
      (ha : e.phase = .active) (h : e.someoneCanAct = false) :
      Step e command (.ok (.advanced (.noneLiving e.round))) e
  /-- The fight is suspended. -/
  | paused (hp : e.phase = .active) : Step e .pause (.ok .done) { e with phase := .paused }
  /-- The fight goes on. -/
  | resumed (hp : e.phase = .paused) : Step e .resume (.ok .done) { e with phase := .active }
  /-- The fight is over. -/
  | finished : Step e .finish (.ok (.finished e.summary)) { e with phase := .ended }

/-! ### Every command is a step -/

/-- A steady command gives a plain reply, or none. -/
theorem isPlain_perform (hs : command.isSteady = true) {answer : Reply}
    (h : (e.perform command).1 = .ok answer) : answer.isPlain = true := by
  -- the reply is made of the answer by one constructor, whatever the answer is
  have hmap {α : Type} {f : α → Reply} (hf : ∀ a, (f a).isPlain = true) {o : Outcome α}
      (ho : (o.map f).1 = .ok answer) : answer.isPlain = true := by
    rcases Outcome.map_cases f o with ⟨err, -, heq⟩ | ⟨a, -, heq⟩ <;> rw [heq] at ho <;> cases ho
    exact hf a
  cases command with
  | damage | heal | applyCondition | removeCondition | attack | cast | act | move | roll =>
      exact hmap (fun _ => rfl) h
  | _ => cases hs

theorem step_steady (hn : e.ids.Nodup) (ha : (e.perform command).Atomic e)
    (hs : command.isSteady = true) :
    Step e command (e.perform command).1 (e.perform command).2 := by
  have htouches := touches_perform hn hs
  have hplain := @isPlain_perform e command hs
  rcases h : e.perform command with ⟨err | answer, e'⟩
  · rw [h] at ha
    rw [show e' = e from ha err rfl]
    exact .refused err
  · rw [h] at htouches hplain
    exact .plain hs (hplain rfl) htouches

theorem step_nextTurn (hc : e.Consistent) (ha : e.phase = .active)
    (hcmd : command = .nextTurn ∨ ∃ id, command = .endTurn id) :
    Step e command (e.nextTurn.map Reply.advanced).1 (e.nextTurn.map Reply.advanced).2 := by
  rcases nextTurn_cases hc ha with ⟨hs, h⟩ | ⟨passed, stop, info, ht, ⟨hr, h⟩ | ⟨-, h⟩⟩
  · rw [h]
    exact .nobody hcmd ha hs
  · rw [h]
    exact .turned hcmd ha ht hr
  · rw [h]
    exact .refused _

theorem step_start : Step e .start (e.perform .start).1 (e.perform .start).2 := by
  rw [perform]
  by_cases hp : e.phase = .inactive
  · by_cases hne : e.combatants = []
    · rw [start_of_empty hp hne]
      exact .refused _
    · rw [start_of_inactive hp hne]
      exact .begun hp hne _
  · rw [start_of_begun hp]
    exact .refused _

theorem step_remove (id : CombatantId) :
    Step e (.remove id) (e.perform (.remove id)).1 (e.perform (.remove id)).2 := by
  rw [perform]
  cases h : e.find? id with
  | none =>
      rw [remove_of_none h]
      exact .refused _
  | some c =>
      rw [remove_of_find? h]
      exact .left h

theorem step_endTurn (hc : e.Consistent) (id : CombatantId) :
    Step e (.endTurn id) (e.perform (.endTurn id)).1 (e.perform (.endTurn id)).2 := by
  rw [perform]
  by_cases ha : e.phase = .active
  · rcases endTurn_cases ha id with ⟨-, h⟩ | ⟨-, h⟩
    · rw [h]
      exact step_nextTurn hc ha (.inr ⟨id, rfl⟩)
    · rw [h]
      exact .refused _
  · rw [endTurn_of_not_active ha]
    exact .refused _

/-- **Every command is a step.**  In a consistent fight a command does one of the things that
`Step` lists, and nothing else. -/
theorem step_perform (hc : e.Consistent) (command : Command) :
    Step e command (e.perform command).1 (e.perform command).2 := by
  cases hs : command.isSteady with
  | true => exact step_steady hc.nodup (atomic_perform hc command) hs
  | false =>
      cases command with
      | add s => exact .joined s
      | remove id => exact step_remove id
      | start => exact step_start
      | nextTurn =>
          rw [perform]
          by_cases ha : e.phase = .active
          · exact step_nextTurn hc ha (.inl rfl)
          · rw [nextTurn_of_not_active ha]
            exact .refused _
      | endTurn id => exact step_endTurn hc id
      | pause =>
          rw [perform, pause]
          by_cases hp : e.phase = .active
          · rw [if_neg (not_not.mpr hp)]
            exact .paused hp
          · rw [if_pos hp]
            exact .refused _
      | resume =>
          rw [perform, resume]
          by_cases hp : e.phase = .paused
          · rw [if_neg (not_not.mpr hp)]
            exact .resumed hp
          · rw [if_pos hp]
            exact .refused _
      | finish => exact .finished
      | _ => cases hs

/-! ### What every step keeps -/

/-- A step keeps a fight consistent. -/
theorem Step.consistent (h : Step e command reply e') (hc : e.Consistent) : e'.Consistent := by
  cases h with
  | refused err => exact hc
  | plain _ _ h => exact h.consistent hc
  | joined s => exact consistent_add hc s
  | left h => exact consistent_without hc
  | begun hp hne report => exact consistent_begun hc hne
  | turned _ ha ht hr =>
      obtain ⟨rest, hup⟩ := ht.way
      exact consistent_walk hc ha ht.turn_lt hup (ht.round ▸ hr)
  | nobody _ ha hs => exact hc
  | paused hp =>
      exact hc.withPhase Phase.noConfusion Phase.noConfusion fun _ => hc.running (.inl hp)
  | resumed hp =>
      exact hc.withPhase Phase.noConfusion Phase.noConfusion fun _ => hc.running (.inr hp)
  | finished =>
      exact hc.withPhase Phase.noConfusion Phase.noConfusion
        fun h => h.elim Phase.noConfusion Phase.noConfusion

/-- By a step somebody joins, or somebody leaves, or everybody stays and has met with nothing but
what the command causes. -/
theorem Step.befalls (h : Step e command reply e') (hn : e.ids.Nodup) :
    (∃ s, command = .add s ∧ e' = (e.add s).2) ∨
      (∃ id, command = .remove id ∧ e' = e.without id) ∨ Befalls command.Causes e e' := by
  cases h with
  | joined s => exact .inl ⟨s, rfl, rfl⟩
  | left h => exact .inr (.inl ⟨_, rfl, rfl⟩)
  | plain _ _ h => exact .inr (.inr h.befalls)
  | begun hp hne report => exact .inr (.inr (befalls_begun e))
  | turned hc ha ht => exact .inr (.inr (befalls_walk hn (.refresh hc) (.age hc)))
  | refused | nobody | paused | resumed | finished => exact .inr (.inr (.refl e))

theorem Step.settings (h : Step e command reply e') (hn : e.ids.Nodup) :
    e'.settings = e.settings := by
  cases h with
  | plain _ _ h => exact h.settings
  | turned _ _ ht => exact (keepsTable_walk hn).settings
  | _ => rfl

/-- A fight that has begun stays begun, and one that is over stays over. -/
theorem Step.phase (h : Step e command reply e') :
    (e.phase ≠ .inactive → e'.phase ≠ .inactive) ∧ (e.phase = .ended → e'.phase = .ended) := by
  cases h with
  | refused err => exact ⟨fun h => h, fun h => h⟩
  | plain _ _ h => exact h.phase ▸ ⟨fun h => h, fun h => h⟩
  | joined s => exact ⟨fun h => h, fun h => h⟩
  | left h => exact ⟨fun h => h, fun h => h⟩
  | begun hp hne report => exact ⟨fun h => absurd hp h, fun h => nomatch hp.symm.trans h⟩
  | turned _ ha ht => exact phase_walk.symm ▸ ⟨fun h => h, fun h => h⟩
  | nobody _ ha hs => exact ⟨fun h => h, fun h => h⟩
  | paused hp => exact ⟨fun _ => Phase.noConfusion, fun h => nomatch hp.symm.trans h⟩
  | resumed hp => exact ⟨fun _ => Phase.noConfusion, fun h => nomatch hp.symm.trans h⟩
  | finished => exact ⟨fun _ => Phase.noConfusion, fun _ => rfl⟩

end Encounter

end Tabletop
