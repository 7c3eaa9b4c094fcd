import Mathlib.Data.List.Count
import Tabletop.Proofs.Creature.Condition
import Tabletop.Proofs.Encounter.Fairness

/-!
# Encounter — how long conditions last

A condition of somebody at the table grows older by turns alone: with every round or with every
turn of its holder, as the rules of the fight say (`agings`).  `Elapses` relates a state to a later
one by the rounds that a condition has grown older between them, and by what was told of its end; it
is shown for one visit, for the way of a turn, for a step and for a run.  For a whole run it is
`condition_lifetime`: the condition lasts as many rounds as its duration says, and its end is told
once, by the reply that brings it about.
-/

namespace Tabletop

/-- The command neither removes the combatant nor applies or takes away the condition. -/
def Command.spares (id : CombatantId) (name : String) : Command → Bool
  | .remove other => other != id
  | .applyCondition other condition => other != id || condition.name != name
  | .removeCondition other taken => other != id || taken != name
  | _ => true

namespace Encounter

variable {e e' e'' : Encounter} {c : Combatant} {id : CombatantId} {name : String} {n n' : Nat}
  {ended ended' : List (CombatantId × String)} {stop : CombatantId × Nat}
  {places : List (CombatantId × Nat)} {command : Command} {reply : Except EncounterError Reply}

/-! ### What replies tell -/

/-- The conditions that have ended by a reply. -/
def expired : Except EncounterError Reply → List (CombatantId × String)
  | .ok (.advanced (.turn info)) => info.expired
  | _ => []

/-- The reply tells of a round that begins. -/
def opensRound : Except EncounterError Reply → Bool
  | .ok (.advanced (.turn info)) => info.newRound
  | _ => false

/-- How often the conditions of a combatant have grown older by some replies: with every round that
began, or with every visit to the combatant. -/
def agings (timing : ConditionTiming) (id : CombatantId)
    (replies : List (Except EncounterError Reply)) : Nat :=
  match timing with
  | .roundEnd => replies.countP opensRound
  | .turnStart => (replies.flatMap visited).count id

theorem agings_cons (timing : ConditionTiming) (id : CombatantId)
    (reply : Except EncounterError Reply) (replies : List (Except EncounterError Reply)) :
    agings timing id (reply :: replies) = agings timing id [reply] + agings timing id replies := by
  cases timing with
  | roundEnd => rw [agings, agings, agings, ← List.singleton_append, List.countP_append]
  | turnStart =>
      rw [agings, agings, agings, ← List.singleton_append, List.flatMap_append, List.count_append]

/-- Nobody's conditions grow older by the reply, and it does not tell of any that end. -/
def Ageless (reply : Except EncounterError Reply) : Prop :=
  expired reply = [] ∧ ∀ timing id, agings timing id [reply] = 0

theorem ageless_error (err : EncounterError) : Ageless (.error err) :=
  ⟨rfl, fun timing _ => by cases timing <;> rfl⟩

theorem ageless_ok {answer : Reply} (h : ∀ info, answer ≠ .advanced (.turn info)) :
    Ageless (.ok answer) := by
  cases answer with
  | advanced advance =>
      cases advance with
      | turn info => exact absurd rfl (h info)
      | noneLiving round => exact ⟨rfl, fun timing _ => by cases timing <;> rfl⟩
  | _ => exact ⟨rfl, fun timing _ => by cases timing <;> rfl⟩

/-! ### Rounds that elapse -/

/-- From `e` to `e'` a condition grows `n` rounds older, and `ended` tells as often as it ends. -/
def Elapses (id : CombatantId) (name : String) (e : Encounter) (n : Nat)
    (ended : List (CombatantId × String)) (e' : Encounter) : Prop :=
  ∀ (x : Condition) (k : Nat) (c : Combatant), e.find? id = some c →
    c.conditions.get? name = x.after k →
    (∃ c', e'.find? id = some c' ∧ c'.conditions.get? name = x.after (k + n)) ∧
      ended.count (id, name) = x.expiries k (k + n)

theorem elapses_zero (h : ∀ c, e.find? id = some c →
      ∃ c', e'.find? id = some c' ∧ c'.conditions.get? name = c.conditions.get? name) :
    Elapses id name e 0 [] e' := by
  intro x k c hc hx
  obtain ⟨c', hc', hsame⟩ := h c hc
  exact ⟨⟨c', hc', hsame.trans hx⟩, (x.expiries_self k).symm⟩

theorem Elapses.refl (e : Encounter) : Elapses id name e 0 [] e :=
  elapses_zero fun c hc => ⟨c, hc, rfl⟩

theorem Elapses.append (h : Elapses id name e n ended e') (h' : Elapses id name e' n' ended' e'') :
    Elapses id name e (n + n') (ended ++ ended') e'' := by
  intro x k c hc hx
  obtain ⟨⟨c', hc', hx'⟩, hcount⟩ := h x k c hc hx
  obtain ⟨hlast, hcount'⟩ := h' x (k + n) c' hc' hx'
  rw [Nat.add_assoc] at hlast hcount'
  rw [List.count_append, hcount, hcount', x.expiries_add (by omega) (by omega)]
  exact ⟨hlast, rfl⟩

/-! ### One visit -/

/-- A visit makes the conditions of a combatant grow older: by the round that it opens, or by the
turn that it gives. -/
def growsOlder (timing : ConditionTiming) (id : CombatantId) (stop : CombatantId × Nat) : Bool :=
  match timing with
  | .roundEnd => stop.2 == 0
  | .turnStart => stop.1 == id

theorem count_tagged (id other : CombatantId) (names : List String) (name : String) :
    (names.map fun name => (other, name)).count (id, name) =
      if other = id then names.count name else 0 := by
  by_cases ho : other = id
  · subst ho
    rw [if_pos rfl]
    exact List.count_map_of_injective _ _ (fun _ _ h => (Prod.mk.inj h).2) _
  · rw [if_neg ho, List.count_eq_zero]
    simp [ho]

/-- What is told of a combatant when everybody's conditions grow older. -/
theorem count_ageAll (hn : e.ids.Nodup) (hc : e.find? id = some c) (name : String) :
    e.ageAll.1.count (id, name) = c.conditions.age.1.count name := by
  simp only [ageAll, find?, ids] at hn hc ⊢
  generalize e.combatants = l at hn hc ⊢
  induction l with
  | nil => cases hc
  | cons other rest ih =>
      obtain ⟨hnew, hn⟩ := List.nodup_cons.mp hn
      rw [List.flatMap_cons, List.count_append, count_tagged]
      by_cases ho : other.id = id
      · -- nobody further on has the same identity
        have hrest : (rest.flatMap fun c =>
            c.ageConditions.1.map fun name => (c.id, name)).count (id, name) = 0 := by
          rw [List.count_eq_zero]
          intro hm
          obtain ⟨d, hd, hm⟩ := List.mem_flatMap.mp hm
          obtain ⟨_, -, htag⟩ := List.mem_map.mp hm
          exact hnew (List.mem_map.mpr ⟨d, hd, (Prod.mk.inj htag).1.trans ho.symm⟩)
        rw [List.find?_cons_of_pos (by simp [ho])] at hc
        cases hc
        rw [if_pos ho, hrest]
        rfl
      · rw [List.find?_cons_of_neg (by simp [ho])] at hc
        rw [if_neg ho, Nat.zero_add]
        exact ih hn hc

theorem conditions_visit (stop : CombatantId × Nat) (hc : e.find? id = some c) :
    ∃ c', (e.visit stop).2.find? id = some c' ∧ c'.conditions =
      if growsOlder e.settings.conditionTiming id stop then c.conditions.age.2
      else c.conditions := by
  obtain ⟨other, place⟩ := stop
  refine ⟨_, by rw [find?_visit, hc, Option.map_some], ?_⟩
  cases e.settings.conditionTiming with
  | roundEnd =>
      by_cases hp : place = 0 <;> by_cases ho : id = other <;>
        simp [growsOlder, aged, refresh, hp, ho, Combatant.resetTurn, Combatant.ageConditions]
  | turnStart =>
      by_cases ho : id = other
      · simp [growsOlder, aged, refresh, ho, Combatant.resetTurn, Combatant.ageConditions]
      · simp [growsOlder, aged, ho, Ne.symm ho]

theorem moveTo_fst (e : Encounter) (place : Nat) : (e.moveTo place).1 =
    match e.settings.conditionTiming with
    | .roundEnd => if place = 0 then e.ageAll.1 else []
    | .turnStart => [] := by
  unfold moveTo
  by_cases hp : place = 0
  · simp only [hp, if_true]
    cases e.settings.conditionTiming <;> rfl
  · simp only [hp, if_false]
    cases e.settings.conditionTiming <;> rfl

theorem count_visitEndings (hn : e.ids.Nodup) (hs : stop.1 ∈ e.ids) (hc : e.find? id = some c)
    (name : String) : (e.visitEndings stop).count (id, name) =
      if growsOlder e.settings.conditionTiming id stop then c.conditions.age.1.count name
      else 0 := by
  obtain ⟨other, place⟩ := stop
  obtain ⟨d, hd⟩ := exists_find?_of_mem_ids hs
  rw [visitEndings, visit_of_find? hd]
  dsimp only
  rw [List.count_append, count_tagged, moveTo_fst]
  cases e.settings.conditionTiming with
  | roundEnd =>
      by_cases hp : place = 0
      · simp [growsOlder, refresh, hp, count_ageAll hn hc]
      · simp [growsOlder, refresh, hp]
  | turnStart =>
      by_cases ho : other = id
      · subst ho
        cases hc.symm.trans hd
        simp [growsOlder, refresh, aged, Combatant.resetTurn, Combatant.ageConditions]
      · simp [growsOlder, ho]

theorem elapses_visit (hn : e.ids.Nodup) (hl : ∀ c ∈ e.combatants, c.Lived) (hs : stop.1 ∈ e.ids) :
    Elapses id name e (growsOlder e.settings.conditionTiming id stop).toNat (e.visitEndings stop)
      (e.visit stop).2 := by
  intro x k c hc hx
  obtain ⟨c', hc', hcond⟩ := conditions_visit stop hc
  have hnames : c.conditions.names.Nodup := (hl c (mem_of_find? hc)).names_nodup
  refine ⟨⟨c', hc', ?_⟩, ?_⟩
  · rw [hcond]
    cases growsOlder e.settings.conditionTiming id stop with
    | true => rw [if_pos rfl, ConditionSet.get?_age hnames, hx, Bool.toNat_true, x.after_succ]
    | false => exact hx
  · rw [count_visitEndings hn hs hc]
    cases growsOlder e.settings.conditionTiming id stop with
    | true => rw [if_pos rfl, ConditionSet.count_age hnames, hx, Bool.toNat_true, x.expiries_succ]
    | false => exact (x.expiries_self k).symm

/-! ### The way of a turn -/

theorem elapses_walk (hn : e.ids.Nodup) (hl : ∀ c ∈ e.combatants, c.Lived)
    (hin : ∀ stop ∈ places, stop.1 ∈ e.ids) :
    Elapses id name e (places.countP (growsOlder e.settings.conditionTiming id)) (e.endings places)
      (e.walk places) := by
  induction places generalizing e with
  | nil => exact .refl e
  | cons stop rest ih =>
      have hids : (e.visit stop).2.ids = e.ids := (keepsTable_visit hn).ids
      have hbefalls : Befalls (fun _ _ => True) e (e.visit stop).2 :=
        befalls_visit hn (fun _ => trivial) fun _ => trivial
      have hfirst : Elapses id name e _ _ (e.visit stop).2 :=
        elapses_visit hn hl (hin stop List.mem_cons_self)
      have hrest := ih (e := (e.visit stop).2) (hids ▸ hn) (hbefalls.lived hl)
        fun s hs => hids ▸ hin s (List.mem_cons_of_mem _ hs)
      rw [settings_visit] at hrest
      have hcount : (stop :: rest).countP (growsOlder e.settings.conditionTiming id) =
          (growsOlder e.settings.conditionTiming id stop).toNat +
            rest.countP (growsOlder e.settings.conditionTiming id) := by
        rw [List.countP_cons, Nat.add_comm]
        cases growsOlder e.settings.conditionTiming id stop <;> rfl
      rw [hcount]
      exact hfirst.append hrest

/-- The reply of a turn tells how often conditions have grown older on its way. -/
theorem Turned.agings {passed : List (CombatantId × Nat)} {info : TurnInfo}
    (h : Turned e passed stop info) (timing : ConditionTiming) (id : CombatantId) :
    agings timing id [.ok (.advanced (.turn info))] =
      (passed ++ [stop]).countP (growsOlder timing id) := by
  cases timing with
  | turnStart =>
      rw [Encounter.agings, List.flatMap_singleton, h.visited, List.count, List.countP_map]
      rfl
  | roundEnd =>
      -- a round begins once on the way, or never
      obtain ⟨rest, hup⟩ := h.way
      have hle := round_walk_le h.turn_lt hup
      rw [round_walk] at hle
      have hcount : (passed ++ [stop]).countP (growsOlder .roundEnd id) =
          (passed ++ [stop]).countP (·.2 == 0) := rfl
      have hone : Encounter.agings .roundEnd id [.ok (.advanced (.turn info))] =
          if info.newRound then 1 else 0 := List.countP_singleton
      rw [hone, h.newRound, hcount]
      cases hany : (passed ++ [stop]).any (·.2 == 0) with
      | true =>
          have hpos : 0 < (passed ++ [stop]).countP (·.2 == 0) := by
            rw [List.countP_pos_iff]
            exact List.any_eq_true.mp hany
          rw [if_pos rfl]
          omega
      | false =>
          rw [if_neg Bool.false_ne_true, eq_comm, List.countP_eq_zero]
          exact List.any_eq_false.mp hany

/-! ### Steps and runs -/

theorem concerns_of_causes {event : Event} (h : command.Causes id event)
    (hs : command.spares id name = true)
    (ht : ¬ (command = .nextTurn ∨ ∃ other, command = .endTurn other)) :
    event.concerns name = false := by
  cases h with
  | addCondition _ condition => simpa [Command.spares, Event.concerns] using hs
  | removeCondition _ taken => simpa [Command.spares, Event.concerns] using hs
  | age hc => exact absurd hc ht
  | _ => rfl

/-- Where nothing happens to a combatant that concerns a condition, no round of it elapses. -/
theorem Befalls.elapses {P : CombatantId → Event → Prop} (h : Befalls P e e')
    (hp : ∀ event, P id event → event.concerns name = false) : Elapses id name e 0 [] e' := by
  refine elapses_zero fun c hc => ?_
  obtain ⟨c', hc', events, hevents, rfl⟩ := h.exists_find? hc
  refine ⟨_, hc', Combatant.get?_undergoAll (fun event hm => hp event ?_) c⟩
  rw [← id_of_find? hc]
  exact hevents event hm

/-- By every step that spares a condition as many rounds of it elapse as the reply tells. -/
theorem Step.elapses (h : Step e command reply e') (hc : e.Consistent)
    (hl : ∀ c ∈ e.combatants, c.Lived) (hs : command.spares id name = true) :
    Elapses id name e (agings e.settings.conditionTiming id [reply]) (expired reply) e' := by
  -- a reply that tells of no turn tells of no aging
  have hno {e' : Encounter} {reply : Except EncounterError Reply} (hr : Ageless reply)
      (h : Elapses id name e 0 [] e') :
      Elapses id name e (agings e.settings.conditionTiming id [reply]) (expired reply) e' := by
    rw [hr.1, hr.2]
    exact h
  cases h with
  | refused err => exact hno (ageless_error err) (.refl e)
  | @plain _ answer _ hsteady hplain h =>
      refine hno (ageless_ok fun info hinfo => ?_) (h.befalls.elapses fun event hcause =>
        concerns_of_causes hcause hs ?_)
      · rw [hinfo] at hplain
        cases hplain
      · rintro (rfl | ⟨other, rfl⟩) <;> cases hsteady
  | joined s => exact hno (ageless_ok nofun) (elapses_zero fun c hc => ⟨c, find?_add hc s, rfl⟩)
  | left h =>
      have hkept := find?_without (e := e) (bne_iff_ne.mp hs).symm
      exact hno (ageless_ok nofun) (elapses_zero fun c hc => ⟨c, hkept.trans hc, rfl⟩)
  | begun hp hne report =>
      refine hno (ageless_ok nofun) ((befalls_begun e).elapses fun event hcause =>
        concerns_of_causes hcause hs ?_)
      rintro (h | ⟨other, h⟩) <;> cases h
  | turned _ ha ht =>
      obtain ⟨rest, hup⟩ := ht.way
      rw [ht.agings]
      have hexp : expired (.ok (.advanced (.turn _))) = _ := ht.expired
      rw [hexp]
      refine elapses_walk hc.nodup hl fun s hm => ?_
      refine hc.order_ids _ ((mem_order_iff_upcoming ht.turn_lt).mpr ⟨s, ?_, rfl⟩)
      rw [hup]
      exact List.mem_append_left _ hm
  | nobody | paused | resumed | finished =>
      exact hno (ageless_ok nofun) (elapses_zero fun c hc => ⟨c, hc, rfl⟩)

theorem elapses_performAll (hc : e.Consistent) (hl : ∀ c ∈ e.combatants, c.Lived)
    {commands : List Command} (hs : ∀ command ∈ commands, command.spares id name = true) :
    Elapses id name e (agings e.settings.conditionTiming id (e.performAll commands).1)
      ((e.performAll commands).1.flatMap expired) (e.performAll commands).2 := by
  induction commands generalizing e with
  | nil =>
      have hzero : agings e.settings.conditionTiming id (e.performAll []).1 = 0 := by
        cases e.settings.conditionTiming <;> rfl
      rw [hzero]
      exact .refl e
  | cons command rest ih =>
      have hstep := step_perform hc command
      have hfirst := hstep.elapses hc hl (hs command List.mem_cons_self)
      have hrest := ih (hstep.consistent hc) (hstep.lived hc.nodup hl)
        fun other hm => hs other (List.mem_cons_of_mem _ hm)
      rw [hstep.settings hc.nodup] at hrest
      rw [performAll_cons, agings_cons, List.flatMap_cons]
      exact hfirst.append hrest

/-- **Conditions last as long as they say.**  In a run that leaves a condition of somebody at the
table to itself, let `k` be the number of times that it has grown older so far: the rounds that
began, or the turns of its holder, given or passed over, as the rules of the fight say.  A condition
of negative duration stays as it is and is never told to end.  Any other is there with `k` rounds
less while fewer have passed than it lasts, which is one at least, and is gone afterwards.  Its end
is told once over the whole run, by the reply that brings `k` to the rounds that it lasts. -/
theorem condition_lifetime {x : Condition} (h : Reachable e) (hc : e.find? id = some c)
    (hx : c.conditions.get? name = some x) {commands : List Command}
    (hs : ∀ command ∈ commands, command.spares id name = true) :
    let timing := e.settings.conditionTiming
    let run := e.performAll commands
    let k := agings timing id run.1
    let last := max x.duration 1
    (∃ c', run.2.find? id = some c' ∧ c'.conditions.get? name =
        if x.duration < 0 then some x
        else if k < last then some { x with duration := x.duration - k } else none) ∧
      (run.1.flatMap expired).count (id, name) = (if 0 ≤ x.duration ∧ last ≤ k then 1 else 0) ∧
      ∀ next : Command, next.spares id name = true →
        let reply := (run.2.perform next).1
        let k' := k + agings timing id [reply]
        (expired reply).count (id, name) =
          if 0 ≤ x.duration ∧ k < last ∧ last ≤ k' then 1 else 0 := by
  intro timing run k last
  have hstart : c.conditions.get? name = x.after 0 := hx.trans x.after_zero.symm
  obtain ⟨⟨c', hc', hx'⟩, hcount⟩ := elapses_performAll h.consistent h.lived hs x 0 c hc hstart
  rw [Nat.zero_add] at hx' hcount
  refine ⟨⟨c', hc', hx'⟩, ?_, fun next hnext => ?_⟩
  · have hpos : ((0 : Nat) : Int) < x.lifetime := by
      unfold Condition.lifetime
      omega
    rw [hcount, Condition.expiries]
    simp only [hpos, true_and]
    rfl
  · have hrun := h.performAll commands
    have hstep := step_perform hrun.consistent next
    have hnow := (hstep.elapses hrun.consistent hrun.lived hnext x k c' hc' hx').2
    have hsettings : run.2.settings = e.settings := settings_performAll h.consistent commands
    rw [hsettings] at hnow
    exact hnow

/-- Somebody is prone for one round, and gets up when the second begins. -/
theorem condition_lifetime_prone :
    let e := ((withDice .standard (.ofFaces [10, 5])).performAll
      [.add (.basic "Ann" 10 10), .add (.basic "Bob" 10 10),
        .applyCondition ⟨2⟩ (.ofName "Prone" 1), .start]).2
    let run := e.performAll [.nextTurn, .nextTurn]
    (∃ c', run.2.find? ⟨2⟩ = some c' ∧ c'.conditions.get? "Prone" = none) ∧
      (run.1.flatMap expired).count (⟨2⟩, "Prone") = 1 := by
  intro e run
  -- Ann has rolled 10 and Bob 5, so they stand in turn order already
  have horder : e.order = [⟨1⟩, ⟨2⟩] := order_begun_of_pairwise
    (e := ((withDice .standard (.ofFaces [10, 5])).performAll
      [.add (.basic "Ann" 10 10), .add (.basic "Bob" 10 10),
        .applyCondition ⟨2⟩ (.ofName "Prone" 1)]).2) (by decide)
  have hk : agings .roundEnd ⟨2⟩ run.1 = 1 := by
    have he : e = { e with order := [⟨1⟩, ⟨2⟩] } := by rw [← horder]
    simp only [run]
    rw [he]
    rfl
  obtain ⟨c, hc, hx⟩ : ∃ c, e.find? ⟨2⟩ = some c ∧
      c.conditions.get? "Prone" = some (.ofName "Prone" 1) := ⟨_, rfl, rfl⟩
  have hs : ∀ command ∈ [Command.nextTurn, .nextTurn], command.spares ⟨2⟩ "Prone" = true := by
    decide
  obtain ⟨⟨c', hc', hx'⟩, hcount, -⟩ :=
    condition_lifetime ((Reachable.idle _ _).performAll _) hc hx hs
  have hrules : e.settings.conditionTiming = .roundEnd := rfl
  rw [hrules, hk] at hx' hcount
  exact ⟨⟨c', hc', hx'⟩, hcount⟩

end Encounter

end Tabletop
