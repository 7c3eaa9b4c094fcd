import Tabletop.Proofs.Creature.Economy
import Tabletop.Proofs.Encounter.Reachable

/-!
# Encounter — commands that commute

A treatment hurts or heals somebody, or gives or takes a condition (`Command.treatment?`).  All that
it does to the fight is that its event happens to one combatant (`snd_perform_treatment`), and its
answer is read off that combatant's health, conditions and side (`fst_perform_treatment`).

Acting, and treating somebody else, goes the same way whether or not an event that is idle has
happened to a bystander before: the answer is the same, and the state is the same but for that event
(`Outcome.After`, `after_perform`).  `uninvolved_commute`: so a treatment and a command that spares
whom it treats can be carried out in either order.
-/

namespace Tabletop

/-- Whom a command treats, and how: it hurts or heals, or it gives or takes a condition. -/
def Command.treatment? : Command → Option (CombatantId × Event)
  | .damage id amount damageType => some (id, .damage amount damageType)
  | .heal id amount => some (id, .heal amount)
  | .applyCondition id condition => some (id, .addCondition condition)
  | .removeCondition id name => some (id, .removeCondition name)
  | _ => none

/-- The command does nothing to the health and the conditions of a combatant. -/
inductive Command.Spares (x : CombatantId) : Command → Prop
  /-- Others fight. -/
  | attack {attacker target : CombatantId} (ha : attacker ≠ x) (ht : target ≠ x)
      (advantage disadvantage : Bool) : Spares x (.attack attacker target advantage disadvantage)
  /-- Anybody casts a spell at anybody. -/
  | cast (caster : CombatantId) (spell : String) (targets : List CombatantId) (level : Nat) :
      Spares x (.cast caster spell targets level)
  /-- Anybody does something else to anybody. -/
  | act (actor : CombatantId) (kind : ActionKind) (name description : String)
      (targets : List CombatantId) : Spares x (.act actor kind name description targets)
  /-- Anybody moves. -/
  | move (id : CombatantId) (feet : Nat) : Spares x (.move id feet)
  /-- Somebody else is treated. -/
  | treatment {command : Command} {y : CombatantId} {event : Event}
      (h : command.treatment? = some (y, event)) (hy : y ≠ x) : Spares x command

variable {x : CombatantId} {event : Event}

/-! ### An event that happens to one combatant -/

namespace Combatant

variable {c : Combatant}

/-- A combatant after an event that happens to the one of an identity. -/
def treated (x : CombatantId) (event : Event) (c : Combatant) : Combatant :=
  if c.id = x then c.undergo event else c

theorem name_undergo (c : Combatant) (event : Event) : (c.undergo event).name = c.name :=
  congrArg StatBlock.name (c.later_undergo event).sheet

theorem treated_of_ne (h : c.id ≠ x) : c.treated x event = c := if_neg h

@[simp] theorem id_treated (x : CombatantId) (event : Event) (c : Combatant) :
    (c.treated x event).id = c.id := by
  unfold treated
  split
  · exact (c.later_undergo event).id
  · rfl

@[simp] theorem name_treated (x : CombatantId) (event : Event) (c : Combatant) :
    (c.treated x event).name = c.name := by
  unfold treated
  split
  · exact c.name_undergo event
  · rfl

theorem movement_treated (h : event.isIdle = true) (x : CombatantId) (c : Combatant) :
    (c.treated x event).movement = c.movement := by
  unfold treated
  split
  · exact movement_undergo_of_isIdle h c
  · rfl

theorem spend_undergo_of_isIdle (h : event.isIdle = true) (c : Combatant) (kind : ActionKind) :
    (c.undergo event).spend kind = (c.spend kind).map (·.undergo event) := by
  rw [spend, spend, canSpend_undergo_of_isIdle h, name_undergo]
  split
  · cases event with
    | spend | move | resetTurn => cases h
    | _ => cases kind <;> rfl
  · rfl

theorem move_undergo_of_isIdle (h : event.isIdle = true) (c : Combatant) (feet : Nat) :
    (c.undergo event).move feet = (c.move feet).map (·.undergo event) := by
  rw [move, move, movement_undergo_of_isIdle h, name_undergo]
  split
  · cases event with
    | spend | move | resetTurn => cases h
    | _ => rfl
  · rfl

/-- What is asked of a combatant goes the same way after the event: asking commutes with it. -/
theorem treated_of_undergo {f : Combatant → Except Exhausted Combatant}
    (hid : ∀ c c', f c = .ok c' → c'.id = c.id)
    (hf : ∀ c, f (c.undergo event) = (f c).map (·.undergo event)) (c : Combatant) :
    f (c.treated x event) = (f c).map (·.treated x event) := by
  by_cases h : c.id = x
  · rw [treated, if_pos h, hf]
    cases hfc : f c with
    | error err => rfl
    | ok c' =>
        have hc' : c'.treated x event = c'.undergo event := if_pos ((hid c c' hfc).trans h)
        exact congrArg Except.ok hc'.symm
  · rw [treated_of_ne h]
    cases hfc : f c with
    | error err => rfl
    | ok c' =>
        have hc' : c'.treated x event = c' := if_neg fun hx => h ((hid c c' hfc).symm.trans hx)
        exact congrArg Except.ok hc'.symm

theorem spend_treated (h : event.isIdle = true) (c : Combatant) (kind : ActionKind) :
    (c.treated x event).spend kind = (c.spend kind).map (·.treated x event) := by
  refine treated_of_undergo (f := (·.spend kind)) (fun c c' hc => ?_)
    (spend_undergo_of_isIdle h · kind) c
  rw [spend] at hc
  split at hc
  · obtain rfl := Except.ok.inj hc
    exact (c.later_charge kind).id
  · cases hc

theorem move_treated (h : event.isIdle = true) (c : Combatant) (feet : Nat) :
    (c.treated x event).move feet = (c.move feet).map (·.treated x event) := by
  refine treated_of_undergo (f := (·.move feet)) (fun c c' hc => ?_)
    (move_undergo_of_isIdle h · feet) c
  rw [move] at hc
  split at hc
  · obtain rfl := Except.ok.inj hc
    rfl
  · cases hc

/-- What a treatment reads of a combatant. -/
structure Alike (c c' : Combatant) : Prop where
  health : c'.health = c.health
  conditions : c'.conditions = c.conditions
  isPlayer : c'.isPlayer = c.isPlayer

theorem Alike.refl (c : Combatant) : Alike c c := ⟨rfl, rfl, rfl⟩

theorem Alike.trans {a b c : Combatant} (h₁ : Alike a b) (h₂ : Alike b c) : Alike a c :=
  ⟨h₂.health.trans h₁.health, h₂.conditions.trans h₁.conditions, h₂.isPlayer.trans h₁.isPlayer⟩

theorem alike_spend (c : Combatant) (kind : ActionKind) : Alike c (c.undergo (.spend kind)) := by
  rw [undergo, attempt_spend]
  split
  · exact ⟨c.health_charge kind, c.conditions_charge kind, (c.later_charge kind).isPlayer⟩
  · exact .refl c

theorem alike_move (c : Combatant) (feet : Nat) : Alike c (c.undergo (.move feet)) := by
  rw [undergo, attempt_move]
  split
  · exact ⟨rfl, rfl, rfl⟩
  · exact .refl c

end Combatant

namespace Encounter

/-- An event happens to the combatant of an identity. -/
def treated (e : Encounter) (x : CombatantId) (event : Event) : Encounter :=
  { e with combatants := e.combatants.map (·.treated x event) }

theorem find?_treated (e : Encounter) (x : CombatantId) (event : Event) (id : CombatantId) :
    (e.treated x event).find? id = (e.find? id).map (·.treated x event) := by
  rw [find?, treated, List.find?_map]
  simp only [Function.comp_def, Combatant.id_treated]
  rfl

theorem replace_treated (e : Encounter) (x : CombatantId) (event : Event) (c : Combatant) :
    (e.treated x event).replace (c.treated x event) = (e.replace c).treated x event := by
  rw [replace, replace, treated, treated]
  simp only [List.map_map, Combatant.id_treated]
  congr 1
  refine List.map_congr_left fun other _ => ?_
  simp only [Function.comp_apply, Combatant.id_treated]
  split <;> rfl

end Encounter

/-! ### The same, but for the event -/

/-- The second outcome is the first after an event that has happened to somebody: the same refusal
or a related answer, in the same state but for the event. -/
inductive Outcome.After {α : Type} (x : CombatantId) (event : Event) (R : α → α → Prop) :
    Outcome α → Outcome α → Prop
  /-- Both are answered. -/
  | ok {a a' : α} {e : Encounter} (h : R a a') :
      After x event R (.ok a, e) (.ok a', e.treated x event)
  /-- Both are refused. -/
  | error {err : EncounterError} {e : Encounter} :
      After x event R (.error err, e) (.error err, e.treated x event)

namespace Outcome.After

variable {α β : Type} {R : α → α → Prop} {S : β → β → Prop} {o o' : Outcome α}

theorem eq (h : After x event Eq o o') : o' = (o.1, o.2.treated x event) := by
  cases h with
  | ok h => rw [h]
  | error => rfl

theorem andThen {next next' : α → Encounter → Outcome β} (h : After x event R o o')
    (hnext : ∀ a a' e, R a a' → After x event S (next a e) (next' a' (e.treated x event))) :
    After x event S (o.andThen next) (o'.andThen next') := by
  cases h with
  | ok h => exact hnext _ _ _ h
  | error => exact .error

theorem map (h : After x event Eq o o') (f : α → β) : After x event Eq (o.map f) (o'.map f) :=
  h.andThen fun _ _ _ ha => .ok (congrArg f ha)

end Outcome.After

namespace Encounter

open Combatant (Alike)
open Outcome (After)

variable {α : Type} {e e' : Encounter} {id y : CombatantId} {w p : Command}

theorem after_lookup (e : Encounter) (x : CombatantId) (event : Event) (id : CombatantId) :
    After x event (fun c c' => c.id = id ∧ c' = c.treated x event) (e.lookup id)
      ((e.treated x event).lookup id) := by
  have hfound := e.find?_treated x event id
  cases h : e.find? id with
  | none =>
      rw [h] at hfound
      rw [lookup_of_none h, lookup_of_none hfound]
      exact .error
  | some c =>
      rw [h] at hfound
      rw [lookup_of_find? h, lookup_of_find? hfound]
      exact .ok ⟨id_of_find? h, rfl⟩

/-- Whoever is not treated is found as they are. -/
theorem after_lookup_of_ne (e : Encounter) (h : id ≠ x) :
    After x event (fun c c' => c.id = id ∧ c' = c) (e.lookup id)
      ((e.treated x event).lookup id) := by
  have hlookup := e.after_lookup x event id
  generalize e.lookup id = o, (e.treated x event).lookup id = o' at hlookup
  cases hlookup with
  | ok hc => exact .ok ⟨hc.1, hc.2.trans (Combatant.treated_of_ne (hc.1 ▸ h))⟩
  | error => exact .error

theorem after_namesOf (e : Encounter) (ids : List CombatantId) :
    After x event Eq (e.namesOf ids) ((e.treated x event).namesOf ids) := by
  induction ids generalizing e with
  | nil => exact .ok rfl
  | cons id rest ih =>
      refine (e.after_lookup x event id).andThen fun c c' e hc =>
        (ih e).andThen fun names names' e hn => ?_
      rw [hc.2, hn, Combatant.name_treated]
      exact .ok rfl

/-- Whatever happens to somebody else. -/
theorem after_change (e : Encounter) (h : y ≠ x) {f : Combatant → α × Combatant}
    (hf : ∀ c, (f c).2.id = c.id) :
    After x event Eq (e.change y f) ((e.treated x event).change y f) := by
  refine (after_lookup_of_ne e h).andThen fun c c' e hc => ?_
  obtain ⟨hid, rfl⟩ := hc
  have hother : (f c').2.treated x event = (f c').2 :=
    Combatant.treated_of_ne fun hx => h (hid.symm.trans ((hf c').symm.trans hx))
  have hreplace := e.replace_treated x event (f c').2
  rw [hother] at hreplace
  rw [hreplace]
  exact .ok rfl

/-- Whatever is used up by anybody, the one treated too, if using it up commutes with the event. -/
theorem after_use (e : Encounter) (id : CombatantId) {f : Combatant → Except Exhausted Combatant}
    (hf : ∀ c, f (c.treated x event) = (f c).map (·.treated x event)) :
    After x event (fun c c' => c' = c.treated x event) (e.use id f)
      ((e.treated x event).use id f) := by
  refine (e.after_lookup x event id).andThen fun c c' e hc => ?_
  obtain ⟨-, rfl⟩ := hc
  rw [hf]
  cases f c with
  | error err => exact .error
  | ok c' =>
      simp only [Except.map, replace_treated]
      exact .ok rfl

theorem after_spend (h : event.isIdle = true) (e : Encounter) (id : CombatantId)
    (kind : ActionKind) :
    After x event (fun c c' => c' = c.treated x event) (e.spend id kind)
      ((e.treated x event).spend id kind) :=
  after_use e id (Combatant.spend_treated h · kind)

/-! ### Deeds -/

theorem after_strike (e : Encounter) (attacker : Combatant) (h : y ≠ x) (hit critical : Bool) :
    After x event Eq (e.strike attacker y hit critical)
      ((e.treated x event).strike attacker y hit critical) := by
  unfold strike
  split
  · refine (after_change _ h fun _ => rfl).andThen fun outcome outcome' e ho => ?_
    rw [ho]
    exact .ok rfl
  · exact .ok rfl

theorem after_attack (h : event.isIdle = true) (e : Encounter) {attacker target : CombatantId}
    (ha : attacker ≠ x) (ht : target ≠ x) (advantage disadvantage : Bool) :
    After x event Eq (e.attack attacker target advantage disadvantage)
      ((e.treated x event).attack attacker target advantage disadvantage) := by
  refine (after_lookup_of_ne e ha).andThen fun c c' e hc => ?_
  obtain ⟨-, rfl⟩ := hc
  refine (after_lookup_of_ne e ht).andThen fun d d' e hd => ?_
  obtain ⟨-, rfl⟩ := hd
  split
  · exact .error
  · refine (after_spend h _ attacker .action).andThen fun _ _ e _ => ?_
    refine (after_strike e c' ht _ _).andThen fun blow blow' e hblow => ?_
    refine (after_lookup_of_ne e ht).andThen fun after after' e hafter => ?_
    rw [hblow, hafter.2]
    exact .ok rfl

theorem after_cast (h : event.isIdle = true) (e : Encounter) (caster : CombatantId)
    (spell : String) (targets : List CombatantId) (level : Nat) :
    After x event Eq (e.cast caster spell targets level)
      ((e.treated x event).cast caster spell targets level) := by
  refine (after_namesOf e targets).andThen fun names names' e hn => ?_
  refine (after_spend h e caster .action).andThen fun c c' e hc => ?_
  rw [hn, hc, Combatant.name_treated]
  exact .ok rfl

theorem after_act (h : event.isIdle = true) (e : Encounter) (actor : CombatantId)
    (kind : ActionKind) (name description : String) (targets : List CombatantId) :
    After x event Eq (e.act actor kind name description targets)
      ((e.treated x event).act actor kind name description targets) :=
  (after_namesOf e targets).andThen fun _ _ e _ =>
    (after_spend h e actor kind).andThen fun _ _ _ _ => .ok rfl

theorem after_move (h : event.isIdle = true) (e : Encounter) (id : CombatantId) (feet : Nat) :
    After x event Eq (e.move id feet) ((e.treated x event).move id feet) := by
  refine (after_use e id (Combatant.move_treated h · feet)).andThen fun c c' e hc => ?_
  rw [hc, Combatant.name_treated, Combatant.movement_treated h]
  exact .ok rfl

/-- A command that spares a combatant goes the same way after an idle event has happened to it. -/
theorem after_perform (h : event.isIdle = true) (hp : p.Spares x) (e : Encounter) :
    After x event Eq (e.perform p) ((e.treated x event).perform p) := by
  cases hp with
  | attack ha ht advantage disadvantage => exact (after_attack h e ha ht _ _).map _
  | cast caster spell targets level => exact (after_cast h e caster spell targets level).map _
  | act actor kind name description targets =>
      exact (after_act h e actor kind name description targets).map _
  | move id feet => exact (after_move h e id feet).map _
  | treatment hw hy =>
      cases p with
      | damage | heal | applyCondition | removeCondition =>
          cases hw
          exact (after_change e hy fun _ => rfl).map _
      | _ => cases hw

/-! ### Treatments -/

theorem isSteady_of_spares (hp : p.Spares x) : p.isSteady = true := by
  cases hp with
  | treatment hw =>
      cases p with
      | damage | heal | applyCondition | removeCondition => rfl
      | _ => cases hw
  | _ => rfl

/-- Whoever is spared pays for deeds at most. -/
theorem alike_of_spares (hp : p.Spares x) (h : p.Causes x event) (c : Combatant) :
    Alike c (c.undergo event) := by
  have hsteady := isSteady_of_spares hp
  cases h with
  | damage | heal | addCondition | removeCondition =>
      cases hp with
      | treatment hw hy =>
          cases hw
          exact absurd rfl hy
  | attacker =>
      cases hp with
      | attack ha ht => exact absurd rfl ha
      | treatment hw => cases hw
  | target =>
      cases hp with
      | attack ha ht => exact absurd rfl ht
      | treatment hw => cases hw
  | cast => exact c.alike_spend .action
  | act => exact c.alike_spend _
  | move => exact c.alike_move _
  | initiative | ready => cases hsteady
  | refresh hc | age hc => rcases hc with rfl | ⟨_, rfl⟩ <;> cases hsteady

/-- A combatant is at the table in both states, the same to a treatment, or in neither. -/
def FoundAlike (x : CombatantId) (e e' : Encounter) : Prop :=
  (e.find? x = none ∧ e'.find? x = none) ∨
    ∃ c c', e.find? x = some c ∧ e'.find? x = some c' ∧ Alike c c'

theorem foundAlike_perform (hn : e.ids.Nodup) (hp : p.Spares x) :
    FoundAlike x e (e.perform p).2 := by
  rcases (touches_perform hn (isSteady_of_spares hp)).befalls.find? x with
    hnone | ⟨c, c', hc, hc', events, hevents, hlast⟩
  · exact .inl hnone
  · refine .inr ⟨c, c', hc, hc', ?_⟩
    have hid : c.id = x := id_of_find? hc
    clear hc hc'
    subst hlast
    induction events generalizing c with
    | nil => exact .refl c
    | cons event rest ih =>
        obtain ⟨hevent, hrest⟩ := List.forall_mem_cons.mp hevents
        have hnext : (c.undergo event).id = x := (c.later_undergo event).id.trans hid
        rw [hid] at hevent hrest
        exact (alike_of_spares hp hevent c).trans (ih _ (hnext.symm ▸ hrest) hnext)

/-- To put in somebody's place what has become of them is to let it happen to them. -/
theorem replace_undergo (hn : e.ids.Nodup) {c : Combatant} (hx : e.find? x = some c) :
    e.replace (c.undergo event) = e.treated x event := by
  have hid : (c.undergo event).id = x := (c.later_undergo event).id.trans (id_of_find? hx)
  have hmap : (e.combatants.map fun other => if other.id = x then c.undergo event else other) =
      e.combatants.map (·.treated x event) := by
    refine List.map_congr_left fun other hm => ?_
    rw [Combatant.treated]
    split
    · next hother =>
        have hfound := find?_of_mem hn hm
        rw [hother, hx] at hfound
        rw [Option.some.inj hfound]
    · rfl
  rw [replace, treated, hid, hmap]

/-- A treatment does to the fight what it does to whom it treats. -/
theorem snd_change_eq_treated (hn : e.ids.Nodup) {f : Combatant → α × Combatant}
    (hf : ∀ c, (f c).2 = c.undergo event) : (e.change x f).2 = e.treated x event := by
  cases hx : e.find? x with
  | none =>
      have hsame : e.combatants.map (·.treated x event) = e.combatants.map id :=
        List.map_congr_left fun c hc => Combatant.treated_of_ne fun hid =>
          find?_eq_none_iff.mp hx (List.mem_map.mpr ⟨c, hc, hid⟩)
      rw [change_of_none hx, treated, hsame, List.map_id]
  | some c => rw [change_of_find? hx, hf, replace_undergo hn hx]

theorem snd_perform_treatment (hn : e.ids.Nodup) (hw : w.treatment? = some (x, event)) :
    (e.perform w).2 = e.treated x event := by
  cases w with
  | damage | heal | applyCondition | removeCondition =>
      cases hw
      rw [perform, Outcome.map_snd]
      exact snd_change_eq_treated hn fun _ => rfl
  | _ => cases hw

/-- What a change answers is read off the combatant that it finds. -/
theorem fst_change_congr {f : Combatant → α × Combatant} (h : FoundAlike x e e')
    (hf : ∀ c c', Alike c c' → (f c').1 = (f c).1) : (e'.change x f).1 = (e.change x f).1 := by
  rcases h with ⟨hx, hx'⟩ | ⟨c, c', hx, hx', hc⟩
  · rw [change_of_none hx, change_of_none hx']
  · rw [change_of_find? hx, change_of_find? hx', hf c c' hc]

theorem fst_map_congr {β : Type} {o o' : Outcome α} (h : o'.1 = o.1) (f : α → β) :
    (o'.map f).1 = (o.map f).1 := by
  rcases o with ⟨err | a, e⟩ <;> rcases o' with ⟨err' | a', e'⟩ <;> cases h <;> rfl

theorem fst_perform_treatment (hw : w.treatment? = some (x, event)) (h : FoundAlike x e e') :
    (e'.perform w).1 = (e.perform w).1 := by
  cases w with
  | damage id amount damageType =>
      cases hw
      refine fst_map_congr (fst_change_congr h fun c c' hc => ?_) _
      rw [Combatant.takeDamage, Combatant.takeDamage, hc.health, hc.isPlayer]
  | heal id amount =>
      cases hw
      refine fst_map_congr (fst_change_congr h fun c c' hc => ?_) _
      rw [Combatant.heal, Combatant.heal, hc.health]
  | applyCondition id condition =>
      cases hw
      refine fst_map_congr (fst_change_congr h fun c c' hc => ?_) _
      rw [Combatant.addCondition, Combatant.addCondition, hc.conditions]
  | removeCondition id name =>
      cases hw
      refine fst_map_congr (fst_change_congr h fun c c' hc => ?_) _
      rw [Combatant.removeCondition, Combatant.removeCondition, hc.conditions]
  | _ => cases hw

theorem isIdle_of_treatment? (hw : w.treatment? = some (x, event)) : event.isIdle = true := by
  cases w with
  | damage | heal | applyCondition | removeCondition =>
      cases hw
      rfl
  | _ => cases hw

/-- **The uninvolved can be treated sooner or later.**  In every state that a fight can come to, a
treatment and a command that spares whom it treats have the same two answers, refusals among them,
and leave the same state, whichever is carried out first. -/
theorem uninvolved_commute (h : Reachable e) (hw : w.treatment? = some (x, event))
    (hp : p.Spares x) :
    ((e.perform w).2.perform p).1 = (e.perform p).1 ∧
      ((e.perform p).2.perform w).1 = (e.perform w).1 ∧
      ((e.perform w).2.perform p).2 = ((e.perform p).2.perform w).2 := by
  have hn := h.consistent.nodup
  have hn' := (h.perform p).consistent.nodup
  have hlater := (after_perform (isIdle_of_treatment? hw) hp e).eq
  have hsame := fst_perform_treatment hw (foundAlike_perform hn hp)
  rw [snd_perform_treatment hn hw, hlater]
  exact ⟨rfl, hsame, (snd_perform_treatment hn' hw).symm⟩

/-- While two fight, a bystander is hurt. -/
theorem uninvolved_commute_bystander :
    let e := ((withDice .standard (.ofFaces [15, 10, 5, 20, 4])).performAll
      [.add (.basic "Ann" 10 10), .add (.basic "Bob" 10 10), .add (.basic "Cid" 10 10), .start]).2
    let w : Command := .damage ⟨3⟩ 4 .fire
    let p : Command := .attack ⟨1⟩ ⟨2⟩ false false
    w.treatment? = some (⟨3⟩, .damage 4 .fire) ∧ p.Spares ⟨3⟩ ∧
      ((e.perform w).2.perform p).1 = (e.perform p).1 ∧
      ((e.perform p).2.perform w).1 = (e.perform w).1 ∧
      ((e.perform w).2.perform p).2 = ((e.perform p).2.perform w).2 := by
  intro e w p
  have hspares : p.Spares ⟨3⟩ := .attack (by decide) (by decide) false false
  exact ⟨rfl, hspares, uninvolved_commute ((Reachable.idle _ _).performAll _) rfl hspares⟩

end Encounter

end Tabletop
