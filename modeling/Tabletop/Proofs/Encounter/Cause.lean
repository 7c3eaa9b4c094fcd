import Tabletop.Proofs.Encounter.Steady

/-!
# Encounter — what commands cause

Which events a command may bring upon whom (`Command.Causes`).  `Befalls` relates two states with
the same people at the table, where to each only such events have happened, and `Touches` two such
states in which the fight has not moved on.  Every steady command touches those in the fight by
nothing but what it causes (`touches_perform`), whether or not it is refused; what it does to
health, conditions or anything else of a combatant then follows from what the events do.
-/

namespace Tabletop

/-- The events that a command may bring upon the combatant of an identity. -/
inductive Command.Causes : Command → CombatantId → Event → Prop
  | damage (id : CombatantId) (amount : Int) (d : DamageType) :
      Causes (.damage id amount d) id (.damage amount d)
  | heal (id : CombatantId) (amount : Int) : Causes (.heal id amount) id (.heal amount)
  | addCondition (id : CombatantId) (condition : Condition) :
      Causes (.applyCondition id condition) id (.addCondition condition)
  | removeCondition (id : CombatantId) (name : String) :
      Causes (.removeCondition id name) id (.removeCondition name)
  | attacker (attacker target : CombatantId) (advantage disadvantage : Bool) :
      Causes (.attack attacker target advantage disadvantage) attacker (.spend .action)
  | target (attacker target : CombatantId) (advantage disadvantage : Bool) (amount : Int)
      (d : DamageType) :
      Causes (.attack attacker target advantage disadvantage) target (.damage amount d)
  | cast (caster : CombatantId) (spell : String) (targets : List CombatantId) (level : Nat) :
      Causes (.cast caster spell targets level) caster (.spend .action)
  | act (actor : CombatantId) (kind : ActionKind) (name description : String)
      (targets : List CombatantId) :
      Causes (.act actor kind name description targets) actor (.spend kind)
  | move (id : CombatantId) (feet : Nat) : Causes (.move id feet) id (.move feet)
  | initiative (id : CombatantId) (total : Int) : Causes .start id (.initiative total)
  | ready (id : CombatantId) : Causes .start id .resetTurn
  | refresh {command : Command} (hc : command = .nextTurn ∨ ∃ id, command = .endTurn id)
      (id : CombatantId) : Causes command id .resetTurn
  | age {command : Command} (hc : command = .nextTurn ∨ ∃ id, command = .endTurn id)
      (id : CombatantId) : Causes command id .ageConditions

namespace Encounter

open Combatant (Lives Later)

variable {α β : Type} {e e' e'' : Encounter} {c c₀ : Combatant} {id : CombatantId}
  {P : CombatantId → Event → Prop}

/-! ### The two relations -/

/-- To everybody at the table only certain events have happened, and nobody has joined or left. -/
def Befalls (P : CombatantId → Event → Prop) (e e' : Encounter) : Prop :=
  List.Forall₂ (Lives P) e.combatants e'.combatants

/-- Only certain events have happened to those at the table, and the fight stands where it stood. -/
structure Touches (P : CombatantId → Event → Prop) (e e' : Encounter) : Prop
    extends Steady e e' where
  befalls : Befalls P e e'

theorem Befalls.refl (e : Encounter) : Befalls P e e :=
  List.forall₂_same.mpr fun c _ => Lives.refl c

theorem Befalls.trans (h₁ : Befalls P e e') (h₂ : Befalls P e' e'') : Befalls P e e'' :=
  forall₂_trans (R := Lives P) (fun _ _ _ => Lives.trans) h₁ h₂

theorem Befalls.later (h : Befalls P e e') : List.Forall₂ Later e.combatants e'.combatants :=
  List.Forall₂.imp (fun _ _ hl => hl.later) h

/-- Everybody is found as what has become of them. -/
theorem Befalls.find? (h : Befalls P e e') (id : CombatantId) :
    (e.find? id = none ∧ e'.find? id = none) ∨
      ∃ c c', e.find? id = some c ∧ e'.find? id = some c' ∧ Lives P c c' := by
  simp only [Encounter.find?]
  rw [Befalls] at h
  generalize e.combatants = l, e'.combatants = l' at h
  induction h with
  | nil => exact .inl ⟨rfl, rfl⟩
  | @cons c c' rest rest' hl _ ih =>
      have hid := hl.later.id
      by_cases hc : c.id = id
      · have hc' : c'.id = id := hid.trans hc
        simp only [List.find?_cons, hc, hc', BEq.rfl]
        exact .inr ⟨c, c', rfl, rfl, hl⟩
      · have hb : ∀ x : Combatant, x.id = c.id → (x.id == id) = false := fun x hx =>
          beq_false_of_ne (hx.symm ▸ hc)
        simp only [List.find?_cons, hb c rfl, hb c' hid]
        exact ih

theorem Befalls.exists_find? (h : Befalls P e e') (hc : e.find? id = some c) :
    ∃ c', e'.find? id = some c' ∧ Lives P c c' := by
  rcases h.find? id with ⟨hn, -⟩ | ⟨d, c', hd, hc', hl⟩
  · exact nomatch hc.symm.trans hn
  · cases hc.symm.trans hd
    exact ⟨c', hc', hl⟩

theorem Befalls.lived (h : Befalls P e e') (hl : ∀ c ∈ e.combatants, c.Lived) :
    ∀ c ∈ e'.combatants, c.Lived := by
  intro c' hc'
  obtain ⟨c, hc, hlives⟩ := exists_of_forall₂ h hc'
  exact (hl c hc).lives hlives

theorem Touches.refl (e : Encounter) : Touches P e e := ⟨.refl e, .refl e⟩

theorem Touches.trans (h₁ : Touches P e e') (h₂ : Touches P e' e'') : Touches P e e'' :=
  ⟨h₁.toSteady.trans h₂.toSteady, h₁.befalls.trans h₂.befalls⟩

/-- Operations in a row touch by certain events when each does. -/
theorem Touches.andThen {o : Outcome α} {next : α → Encounter → Outcome β} (h : Touches P e o.2)
    (hnext : ∀ a, Touches P o.2 (next a o.2).2) : Touches P e (o.andThen next).2 := by
  rcases o with ⟨a | err, e'⟩
  · exact h
  · exact h.trans (hnext _)

/-! ### Operations on single combatants -/

theorem touches_replace (hn : e.ids.Nodup) (hc : e.find? c.id = some c₀) (h : Lives P c₀ c) :
    Touches P e (e.replace c) :=
  ⟨steady_replace hn hc h.later, forall₂_replace .refl hn hc h⟩

theorem touches_change {f : Combatant → α × Combatant} (hn : e.ids.Nodup)
    (hf : ∀ c, c.id = id → Lives P c (f c).2) : Touches P e (e.change id f).2 := by
  cases h : e.find? id with
  | none =>
      rw [change_of_none h]
      exact .refl e
  | some c =>
      rw [change_of_find? h]
      have hl := hf c (id_of_find? h)
      have hid : (f c).2.id = id := hl.later.id.trans (id_of_find? h)
      exact touches_replace hn (hid.symm ▸ h) hl

theorem touches_use {f : Combatant → Except Exhausted Combatant} (hn : e.ids.Nodup)
    (hf : ∀ c, c.id = id → Lives P c (c.attempt (f c))) : Touches P e (e.use id f).2 := by
  cases h : e.find? id with
  | none =>
      rw [use_of_none h]
      exact .refl e
  | some c =>
      cases hfc : f c with
      | error x =>
          rw [use_of_exhausted h hfc]
          exact .refl e
      | ok c' =>
          rw [use_of_ok h hfc]
          have hl : Lives P c c' := by
            simpa only [hfc, Combatant.attempt] using hf c (id_of_find? h)
          have hid : c'.id = id := hl.later.id.trans (id_of_find? h)
          exact touches_replace hn (hid.symm ▸ h) hl

theorem touches_damage (hn : e.ids.Nodup) {amount : Int} {d : DamageType}
    (hp : P id (.damage amount d)) : Touches P e (e.damage id amount d).2 :=
  touches_change hn fun _ hid => Combatant.lives_undergo (.damage amount d) (hid ▸ hp)

theorem touches_spend (hn : e.ids.Nodup) {kind : ActionKind} (hp : P id (.spend kind)) :
    Touches P e (e.spend id kind).2 :=
  touches_use hn fun _ hid => Combatant.lives_undergo (.spend kind) (hid ▸ hp)

theorem touches_roller (r : Roller) : Touches P e { e with roller := r } :=
  ⟨⟨⟨rfl, rfl, (KeepsTable.refl e).combatants⟩, rfl, rfl, rfl, rfl⟩, .refl e⟩

theorem touches_record (deed : Deed) : Touches P e (e.record deed).2 :=
  ⟨⟨⟨rfl, rfl, (KeepsTable.refl e).combatants⟩, rfl, rfl, rfl, rfl⟩, .refl e⟩

/-! ### Actions -/

theorem touches_strike (hn : e.ids.Nodup) (attacker : Combatant) {target : CombatantId}
    (hp : ∀ amount d, P target (.damage amount d)) (hit critical : Bool) :
    Touches P e (e.strike attacker target hit critical).2 := by
  unfold strike
  split
  · have hdamage (r : Roller) (amount : Int) (d : DamageType) :
        Touches P e (({ e with roller := r } : Encounter).damage target amount d).2 :=
      (touches_roller r).trans (touches_damage (e := { e with roller := r }) hn (hp amount d))
    exact Touches.andThen (hdamage _ _ _) fun _ => .refl _
  · exact .refl e

theorem touches_attack (hn : e.ids.Nodup) {attacker target : CombatantId}
    (hs : P attacker (.spend .action)) (hp : ∀ amount d, P target (.damage amount d))
    (advantage disadvantage : Bool) :
    Touches P e (e.attack attacker target advantage disadvantage).2 := by
  refine Touches.andThen (by rw [lookup_snd]; exact .refl e) fun c => ?_
  rw [lookup_snd]
  refine Touches.andThen (by rw [lookup_snd]; exact .refl e) fun d => ?_
  rw [lookup_snd]
  split
  · exact .refl e
  · -- once the die is cast, the action is spent, then the blow is dealt, then the deed recorded
    have hspend (r : Roller) :
        Touches P e (({ e with roller := r } : Encounter).spend attacker .action).2 :=
      (touches_roller r).trans (touches_spend (e := { e with roller := r }) hn hs)
    refine Touches.andThen (hspend _) fun _ => ?_
    have hn' : ∀ r, ((({ e with roller := r } : Encounter).spend attacker .action).2).ids.Nodup :=
      fun r => by rw [(hspend r).ids]; exact hn
    refine Touches.andThen (touches_strike (hn' _) c hp _ _) fun blow => ?_
    refine Touches.andThen (by rw [lookup_snd]; exact .refl _) fun after => ?_
    rw [lookup_snd]
    exact touches_record _

theorem touches_cast (hn : e.ids.Nodup) {caster : CombatantId} (hs : P caster (.spend .action))
    (spell : String) (targets : List CombatantId) (level : Nat) :
    Touches P e (e.cast caster spell targets level).2 := by
  refine Touches.andThen (by rw [namesOf_snd]; exact .refl e) fun names => ?_
  rw [namesOf_snd]
  exact Touches.andThen (touches_spend hn hs) fun _ => touches_record _

theorem touches_act (hn : e.ids.Nodup) {actor : CombatantId} {kind : ActionKind}
    (hs : P actor (.spend kind)) (name description : String) (targets : List CombatantId) :
    Touches P e (e.act actor kind name description targets).2 := by
  refine Touches.andThen (by rw [namesOf_snd]; exact .refl e) fun names => ?_
  rw [namesOf_snd]
  exact Touches.andThen (touches_spend hn hs) fun _ => touches_record _

theorem touches_move (hn : e.ids.Nodup) {feet : Nat} (hm : P id (.move feet)) :
    Touches P e (e.move id feet).2 :=
  Touches.andThen
    (touches_use hn fun _ hid => Combatant.lives_undergo (.move feet) (hid ▸ hm))
    fun _ => touches_record _

/-! ### Commands -/

/-- **Steady commands do what they cause.**  Whatever is done to those in the fight, and whatever is
rolled, touches them by what the command causes and by nothing else, refused or not. -/
theorem touches_perform (hn : e.ids.Nodup) {command : Command} (h : command.isSteady = true) :
    Touches command.Causes e (e.perform command).2 := by
  cases command with
  | damage id amount d =>
      rw [perform, Outcome.map_snd]
      exact touches_damage hn (.damage id amount d)
  | heal id amount =>
      rw [perform, Outcome.map_snd]
      exact touches_change hn fun _ hid =>
        Combatant.lives_undergo (.heal amount) (hid ▸ .heal _ amount)
  | applyCondition id x =>
      rw [perform, Outcome.map_snd]
      exact touches_change hn fun _ hid =>
        Combatant.lives_undergo (.addCondition x) (hid ▸ .addCondition _ x)
  | removeCondition id name =>
      rw [perform, Outcome.map_snd]
      exact touches_change hn fun _ hid =>
        Combatant.lives_undergo (.removeCondition name) (hid ▸ .removeCondition _ name)
  | attack attacker target advantage disadvantage =>
      rw [perform, Outcome.map_snd]
      exact touches_attack hn (.attacker ..) (fun _ _ => .target ..) advantage disadvantage
  | cast caster spell targets level =>
      rw [perform, Outcome.map_snd]
      exact touches_cast hn (.cast ..) spell targets level
  | act actor kind name description targets =>
      rw [perform, Outcome.map_snd]
      exact touches_act hn (.act ..) name description targets
  | move id feet =>
      rw [perform, Outcome.map_snd]
      exact touches_move hn (.move id feet)
  | roll request => exact touches_roller _
  | _ => cases h

end Encounter

end Tabletop
