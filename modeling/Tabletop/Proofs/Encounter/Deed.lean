import Tabletop.Proofs.Creature.Economy
import Tabletop.Proofs.Encounter.Step

/-!
# Encounter — deeds

What the commands by which somebody acts do when they are not refused, said once for all four
(`Done`): whoever acts pays for it with what is left of their turn, at most one combatant takes
damage, and one deed is recorded that tells of both.  `done_perform` shows that every such command
which is carried out is a deed, so that each is a deed or refused (`done_or_refused`); what deeds do
to the turn, to hit points and to the log then follows by cases on what was dealt.
-/

namespace Tabletop

/-- Who acts by a command, and what that takes out of their turn. -/
def Command.price? : Command → Option (CombatantId × Event)
  | .attack attacker .. => some (attacker, .spend .action)
  | .cast caster .. => some (caster, .spend .action)
  | .act actor kind .. => some (actor, .spend kind)
  | .move id feet => some (id, .move feet)
  | _ => none

/-- Somebody acts by the command. -/
def Command.isDeed (command : Command) : Bool := command.price?.isSome

theorem Command.price?_ne_resetTurn {command : Command} {actor : CombatantId} {price : Event}
    (h : command.price? = some (actor, price)) : price ≠ .resetTurn := by
  rintro rfl
  cases command <;> cases h

variable {α β : Type}

/-- One operation after another gives an answer only if both do. -/
theorem Outcome.andThen_eq_ok {o : Outcome α} {next : α → Encounter → Outcome β} {b : β}
    {e' : Encounter} (h : o.andThen next = (.ok b, e')) :
    ∃ a e, o = (.ok a, e) ∧ next a e = (.ok b, e') := by
  rcases o with ⟨err | a, e⟩
  · cases h
  · exact ⟨a, e, rfl, h⟩

namespace Encounter

variable {e e' : Encounter} {c : Combatant} {id attacker target : CombatantId} {command : Command}
  {deed : Deed} {advantage disadvantage : Bool}

/-- What is dealt by a deed: nothing, or damage to one combatant, as the entries tell. -/
inductive Dealt (e : Encounter) : List DamageEntry → Encounter → Prop
  | nothing : Dealt e [] e
  | blow {target : CombatantId} {d : Combatant} (hd : e.find? target = some d) (r : Roller)
      (amount : Int) (damageType : DamageType) (critical : Bool) :
      Dealt e [damageEntry target critical (d.takeDamage amount damageType).1]
        (({ e with roller := r } : Encounter).replace (d.takeDamage amount damageType).2)

/-- A deed is done: whoever acts can afford it and pays, what it deals is dealt, and it is
recorded. -/
inductive Done (e : Encounter) : Command → Deed → Encounter → Prop
  | intro {command : Command} {deed : Deed} {c : Combatant} {price : Event} {e' : Encounter}
      (hp : command.price? = some (deed.actor, price)) (hc : e.find? deed.actor = some c)
      (ha : c.Affords price) (r : Roller)
      (hd : Dealt { e.replace (c.undergo price) with roller := r } deed.damage e') :
      Done e command deed (e'.record deed).2

/-! ### What operations take -/

theorem lookup_ok (h : e.lookup id = (.ok c, e')) : e.find? id = some c ∧ e' = e := by
  cases hf : e.find? id with
  | none =>
      rw [lookup_of_none hf] at h
      cases h
  | some d =>
      rw [lookup_of_find? hf] at h
      cases h
      exact ⟨rfl, rfl⟩

theorem namesOf_ok {ids : List CombatantId} {names : List String}
    (h : e.namesOf ids = (.ok names, e')) : e' = e := by
  rw [← namesOf_snd e ids, h]

theorem change_ok {f : Combatant → α × Combatant} {a : α} (h : e.change id f = (.ok a, e')) :
    ∃ c, e.find? id = some c ∧ a = (f c).1 ∧ e' = e.replace (f c).2 := by
  cases hf : e.find? id with
  | none =>
      rw [change_of_none hf] at h
      cases h
  | some c =>
      rw [change_of_find? hf] at h
      cases h
      exact ⟨c, rfl, rfl, rfl⟩

theorem use_ok {f : Combatant → Except Exhausted Combatant} {c' : Combatant}
    (h : e.use id f = (.ok c', e')) :
    ∃ c, e.find? id = some c ∧ f c = .ok c' ∧ e' = e.replace c' := by
  cases hf : e.find? id with
  | none =>
      rw [use_of_none hf] at h
      cases h
  | some c =>
      cases hfc : f c with
      | error x =>
          rw [use_of_exhausted hf hfc] at h
          cases h
      | ok d =>
          rw [use_of_ok hf hfc] at h
          cases h
          exact ⟨c, rfl, hfc, rfl⟩

theorem spend_ok {kind : ActionKind} {c' : Combatant} (h : e.spend id kind = (.ok c', e')) :
    ∃ c, e.find? id = some c ∧ c.Affords (.spend kind) ∧ c' = c.undergo (.spend kind) ∧
      e' = e.replace (c.undergo (.spend kind)) := by
  obtain ⟨c, hc, hspend, rfl⟩ := use_ok h
  have hpaid : c.undergo (.spend kind) = c' := by
    rw [Combatant.undergo, hspend, Combatant.attempt]
  subst hpaid
  refine ⟨c, hc, ?_, rfl, rfl⟩
  rw [Combatant.spend] at hspend
  split at hspend
  · assumption
  · cases hspend

/-! ### The four ways to act -/

/-- A blow deals what it answers. -/
theorem dealt_strike {hit critical : Bool} {blow : Blow}
    (h : e.strike c target hit critical = (.ok blow, e')) :
    Dealt e (blow.outcome.map (damageEntry target critical)).toList e' := by
  cases hit with
  | false =>
      cases h
      exact .nothing
  | true =>
      rw [strike, if_pos rfl] at h
      obtain ⟨outcome, e₁, hdamage, hgo⟩ := Outcome.andThen_eq_ok h
      cases hgo
      obtain ⟨d, hd, rfl, rfl⟩ := change_ok hdamage
      have hd : e.find? target = some d := hd
      exact .blow hd _ _ _ _

/-- An attack is a deed of the attacker against the target. -/
theorem done_attack {done : Attack}
    (h : e.attack attacker target advantage disadvantage = (.ok done, e')) :
    ∃ deed, Done e (.attack attacker target advantage disadvantage) deed e' ∧
      deed.actor = attacker ∧ deed.kind = .action ∧ deed.name = "Attack" ∧
      deed.targets = [target] := by
  obtain ⟨c, e₁, hc, hfound⟩ := Outcome.andThen_eq_ok h
  obtain ⟨d, e₂, hd, hgo⟩ := Outcome.andThen_eq_ok hfound
  obtain ⟨-, rfl⟩ := lookup_ok hc
  obtain ⟨-, rfl⟩ := lookup_ok hd
  clear h hfound
  split at hgo
  · cases hgo
  · obtain ⟨_, e₃, hspend, hspent⟩ := Outcome.andThen_eq_ok hgo
    obtain ⟨blow, e₄, hstrike, hstruck⟩ := Outcome.andThen_eq_ok hspent
    obtain ⟨after, e₅, hafter, hlast⟩ := Outcome.andThen_eq_ok hstruck
    obtain ⟨-, rfl⟩ := lookup_ok hafter
    obtain ⟨c₀, hc₀, haffords, -, rfl⟩ := spend_ok hspend
    obtain ⟨-, rfl⟩ := Prod.mk.inj hlast
    exact ⟨_, .intro rfl hc₀ haffords _ (dealt_strike hstrike), rfl, rfl, rfl, rfl⟩

theorem done_cast {spell : String} {targets : List CombatantId} {level : Nat} {done : SpellCast}
    (h : e.cast id spell targets level = (.ok done, e')) :
    ∃ deed, Done e (.cast id spell targets level) deed e' := by
  obtain ⟨names, e₁, hnames, hgo⟩ := Outcome.andThen_eq_ok h
  obtain ⟨c', e₂, hspend, hgo⟩ := Outcome.andThen_eq_ok hgo
  obtain rfl := namesOf_ok hnames
  obtain ⟨c, hc, haffords, -, rfl⟩ := spend_ok hspend
  obtain ⟨-, rfl⟩ := Prod.mk.inj hgo
  exact ⟨_, .intro rfl hc haffords e₁.roller .nothing⟩

theorem done_act {kind : ActionKind} {name description : String} {targets : List CombatantId}
    {done : ActionId} (h : e.act id kind name description targets = (.ok done, e')) :
    ∃ deed, Done e (.act id kind name description targets) deed e' := by
  obtain ⟨names, e₁, hnames, hgo⟩ := Outcome.andThen_eq_ok h
  obtain ⟨c', e₂, hspend, hgo⟩ := Outcome.andThen_eq_ok hgo
  obtain rfl := namesOf_ok hnames
  obtain ⟨c, hc, haffords, -, rfl⟩ := spend_ok hspend
  obtain ⟨-, rfl⟩ := Prod.mk.inj hgo
  exact ⟨_, .intro rfl hc haffords e₁.roller .nothing⟩

theorem done_move {feet left : Nat} (h : e.move id feet = (.ok left, e')) :
    ∃ deed, Done e (.move id feet) deed e' := by
  obtain ⟨c', e₁, huse, hgo⟩ := Outcome.andThen_eq_ok h
  obtain ⟨c, hc, hmove, rfl⟩ := use_ok huse
  obtain ⟨-, rfl⟩ := Prod.mk.inj hgo
  have haffords : c.Affords (.move feet) := by
    rw [Combatant.move] at hmove
    split at hmove
    · assumption
    · cases hmove
  have hpaid : c.undergo (.move feet) = c' := by
    rw [Combatant.undergo, hmove, Combatant.attempt]
  subst hpaid
  exact ⟨_, .intro rfl hc haffords e.roller .nothing⟩

/-- **Whoever acts does a deed.**  A command by which somebody acts, when it is not refused, is
paid for, deals what its deed tells of, and is recorded. -/
theorem done_perform (hd : command.isDeed = true) {reply : Reply}
    (h : (e.perform command).1 = .ok reply) :
    ∃ deed, Done e command deed (e.perform command).2 := by
  -- the reply is made of the answer of the operation
  have hanswer {α : Type} {f : α → Reply} {o : Outcome α} (ho : (o.map f).1 = .ok reply) :
      ∃ a, o = (.ok a, (o.map f).2) := by
    rcases Outcome.map_cases f o with ⟨err, -, heq⟩ | ⟨a, ha, heq⟩
    · rw [heq] at ho
      cases ho
    · exact ⟨a, by rw [heq, ← ha]⟩
  cases command with
  | attack attacker target advantage disadvantage =>
      obtain ⟨done, hdone⟩ := hanswer h
      obtain ⟨deed, hdeed, -⟩ := done_attack hdone
      exact ⟨deed, hdeed⟩
  | cast caster spell targets level =>
      obtain ⟨done, hdone⟩ := hanswer h
      exact done_cast hdone
  | act actor kind name description targets =>
      obtain ⟨done, hdone⟩ := hanswer h
      exact done_act hdone
  | move id feet =>
      obtain ⟨left, hdone⟩ := hanswer h
      exact done_move hdone
  | _ => cases hd

/-- A command by which somebody acts is a deed, or it is refused and changes nothing. -/
theorem done_or_refused (hc : e.Consistent) (hd : command.isDeed = true) :
    (∃ reply deed, (e.perform command).1 = .ok reply ∧ Done e command deed (e.perform command).2) ∨
      ∃ err, (e.perform command).1 = .error err ∧ (e.perform command).2 = e := by
  rcases hreply : (e.perform command).1 with err | reply
  · exact .inr ⟨err, rfl, atomic_perform hc command err hreply⟩
  · obtain ⟨deed, hdone⟩ := done_perform hd hreply
    exact .inl ⟨reply, deed, rfl, hdone⟩

end Encounter

end Tabletop
