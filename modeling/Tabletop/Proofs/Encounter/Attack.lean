import Tabletop.Proofs.Encounter.Commute
import Tabletop.Proofs.Encounter.Record
import Tabletop.Proofs.Roll.Division

/-!
# Encounter — attacks

An attack from its beginning to its end (`Resolved`): the rolls it makes, what they decide, what it
does to the attacker and to the target, who may be the same, and what is recorded of it.  All that
an attack does to the table is that its action is spent and, if it hits, that the target takes the
damage once; so the state after it is written down in full.

`attack_resolved`: an attack takes place exactly when both are at the table and the attacker has
its action, and then it is resolved in this way.
-/

namespace Tabletop

namespace Encounter

open Combatant (Alike)

variable {e e' : Encounter} {c d : Combatant} {attacker target : CombatantId}
  {advantage disadvantage : Bool} {done : Attack}

/-! ### The rolls -/

/-- The attack roll that is asked for. -/
def attackAsked (c : Combatant) (mode : Mode) : Asked :=
  .ofFormula (.d20 c.attackBonus mode) (some "Attack Roll")

/-- The rolls for damage that are asked for: one for a hit, and one more for a critical one. -/
def damageAsked (c : Combatant) (hit critical : Bool) : List Asked :=
  if hit then
    .ofText c.damageDice (some "Damage") ::
      if critical then [.ofText c.damageDice (some "Critical Damage")] else []
  else []

theorem rollDamage_eq_serveAll (c : Combatant) (critical : Bool) (r : Roller) :
    rollDamage c.damageDice critical r = r.serveAll (damageAsked c true critical) := by
  simp only [rollDamage, Roller.roll_eq_serve, damageAsked, if_true]
  cases critical <;> rfl

/-! ### What an attack does to the table -/

/-- The fight when an attack has been carried out: the attacker has spent the action, and on a hit
the target has taken the damage. -/
def afterAttack (e : Encounter) (attacker target : CombatantId) (hit : Bool) (amount : Int)
    (damageType : DamageType) : Encounter :=
  if hit then (e.treated attacker (.spend .action)).treated target (.damage amount damageType)
  else e.treated attacker (.spend .action)

@[simp] theorem ids_treated (e : Encounter) (x : CombatantId) (event : Event) :
    (e.treated x event).ids = e.ids := by
  simp only [ids, treated, List.map_map, Function.comp_def, Combatant.id_treated]

theorem log_afterAttack (e : Encounter) (attacker target : CombatantId) (hit : Bool) (amount : Int)
    (damageType : DamageType) :
    (e.afterAttack attacker target hit amount damageType).log = e.log := by
  cases hit <;> rfl

theorem round_afterAttack (e : Encounter) (attacker target : CombatantId) (hit : Bool)
    (amount : Int) (damageType : DamageType) :
    (e.afterAttack attacker target hit amount damageType).round = e.round := by
  cases hit <;> rfl

theorem alike_treated_spend (c : Combatant) (x : CombatantId) (kind : ActionKind) :
    Alike c (c.treated x (.spend kind)) := by
  unfold Combatant.treated
  split
  · exact c.alike_spend kind
  · exact .refl c

theorem takeDamage_of_alike (h : Alike c d) (amount : Int) (damageType : DamageType) :
    (d.takeDamage amount damageType).1 = (c.takeDamage amount damageType).1 ∧
      (d.takeDamage amount damageType).2.health = (c.takeDamage amount damageType).2.health := by
  simp only [Combatant.takeDamage, h.health, h.isPlayer, and_self]

/-- The target takes the damage of a hit with the health it had, also when it is the attacker. -/
theorem target_afterAttack (hd : e.find? target = some d) (attacker : CombatantId) (hit : Bool)
    (amount : Int) (damageType : DamageType) : ∃ d',
      (e.afterAttack attacker target hit amount damageType).find? target = some d' ∧
        d'.health =
          if hit then (d.takeDamage amount damageType).2.health else d.health := by
  have hpaid := alike_treated_spend d attacker .action
  cases hit with
  | false =>
      refine ⟨d.treated attacker (.spend .action), ?_, hpaid.health⟩
      rw [afterAttack, if_neg Bool.false_ne_true, find?_treated, hd, Option.map_some]
  | true =>
      have hid : (d.treated attacker (.spend .action)).id = target :=
        (Combatant.id_treated _ _ d).trans (id_of_find? hd)
      refine ⟨((d.treated attacker (.spend .action)).takeDamage amount damageType).2, ?_,
        (takeDamage_of_alike hpaid amount damageType).2⟩
      rw [afterAttack, if_pos rfl, find?_treated, find?_treated, hd, Option.map_some,
        Option.map_some, Combatant.treated, if_pos hid, Combatant.undergo]

/-- Whether or not it hits, the attacker has no action any more. -/
theorem attacker_afterAttack (hc : e.find? attacker = some c) (ha : c.hasAction = true)
    (target : CombatantId) (hit : Bool) (amount : Int) (damageType : DamageType) : ∃ c',
      (e.afterAttack attacker target hit amount damageType).find? attacker = some c' ∧
        c'.hasAction = false := by
  have hpaid : c.treated attacker (.spend .action) = c.charge .action :=
    (if_pos (id_of_find? hc)).trans (Combatant.attempt_spend_of_affords ha)
  cases hit with
  | false =>
      refine ⟨c.charge .action, ?_, rfl⟩
      rw [afterAttack, if_neg Bool.false_ne_true, find?_treated, hc, Option.map_some, hpaid]
  | true =>
      refine ⟨(c.charge .action).treated target (.damage amount damageType), ?_, ?_⟩
      · rw [afterAttack, if_pos rfl, find?_treated, find?_treated, hc, Option.map_some,
          Option.map_some, hpaid]
      · rw [Combatant.treated]
        split <;> rfl

/-! ### The steps of an attack -/

/-- The action is spent. -/
theorem spend_action_eq (hn : e.ids.Nodup) (hc : e.find? attacker = some c)
    (ha : c.hasAction = true) :
    e.spend attacker .action = (.ok (c.undergo (.spend .action)),
      e.treated attacker (.spend .action)) := by
  have hcharge : c.undergo (.spend .action) = c.charge .action :=
    Combatant.attempt_spend_of_affords ha
  have hspend : e.spend attacker .action = _ := spend_of_canSpend hc ha
  rw [hspend, ← hcharge, replace_undergo hn hc]

/-- A blow of `c` on `d` that is rolled for with `r` and leaves `r'`: on a hit the damage is rolled,
added up and taken, and on a miss there is none. -/
structure Struck (c d : Combatant) (hit critical : Bool) (r : Roller) (blow : Blow) (r' : Roller) :
    Prop where
  rolled : r.serveAll (damageAsked c hit critical) = (blow.rolls, r')
  total : blow.total = if hit then totalDamage c.damageBonus blow.rolls else 0
  outcome : blow.outcome =
    if hit then some (d.takeDamage blow.total c.damageType).1 else none

theorem Struck.length_rolls {hit critical : Bool} {r r' : Roller} {blow : Blow}
    (h : Struck c d hit critical r blow r') (hcritical : critical = true → hit = true) :
    blow.rolls.length = if critical then 2 else if hit then 1 else 0 := by
  have hlength := (r.records_serveAll (damageAsked c hit critical)).length_eq
  rw [h.rolled] at hlength
  rw [← hlength]
  cases critical with
  | false => cases hit <;> rfl
  | true =>
      rw [hcritical rfl]
      rfl

/-- What the log tells of a blow. -/
theorem Struck.damage {hit critical : Bool} {r r' : Roller} {blow : Blow}
    (h : Struck c d hit critical r blow r') :
    (blow.outcome.map (damageEntry d.id critical)).toList =
      if hit then [⟨d.id, (d.takeDamage blow.total c.damageType).1.taken, c.damageType, critical⟩]
      else [] := by
  rw [h.outcome]
  cases hit <;> rfl

theorem strike_eq (hn : e.ids.Nodup) (hd : e.find? target = some d) (c : Combatant)
    (hit critical : Bool) : ∃ blow r,
      e.strike c target hit critical = (.ok blow, { (if hit then
          e.treated target (.damage blow.total c.damageType) else e) with roller := r }) ∧
        Struck c d hit critical e.roller blow r := by
  cases hit with
  | false => exact ⟨_, e.roller, rfl, rfl, rfl, rfl⟩
  | true =>
      have hdamage (r : Roller) (amount : Int) (damageType : DamageType) :
          ({ e with roller := r } : Encounter).damage target amount damageType =
            (.ok (d.takeDamage amount damageType).1,
              ({ e with roller := r } : Encounter).replace (d.takeDamage amount damageType).2) :=
        change_of_find? (e := { e with roller := r }) hd
      have hblow (r : Roller) (event : Event) :
          ({ e with roller := r } : Encounter).replace (d.undergo event) =
            ({ e with roller := r } : Encounter).treated target event :=
        replace_undergo (e := { e with roller := r }) hn hd
      rw [strike, if_pos rfl, rollDamage_eq_serveAll]
      dsimp only
      rw [hdamage, Outcome.andThen_ok]
      exact ⟨_, _, congrArg (Prod.mk _) (hblow _ (.damage _ _)), rfl, rfl, rfl⟩

/-- The blow of an attacker that has paid for it.  What it does is read off the target as it was
before, who has paid if they attack themselves. -/
theorem strike_paid (hn : e.ids.Nodup) (hd : e.find? target = some d) (c : Combatant) (r : Roller)
    (hit critical : Bool) : ∃ blow r',
      (({ e with roller := r } : Encounter).treated c.id (.spend .action)).strike c target hit
          critical =
        (.ok blow, { e.afterAttack c.id target hit blow.total c.damageType with roller := r' }) ∧
      Struck c d hit critical r blow r' := by
  have hn' : (({ e with roller := r } : Encounter).treated c.id (.spend .action)).ids.Nodup :=
    (ids_treated _ _ _).symm ▸ hn
  have hd' : (({ e with roller := r } : Encounter).treated c.id (.spend .action)).find? target =
      some (d.treated c.id (.spend .action)) := by
    rw [find?_treated, show ({ e with roller := r } : Encounter).find? target = some d from hd,
      Option.map_some]
  obtain ⟨blow, r', hstrike, hrolled, htotal, houtcome⟩ := strike_eq hn' hd' c hit critical
  rw [(takeDamage_of_alike (alike_treated_spend d c.id .action) _ _).1] at houtcome
  refine ⟨blow, r', hstrike.trans ?_, hrolled, htotal, houtcome⟩
  cases hit <;> rfl

/-! ### A whole attack -/

/-- The attack of `c` on `d` has been carried out: `done` is its answer and `e'` the state after
it. -/
structure Resolved (e : Encounter) (c d : Combatant) (mode : Mode) (done : Attack)
    (e' : Encounter) : Prop where
  /-- The answer names both sides. -/
  parties : done.attacker = c.id ∧ done.target = d.id
  /-- The attack is rolled, and then the damage, with the dice of the fight. -/
  rolled : e.roller.serveAll (attackAsked c mode :: damageAsked c done.hit done.criticalHit) =
    (done.attackRoll :: done.damageRolls, e'.roller)
  /-- The rolls, and nothing else, join the history. -/
  history : e'.roller.history.toList =
    e.roller.history.toList ++ done.attackRoll :: done.damageRolls
  /-- It hits when the roll reaches the armour class. -/
  hit : done.hit = true ↔ d.armorClass ≤ done.attackRoll.total
  /-- A hit with a natural 20 is critical. -/
  criticalHit : done.criticalHit = true ↔ done.hit = true ∧ done.attackRoll.criticalHit = true
  /-- The answer tells of a natural 1. -/
  criticalFail : done.criticalFail = done.attackRoll.criticalFail
  /-- Damage is not rolled for on a miss, twice on a critical hit, and otherwise once. -/
  length_damageRolls : done.damageRolls.length =
    if done.criticalHit then 2 else if done.hit then 1 else 0
  /-- The bonus counts once. -/
  damageBonus : done.damageBonus = c.damageBonus
  /-- The damage is the bonus and what was rolled, held in range at every step; 0 on a miss. -/
  totalDamage : done.totalDamage =
    if done.hit then (done.damageRolls.map (·.total)).foldl Amount.add c.damageBonus else 0
  /-- The answer tells what the damage did. -/
  damage : done.damage =
    if done.hit then some (d.takeDamage done.totalDamage c.damageType).1 else none
  /-- The target takes the damage once if it is hit, and the answer tells what it has left. -/
  target : ∃ d', e'.find? d.id = some d' ∧
    d'.health = (if done.hit then (d.takeDamage done.totalDamage c.damageType).2.health
      else d.health) ∧
    done.targetHp = d'.health.current ∧ done.targetMaxHp = d'.health.maximum
  /-- A hit takes hit points, down to 0, and never gives any. -/
  targetHp : done.targetHp =
    if done.hit then max (d.health.current - max done.totalDamage 0) 0 else d.health.current
  /-- The attacker has no action any more. -/
  attacker : ∃ c', e'.find? c.id = some c' ∧ c'.hasAction = false
  /-- The attack is recorded once, as it is answered. -/
  recorded : ∃ deed, e'.log.entries.toList = e.log.entries.toList ++ [e.entryOf deed] ∧
    done.actionId = (e.entryOf deed).id ∧ deed.actor = c.id ∧ deed.kind = .action ∧
    deed.name = "Attack" ∧ deed.description = done.description ∧ deed.targets = [d.id] ∧
    deed.rolls = done.attackRoll :: done.damageRolls ∧
    deed.damage = if done.hit then
      [⟨d.id, (d.takeDamage done.totalDamage c.damageType).1.taken, c.damageType,
        done.criticalHit⟩] else []
  /-- Nothing else changes. -/
  rest : e' = { e.afterAttack c.id d.id done.hit done.totalDamage c.damageType with
    roller := e'.roller, log := e'.log }

/-- What is recorded of an attack. -/
def attackDeed (c d : Combatant) (roll : Roll) (hit critical : Bool) (blow : Blow) : Deed :=
  { actor := c.id, kind := .action, name := "Attack"
    description := attackText c d roll hit critical blow.outcome
    targets := [d.id], rolls := roll :: blow.rolls
    damage := (blow.outcome.map (damageEntry d.id critical)).toList
    effects := attackEffects roll hit critical blow.outcome }

/-- An attack that has everything it needs: the attack roll decides whether it hits, the attacker
pays, the blow is struck, and the deed is recorded. -/
theorem resolved_attack (hn : e.ids.Nodup) (hc : e.find? attacker = some c)
    (hd : e.find? target = some d) (ha : c.hasAction = true) (advantage disadvantage : Bool) :
    ∃ done e', e.attack attacker target advantage disadvantage = (.ok done, e') ∧
      Resolved e c d (.ofFlags advantage disadvantage) done e' := by
  obtain rfl := id_of_find? hc
  obtain rfl := id_of_find? hd
  rw [attack, lookup_of_find? hc, Outcome.andThen_ok, lookup_of_find? hd, Outcome.andThen_ok, ha,
    Bool.not_true, if_neg Bool.false_ne_true]
  dsimp only
  generalize Mode.ofFlags advantage disadvantage = mode
  -- the attack roll
  obtain ⟨roll, r, hserve⟩ : ∃ roll r, e.roller.serve (attackAsked c mode) = (roll, r) :=
    ⟨_, _, rfl⟩
  have hrolled : e.roller.rollFormula (.d20 c.attackBonus mode) (some "Attack Roll") = (roll, r) :=
    hserve
  rw [hrolled]
  dsimp only
  generalize hhit : decide (d.armorClass ≤ roll.total) = hit
  generalize hcritical : (hit && roll.criticalHit) = critical
  -- the price and the blow
  have hspend : ({ e with roller := r } : Encounter).spend c.id .action = _ :=
    spend_action_eq (e := { e with roller := r }) hn hc ha
  obtain ⟨blow, r', hstrike, hstruck⟩ := strike_paid hn hd c r hit critical
  obtain ⟨d', hd', hhealth⟩ := target_afterAttack hd c.id hit blow.total c.damageType
  obtain ⟨c', hc', haction⟩ := attacker_afterAttack hc ha d.id hit blow.total c.damageType
  have hafter : ({ e.afterAttack c.id d.id hit blow.total c.damageType with
    roller := r' } : Encounter).find? d.id = some d' := hd'
  rw [hspend, Outcome.andThen_ok, hstrike, Outcome.andThen_ok, lookup_of_find? hafter,
    Outcome.andThen_ok]
  have hrolls : e.roller.serveAll (attackAsked c mode :: damageAsked c hit critical) =
      (roll :: blow.rolls, r') := by
    rw [Roller.serveAll, hserve, hstruck.rolled]
  have hlog := e.log_afterAttack c.id d.id hit blow.total c.damageType
  have hround := e.round_afterAttack c.id d.id hit blow.total c.damageType
  refine ⟨_, _, rfl, ?_⟩
  exact {
    parties := ⟨rfl, rfl⟩
    rolled := hrolls
    history := by
      have hhistory := e.roller.history_serveAll (attackAsked c mode :: damageAsked c hit critical)
      rwa [hrolls] at hhistory
    hit := by rw [← hhit, decide_eq_true_eq]
    criticalHit := by rw [← hcritical, Bool.and_eq_true]
    criticalFail := rfl
    length_damageRolls := hstruck.length_rolls fun h =>
      (Bool.and_eq_true_iff.mp (hcritical.trans h)).1
    damageBonus := rfl
    totalDamage := by
      rw [List.foldl_map]
      exact hstruck.total
    damage := hstruck.outcome
    target := ⟨d', hd', hhealth, rfl, rfl⟩
    targetHp := by
      rw [hhealth]
      cases hit <;> rfl
    attacker := ⟨c', hc', haction⟩
    recorded := by
      refine ⟨attackDeed c d roll hit critical blow, ?_, ?_, rfl, rfl, rfl, rfl, rfl, rfl,
        hstruck.damage⟩
      · refine (entries_record _ (attackDeed c d roll hit critical blow)).trans ?_
        simp only [entryOf, hlog, hround]
      · simp only [record, ActionLog.record, entryOf, hlog]
    rest := rfl }

/-- An attack takes place exactly when both sides are at the table and the attacker has its
action. -/
theorem attack_ok_iff : (∃ done, (e.attack attacker target advantage disadvantage).1 = .ok done) ↔
    (∃ c, e.find? attacker = some c ∧ c.hasAction = true) ∧ ∃ d, e.find? target = some d := by
  constructor
  · rintro ⟨done, hdone⟩
    cases hc : e.find? attacker with
    | none =>
        rw [attack_of_unknown_attacker hc] at hdone
        cases hdone
    | some c =>
        cases hd : e.find? target with
        | none =>
            rw [attack_of_unknown_target hc hd] at hdone
            cases hdone
        | some d =>
            cases ha : c.hasAction with
            | false =>
                rw [attack_of_no_action hc hd ha] at hdone
                cases hdone
            | true => exact ⟨⟨c, rfl, ha⟩, d, rfl⟩
  · rintro ⟨⟨c, hc, ha⟩, d, hd⟩
    obtain ⟨done, e', hdone⟩ := attack_of_hasAction hc hd ha
    exact ⟨done, congrArg Prod.fst hdone⟩

/-- Whatever attack takes place is resolved. -/
theorem resolved_of_attack_ok (hn : e.ids.Nodup)
    (h : e.attack attacker target advantage disadvantage = (.ok done, e')) :
    ∃ c d, e.find? attacker = some c ∧ e.find? target = some d ∧
      Resolved e c d (.ofFlags advantage disadvantage) done e' := by
  obtain ⟨⟨c, hc, ha⟩, d, hd⟩ := attack_ok_iff.mp ⟨done, congrArg Prod.fst h⟩
  obtain ⟨_, _, hattack, hresolved⟩ := resolved_attack hn hc hd ha advantage disadvantage
  obtain ⟨hdone, rfl⟩ := Prod.mk.inj (h.symm.trans hattack)
  obtain rfl := Except.ok.inj hdone
  exact ⟨c, d, hc, hd, hresolved⟩

/-- **An attack, from the roll to the log.**  In every reachable state an attack takes place exactly
when both sides are at the table and the attacker has its action; and then it hits, deals damage and
is recorded as its rolls say, and nothing else changes. -/
theorem attack_resolved (h : Reachable e) (attacker target : CombatantId)
    (advantage disadvantage : Bool) :
    ((∃ done, (e.attack attacker target advantage disadvantage).1 = .ok done) ↔
      (∃ c, e.find? attacker = some c ∧ c.hasAction = true) ∧ ∃ d, e.find? target = some d) ∧
    ∀ done e', e.attack attacker target advantage disadvantage = (.ok done, e') →
      ∃ c d, e.find? attacker = some c ∧ e.find? target = some d ∧
        Resolved e c d (.ofFlags advantage disadvantage) done e' :=
  ⟨attack_ok_iff, fun _ _ hattack => resolved_of_attack_ok h.consistent.nodup hattack⟩

/-- Ann's critical hit with an advantage takes Bob's last hit points. -/
theorem attack_resolved_critical :
    let e := ((withDice .standard (.ofFaces [3, 20, 4, 2])).performAll
      [.add (.basic "Ann" 10 10), .add (.basic "Bob" 5 10)]).2
    ∃ done e' c d, e.attack ⟨1⟩ ⟨2⟩ true false = (.ok done, e') ∧
      Resolved e c d .advantage done e' ∧ done.criticalHit = true ∧ done.totalDamage = 6 ∧
      done.targetHp = 0 := by
  obtain ⟨-, hresolved⟩ := attack_resolved (e := ((withDice .standard
    (.ofFaces [3, 20, 4, 2])).performAll [.add (.basic "Ann" 10 10), .add (.basic "Bob" 5 10)]).2)
    ((Reachable.idle _ _).performAll _) ⟨1⟩ ⟨2⟩ true false
  obtain ⟨c, d, -, -, hattack⟩ := hresolved _ _ rfl
  exact ⟨_, _, c, d, rfl, hattack, rfl, rfl, rfl⟩

/-! ### Rolls that gave nothing -/

/-- An attack roll that gave nothing counts as 0. -/
theorem Resolved.of_isError {mode : Mode} (h : Resolved e c d mode done e')
    (herror : done.attackRoll.isError = true) :
    done.attackRoll.total = 0 ∧ done.attackRoll.criticalHit = false := by
  have hroll : (e.roller.serve (attackAsked c mode)).1 = done.attackRoll :=
    (List.cons.inj (congrArg Prod.fst h.rolled)).1
  rw [← hroll] at herror ⊢
  have hfailed : (e.roller.serve (attackAsked c mode)).1 = .failed _ _ _ :=
    Formula.record_of_isError herror
  rw [hfailed]
  exact ⟨rfl, rfl⟩

/-- **A roll that gave nothing counts as 0, and not as a failure.**  An attack whose roll carries an
error is never critical, and it hits exactly those whose armour class is 0 or less; nobody else is
hurt by it.  A check whose roll carries an error passes exactly when the difficulty class is 0 or
less. -/
theorem error_counts_as_zero (h : Reachable e) :
    (∀ attacker target advantage disadvantage done e',
      e.attack attacker target advantage disadvantage = (.ok done, e') →
      done.attackRoll.isError = true →
      ∃ d d', e.find? target = some d ∧ e'.find? target = some d' ∧ done.criticalHit = false ∧
        (done.hit = true ↔ d.armorClass ≤ 0) ∧ (0 < d.armorClass → d'.health = d.health)) ∧
    ∀ (r : Roller) (modifier difficulty : Int) (mode : Mode) (label : Option String),
      (r.check modifier difficulty mode label).1.roll.isError = true →
      ((r.check modifier difficulty mode label).1.passed = true ↔ difficulty ≤ 0) := by
  refine ⟨fun attacker target adv dis done e' hattack herror => ?_,
    fun r modifier difficulty mode label herror => ?_⟩
  · obtain ⟨c, d, -, hd, hresolved⟩ := resolved_of_attack_ok h.consistent.nodup hattack
    obtain ⟨htotal, hcritical⟩ := hresolved.of_isError herror
    obtain ⟨d', hd', hhealth, -⟩ := hresolved.target
    have hhit : done.hit = true ↔ d.armorClass ≤ 0 := htotal ▸ hresolved.hit
    refine ⟨d, d', hd, id_of_find? hd ▸ hd', ?_, hhit, fun hpos => ?_⟩
    · rw [← Bool.not_eq_true, hresolved.criticalHit, hcritical]
      exact fun hno => absurd hno.2 Bool.false_ne_true
    · have hmiss : ¬done.hit = true := fun hyes => by
        have hle := hhit.mp hyes
        omega
      rw [hhealth, if_neg hmiss]
  · have hfailed := congrArg Roll.total (Formula.record_of_isError herror)
    have htotal : (r.check modifier difficulty mode label).1.total = 0 := hfailed
    have hpassed : (r.check modifier difficulty mode label).1.passed =
        decide (difficulty ≤ (r.check modifier difficulty mode label).1.total) := rfl
    rw [hpassed, htotal, decide_eq_true_eq]

/-- Ann's attack bonus is too great for a total: she misses Bob, who is not hurt, and a check with
it does not pass. -/
theorem error_counts_as_zero_armoured :
    let e := ((withDice .standard (.ofFaces [10])).performAll
      [.add ((StatBlock.basic "Ann" 10 12).withWeapon 2147483647 "1d6" 0),
        .add (.basic "Bob" 10 13)]).2
    let checked := ((Roller.ofDice (.ofFaces [10])).check 2147483647 15 .normal none).1
    (∃ done e' d d', e.attack ⟨1⟩ ⟨2⟩ true false = (.ok done, e') ∧
      done.attackRoll.isError = true ∧ done.hit = false ∧ e.find? ⟨2⟩ = some d ∧
      e'.find? ⟨2⟩ = some d' ∧ d'.health = d.health) ∧
    checked.roll.isError = true ∧ ¬checked.passed = true := by
  obtain ⟨hattack, hcheck⟩ := error_counts_as_zero (e := ((withDice .standard
    (.ofFaces [10])).performAll [.add ((StatBlock.basic "Ann" 10 12).withWeapon 2147483647 "1d6" 0),
      .add (.basic "Bob" 10 13)]).2) ((Reachable.idle _ _).performAll _)
  obtain ⟨d, d', hd, hd', -, -, hhealth⟩ := hattack ⟨1⟩ ⟨2⟩ true false _ _ rfl rfl
  obtain rfl := Option.some.inj hd
  have hpassed := hcheck (.ofDice (.ofFaces [10])) 2147483647 15 .normal none rfl
  refine ⟨⟨_, _, _, d', rfl, rfl, rfl, rfl, hd', hhealth (by decide)⟩, rfl, ?_⟩
  rw [hpassed]
  decide

/-- Against armour class 0 the same roll hits and hurts, and a check with it passes. -/
theorem failed_roll_hits :
    let e := ((withDice .standard (.ofFaces [10, 6])).performAll
      [.add ((StatBlock.basic "Ann" 10 12).withWeapon 2147483647 "1d6" 0),
        .add (.basic "Bob" 10 0)]).2
    let checked := ((Roller.ofDice (.ofFaces [10])).check 2147483647 0 .normal none).1
    Reachable e ∧
      (∃ done e' d', e.attack ⟨1⟩ ⟨2⟩ false false = (.ok done, e') ∧
        done.attackRoll.isError = true ∧ done.hit = true ∧
        e'.find? ⟨2⟩ = some d' ∧ d'.health.current = 4) ∧
      checked.roll.isError = true ∧ checked.passed = true :=
  ⟨(Reachable.idle _ _).performAll _, ⟨_, _, _, rfl, rfl, rfl, rfl, rfl⟩, rfl, rfl⟩

end Encounter

end Tabletop
