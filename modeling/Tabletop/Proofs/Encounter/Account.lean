import Mathlib.Algebra.Ring.Int.Defs
import Tabletop.Proofs.Encounter.Reachable
import Tabletop.Proofs.Encounter.Record

/-!
# Encounter — what the log accounts for

The log tells what has become of everybody's hit points.  As long as damage is dealt by deeds alone
and nobody is healed, the entries for damage to somebody add up to what they are short of
(`Combatant.Bears`), down to 0.  A deed deals what it tells of, nothing else that happens touches
hit points, and nobody who joins has been told of before; so every step keeps `Accounted`, and every
run does (`log_accounts_for_damage`).
-/

namespace Tabletop

/-- The damage that some entries tell of for one combatant. -/
def dealtTo (id : CombatantId) (dealt : List DamageEntry) : Int :=
  ((dealt.filter fun entry => entry.target == id).map (·.amount)).sum

namespace ActionLog

/-- All entries for damage. -/
def damages (log : ActionLog) : List DamageEntry := log.entries.toList.flatMap (·.damage)

/-- The damage that the log tells of for one combatant. -/
def damageTo (log : ActionLog) (id : CombatantId) : Int := dealtTo id log.damages

end ActionLog

/-- The command changes hit points outright, without a deed. -/
def Command.isVital : Command → Bool
  | .damage .. | .heal .. => true
  | _ => false

theorem dealtTo_append (id : CombatantId) (dealt dealt' : List DamageEntry) :
    dealtTo id (dealt ++ dealt') = dealtTo id dealt + dealtTo id dealt' := by
  rw [dealtTo, List.filter_append, List.map_append, List.sum_append]
  rfl

theorem dealtTo_singleton (id : CombatantId) (entry : DamageEntry) :
    dealtTo id [entry] = if entry.target = id then entry.amount else 0 := by
  by_cases h : entry.target = id <;> simp [dealtTo, h]

theorem dealtTo_eq_zero {id : CombatantId} {dealt : List DamageEntry}
    (h : ∀ entry ∈ dealt, entry.target ≠ id) : dealtTo id dealt = 0 := by
  have hnone : (dealt.filter fun entry => entry.target == id) = [] := by
    simpa using h
  rw [dealtTo, hnone]
  rfl

theorem Command.isVital_of_price? {command : Command} {actor : CombatantId} {price : Event}
    (h : command.price? = some (actor, price)) : price.isVital = false := by
  cases command with
  | attack | cast | act | move => cases h; rfl
  | _ => cases h

theorem Command.isVital_of_causes {command : Command} {id : CombatantId} {event : Event}
    (h : command.Causes id event) (hv : command.isVital = false) (hd : command.isDeed = false) :
    event.isVital = false := by
  cases h with
  | damage | heal => cases hv
  | target => cases hd
  | _ => rfl

namespace Combatant

variable {c c' : Combatant} {s : Int}

/-- The combatant is short of as many hit points as the damage it has taken, down to 0. -/
def Bears (c : Combatant) (s : Int) : Prop := c.health.current = max 0 (c.health.maximum - s)

theorem Bears.of_health (h : c.Bears s) (hh : c'.health = c.health) : c'.Bears s := by
  rw [Bears, hh]
  exact h

theorem bears_ofStatBlock (id : CombatantId) (s : StatBlock) : (ofStatBlock id s).Bears 0 := by
  simp only [Bears, ofStatBlock, Health.full]
  omega

/-- Damage that is taken adds to what has been taken, even when there is nothing left to lose. -/
theorem Bears.takeDamage (h : c.Bears s) (amount : Int) (d : DamageType) :
    (c.takeDamage amount d).2.Bears (s + (c.takeDamage amount d).1.taken) := by
  simp only [Bears, Combatant.takeDamage, Health.damage] at h ⊢
  omega

end Combatant

namespace Encounter

variable {e e' : Encounter} {command : Command} {deed : Deed} {dealt : List DamageEntry}

/-- Everybody's hit points are what the log says, and it tells of nobody who has yet to join. -/
structure Accounted (e : Encounter) : Prop where
  bears : ∀ c ∈ e.combatants, c.Bears (e.log.damageTo c.id)
  issued : ∀ entry ∈ e.log.damages, entry.target.number < e.nextNumber

theorem accounted_withDice (settings : Settings) (dice : Dice) :
    (withDice settings dice).Accounted :=
  ⟨fun _ hm => absurd hm List.not_mem_nil, fun _ hm => absurd hm List.not_mem_nil⟩

/-! ### Deeds -/

theorem Done.damages (h : Done e command deed e') :
    e'.log.damages = e.log.damages ++ deed.damage := by
  rw [ActionLog.damages, h.entries, List.flatMap_append, List.flatMap_singleton]
  rfl

/-- Whoever bore what they were dealt before bears what is dealt to them now. -/
theorem Dealt.bears (h : Dealt e dealt e') {taken : CombatantId → Int}
    (hb : ∀ c ∈ e.combatants, c.Bears (taken c.id)) :
    ∀ c ∈ e'.combatants, c.Bears (taken c.id + dealtTo c.id dealt) := by
  intro c hm
  cases h with
  | nothing => exact (Int.add_zero (taken c.id)).symm ▸ hb c hm
  | @blow target d hd r amount damageType critical =>
      have hid : (d.takeDamage amount damageType).2.id = target := (id_of_find? hd : d.id = target)
      rw [dealtTo_singleton, show (damageEntry target critical _).target = target from rfl]
      rcases mem_replace hm with rfl | ⟨hm, hne⟩
      · rw [if_pos hid.symm, hid]
        have hbears : d.Bears (taken d.id) := hb d (mem_of_find? hd)
        rw [show d.id = target from id_of_find? hd] at hbears
        exact hbears.takeDamage amount damageType
      · rw [if_neg fun heq => hne (heq.symm.trans hid.symm), Int.add_zero]
        exact hb c hm

theorem Dealt.targets (h : Dealt e dealt e') :
    ∀ entry ∈ dealt, ∃ d ∈ e.combatants, d.id = entry.target := by
  intro entry hm
  cases h with
  | nothing => cases hm
  | blow hd r amount damageType critical =>
      rw [List.mem_singleton.mp hm]
      exact ⟨_, mem_of_find? hd, id_of_find? hd⟩

/-- Whoever a deed tells of is at the table. -/
theorem Done.targets (h : Done e command deed e') : ∀ entry ∈ deed.damage, entry.target ∈ e.ids := by
  intro entry hm
  cases h with
  | @intro c price e₁ _ hc _ r hd =>
      obtain ⟨d, hmem, htarget⟩ := hd.targets entry hm
      rw [← htarget]
      rcases mem_replace hmem with rfl | ⟨hmem, -⟩
      · exact List.mem_map.mpr ⟨c, mem_of_find? hc, (c.later_undergo price).id.symm⟩
      · exact List.mem_map.mpr ⟨d, hmem, rfl⟩

/-- What a deed deals is what it tells of. -/
theorem Done.accounted (h : Done e command deed e') (hc : e.Consistent) (ha : e.Accounted)
    (hn : e.nextNumber ≤ e'.nextNumber) : e'.Accounted where
  bears := by
    have hdamages := h.damages
    cases h with
    | @intro c price e₁ hp hf _ r hd =>
        -- the price is not paid in hit points
        have hpaid : ∀ d ∈ (e.replace (c.undergo price)).combatants,
            d.Bears (e.log.damageTo d.id) := by
          intro d hm
          rcases mem_replace hm with rfl | ⟨hm, -⟩
          · rw [(c.later_undergo price).id]
            exact (ha.bears c (mem_of_find? hf)).of_health
              (Combatant.health_undergo (Command.isVital_of_price? hp) c)
          · exact ha.bears d hm
        intro d hm
        rw [ActionLog.damageTo, hdamages, dealtTo_append]
        exact hd.bears hpaid d hm
  issued entry hm := by
    rw [h.damages, List.mem_append] at hm
    refine Nat.lt_of_lt_of_le ?_ hn
    exact hm.elim (ha.issued entry) fun hm => hc.issued _ (h.targets entry hm)

/-! ### Steps and runs -/

/-- What happens to those at the table apart from deeds leaves hit points and the log alone. -/
theorem Accounted.befalls {P : CombatantId → Event → Prop} (ha : e.Accounted)
    (h : Befalls P e e') (hp : ∀ id event, P id event → event.isVital = false)
    (hl : e'.log = e.log) (hn : e.nextNumber ≤ e'.nextNumber) : e'.Accounted where
  bears c' hm := by
    obtain ⟨c, hc, hlives⟩ := exists_of_forall₂ h hm
    rw [hl, hlives.later.id]
    obtain ⟨events, hevents, rfl⟩ := hlives
    exact (ha.bears c hc).of_health
      (Combatant.health_undergoAll (fun event he => hp _ event (hevents event he)) c)
  issued entry hm := by
    rw [hl] at hm
    exact Nat.lt_of_lt_of_le (ha.issued entry hm) hn

/-- The log does not tell of anybody who has yet to join. -/
theorem Accounted.add (ha : e.Accounted) (s : StatBlock) : (e.add s).2.Accounted where
  bears c hm := by
    rcases List.mem_append.mp hm with hm | hm
    · exact ha.bears c hm
    · have hzero : e.log.damageTo ⟨e.nextNumber⟩ = 0 := dealtTo_eq_zero fun entry hm heq =>
        Nat.lt_irrefl e.nextNumber (by simpa [heq] using ha.issued entry hm)
      rw [List.mem_singleton.mp hm]
      exact hzero.symm ▸ Combatant.bears_ofStatBlock _ _
  issued entry hm := Nat.lt_succ_of_lt (ha.issued entry hm)

theorem Accounted.without (ha : e.Accounted) (id : CombatantId) : (e.without id).Accounted where
  bears c hm := ha.bears c (List.mem_filter.mp hm).1
  issued := ha.issued

/-- Every command that does not change hit points outright keeps the account. -/
theorem accounted_perform (hc : e.Consistent) (ha : e.Accounted) (hv : command.isVital = false) :
    (e.perform command).2.Accounted := by
  have hstep := step_perform hc command
  have hn := hstep.nextNumber_le hc
  cases hd : command.isDeed with
  | true =>
      rcases done_or_refused hc hd with ⟨_, deed, -, hdone⟩ | ⟨_, -, hsame⟩
      · exact hdone.accounted hc ha hn
      · rw [hsame]
        exact ha
  | false =>
      rcases hstep.befalls hc.nodup with ⟨s, -, heq⟩ | ⟨id, -, heq⟩ | hb
      · rw [heq]
        exact ha.add s
      · rw [heq]
        exact ha.without id
      · exact ha.befalls hb (fun _ _ h => Command.isVital_of_causes h hv hd) (log_perform hc hd) hn

theorem accounted_performAll (hc : e.Consistent) (ha : e.Accounted) {commands : List Command}
    (hv : ∀ command ∈ commands, command.isVital = false) : (e.performAll commands).2.Accounted := by
  induction commands generalizing e with
  | nil => exact ha
  | cons command rest ih =>
      exact ih ((step_perform hc command).consistent hc)
        (accounted_perform hc ha (hv command List.mem_cons_self))
        fun other hm => hv other (List.mem_cons_of_mem _ hm)

/-- **The log accounts for hit points.**  In every run in which nobody is damaged or healed outright,
everybody at the table has at every point what the damage that the log tells of for them leaves of
their maximum, and 0 if it is more than that. -/
theorem log_accounts_for_damage (settings : Settings) (dice : Dice) (commands : List Command)
    (h : ∀ command ∈ commands, command.isVital = false) :
    let now := ((withDice settings dice).performAll commands).2
    ∀ c ∈ now.combatants,
      c.health.current = max 0 (c.health.maximum - now.log.damageTo c.id) :=
  (accounted_performAll (consistent_withDice settings dice) (accounted_withDice settings dice)
    h).bears

/-- A critical hit takes seven hit points from Bob, who has five, before Ann leaves. -/
theorem log_accounts_for_damage_overkill :
    let commands : List Command := [.add (.basic "Ann" 10 10), .add (.basic "Bob" 5 10),
      .attack ⟨1⟩ ⟨2⟩ false false, .remove ⟨1⟩]
    let now := ((withDice .standard (.ofFaces [20, 4, 3])).performAll commands).2
    ∃ c ∈ now.combatants, c.name = "Bob" ∧ now.log.damageTo c.id = 7 ∧
      c.health.current = max 0 (5 - 7) := by
  intro commands now
  have hall := log_accounts_for_damage .standard (.ofFaces [20, 4, 3]) commands (by decide)
  exact ⟨_, .head _, rfl, rfl, hall _ (.head _)⟩

end Encounter

end Tabletop
