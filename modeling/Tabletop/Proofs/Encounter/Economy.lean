import Mathlib.Data.List.DropRight
import Tabletop.Proofs.Creature.Economy
import Tabletop.Proofs.Encounter.Deed
import Tabletop.Proofs.Encounter.Fairness

/-!
# Encounter — what turns allow

Deeds are paid for out of turns, and nothing else is.  `Pays` balances what somebody at the table
had left of their turn against what they have left later and the prices of their deeds in between.
Every step keeps this balance for those whom it does not give a turn (`pays_perform`), and whoever
gets one has everything back (`restedAt_perform`).  For a whole run it is `deeds_within_turn`: what
somebody has left tells what they have done since their last turn came, and between two turns there
is one action for all attacks, spells and other actions together, one bonus action and one reaction.
-/

namespace Tabletop

theorem Command.isIdle_of_causes {command : Command} {id : CombatantId} {event : Event}
    (h : command.Causes id event) (hs : command.isSteady = true)
    (hd : command.isDeed = false) : event.isIdle = true := by
  cases h with
  | refresh hc | age hc => rcases hc with rfl | ⟨_, rfl⟩ <;> cases hs
  | initiative | ready => cases hs
  | attacker | target | cast | act | move => cases hd
  | _ => rfl

namespace Encounter

open Combatant (Spends Rested)

variable {e e' e'' : Encounter} {c d : Combatant} {id : CombatantId} {command : Command}
  {deed : Deed} {paid paid' : List Event} {places : List (CombatantId × Nat)}

/-! ### What a run says of turns -/

/-- By the reply the combatant gets its turn back: the fight begins, or the turn visits it. -/
def resets (id : CombatantId) (reply : Except EncounterError Reply) : Bool :=
  opens reply || (visited reply).contains id

/-- By the reply the combatant has all that a turn allows: it joins, or it gets its turn back. -/
def renews (id : CombatantId) (reply : Except EncounterError Reply) : Bool :=
  issued? reply == some id || resets id reply

/-- What a combatant pays at a moment of a run: the price of its deed, unless that is refused. -/
def payment? (id : CombatantId) (m : Encounter × Command) : Option Event :=
  match m.2.price?, (m.1.perform m.2).1 with
  | some (actor, price), .ok _ => if actor = id then some price else none
  | _, _ => none

/-- What a combatant pays at some moments. -/
def payments (id : CombatantId) (ms : List (Encounter × Command)) : List Event :=
  ms.filterMap (payment? id)

/-- The moments since a combatant last joined or got its turn back. -/
def sinceRenewed (id : CombatantId) (ms : List (Encounter × Command)) :
    List (Encounter × Command) :=
  ms.rtakeWhile fun m => !renews id (m.1.perform m.2).1

theorem payment?_of_error {err : EncounterError} (h : (e.perform command).1 = .error err) :
    payment? id (e, command) = none := by
  simp only [payment?, h]
  split
  · contradiction
  · rfl

theorem payment?_of_not_deed (h : command.isDeed = false) : payment? id (e, command) = none := by
  have hp : command.price? = none := by simpa [Command.isDeed] using h
  simp only [payment?, hp]

theorem payment?_of_deed {actor : CombatantId} {price : Event} {reply : Reply}
    (hp : command.price? = some (actor, price)) (h : (e.perform command).1 = .ok reply) :
    payment? id (e, command) = if actor = id then some price else none := by
  simp only [payment?, hp, h]

theorem payments_append (id : CombatantId) (ms ms' : List (Encounter × Command)) :
    payments id (ms ++ ms') = payments id ms ++ payments id ms' :=
  List.filterMap_append

theorem payments_singleton (id : CombatantId) (m : Encounter × Command) :
    payments id [m] = (payment? id m).toList := by
  cases h : payment? id m with
  | none => rw [payments, List.filterMap_cons_none h]; rfl
  | some price => rw [payments, List.filterMap_cons_some h]; rfl

theorem sinceRenewed_concat (id : CombatantId) (ms : List (Encounter × Command))
    (m : Encounter × Command) : sinceRenewed id (ms ++ [m]) =
      if renews id (m.1.perform m.2).1 then [] else sinceRenewed id ms ++ [m] := by
  rw [sinceRenewed, List.rtakeWhile_concat]
  cases renews id (m.1.perform m.2).1 <;> rfl

/-! ### The balance -/

/-- From `e` to `e'` a combatant pays certain prices out of what it has left of its turn.  Somebody
who is not at the table pays nothing and does not come back. -/
structure Pays (id : CombatantId) (e : Encounter) (paid : List Event) (e' : Encounter) : Prop where
  absent : e.find? id = none → paid = [] ∧ e'.find? id = none
  present : ∀ c, e.find? id = some c → ∃ c', Spends c paid c' ∧ ∀ d, e'.find? id = some d → d = c'

theorem pays_of_find? (h : e'.find? id = e.find? id) : Pays id e [] e' where
  absent hn := ⟨rfl, h.trans hn⟩
  present c hc := ⟨c, .refl c, fun _ hd => Option.some.inj ((h.symm.trans hd).symm.trans hc)⟩

theorem Pays.append (h : Pays id e paid e') (h' : Pays id e' paid' e'') :
    Pays id e (paid ++ paid') e'' where
  absent hn := by
    obtain ⟨rfl, hn'⟩ := h.absent hn
    exact h'.absent hn'
  present c hc := by
    obtain ⟨c', hspends, hsame⟩ := h.present c hc
    cases hf : e'.find? id with
    | none =>
        obtain ⟨rfl, hn⟩ := h'.absent hf
        exact ⟨c', (List.append_nil paid).symm ▸ hspends, fun d hd => nomatch hn.symm.trans hd⟩
    | some d =>
        obtain rfl := hsame d hf
        obtain ⟨c'', hspends', hsame'⟩ := h'.present d hf
        exact ⟨c'', hspends.trans hspends', hsame'⟩

theorem Befalls.pays {P : CombatantId → Event → Prop} (h : Befalls P e e')
    (hp : ∀ event, P id event → event.isIdle = true) : Pays id e [] e' where
  absent hn := by
    rcases h.find? id with ⟨-, hn'⟩ | ⟨c, c', hc, -, -⟩
    · exact ⟨rfl, hn'⟩
    · exact nomatch hn.symm.trans hc
  present c hc := by
    obtain ⟨c', hc', hl⟩ := h.exists_find? hc
    have hid : c.id = id := id_of_find? hc
    exact ⟨c', hl.spends fun event he => hp event (hid ▸ he),
      fun d hd => Option.some.inj (hd.symm.trans hc')⟩

/-- Somebody pays, and stays where they are. -/
theorem pays_replace (hc : e.find? id = some c) (hid : d.id = id) (h : Spends c paid d) :
    Pays id e paid (e.replace d) where
  absent hn := nomatch hn.symm.trans hc
  present c₀ hc₀ := by
    cases hc.symm.trans hc₀
    refine ⟨d, h, fun d' hd' => ?_⟩
    rw [find?_replace, if_pos hid.symm, hc, Option.map_some] at hd'
    exact (Option.some.inj hd').symm

theorem pays_replace_of_ne (h : id ≠ c.id) : Pays id e [] (e.replace c) :=
  pays_of_find? (by rw [find?_replace, if_neg h])

/-! ### Deeds -/

/-- Nobody pays for what is dealt to them. -/
theorem Dealt.pays {dealt : List DamageEntry} (h : Dealt e dealt e') : Pays id e [] e' := by
  cases h with
  | nothing => exact pays_of_find? rfl
  | @blow target d hd r amount damageType critical =>
      have hid : (d.takeDamage amount damageType).2.id = target := (id_of_find? hd : d.id = target)
      have hhurt : Spends d [] (d.undergo (.damage amount damageType)) :=
        Combatant.spends_of_isIdle rfl d
      have hroll : Pays id e [] { e with roller := r } := pays_of_find? rfl
      refine hroll.append ?_
      by_cases ho : id = target
      · subst ho
        exact pays_replace hd hid hhurt
      · exact pays_replace_of_ne (hid.symm ▸ ho)

/-- Whoever does a deed pays for it, and nobody else does. -/
theorem Done.pays (h : Done e command deed e') (id : CombatantId) :
    ∃ price, command.price? = some (deed.actor, price) ∧
      Pays id e (if deed.actor = id then [price] else []) e' := by
  cases h with
  | @intro c price e₁ hp hc ha r hd =>
      have hid : (c.undergo price).id = deed.actor :=
        (c.later_undergo price).id.trans (id_of_find? hc)
      have hroll : Pays id (e.replace (c.undergo price)) []
          { e.replace (c.undergo price) with roller := r } := pays_of_find? rfl
      have hrecord : Pays id e₁ [] (e₁.record deed).2 := pays_of_find? rfl
      refine ⟨price, hp, ?_⟩
      rw [← List.append_nil (if deed.actor = id then [price] else [])]
      refine Pays.append ?_ (hroll.append (hd.pays.append hrecord))
      by_cases ho : deed.actor = id
      · rw [if_pos ho]
        exact pays_replace (ho ▸ hc) (hid.trans ho)
          (Combatant.spends_undergo ha (Command.price?_ne_resetTurn hp))
      · rw [if_neg ho]
        exact pays_replace_of_ne (hid.symm ▸ Ne.symm ho)

/-! ### Turns -/

/-- A combatant has everything that a turn allows, if it is at the table. -/
def RestedAt (e : Encounter) (id : CombatantId) : Prop := ∀ c, e.find? id = some c → c.Rested

theorem spends_aged (timing : ConditionTiming) (place : Nat) (c : Combatant) :
    Spends c [] (aged timing place c) :=
  (lives_aged (P := fun _ event => event = .ageConditions) (fun _ => rfl) timing place c).spends
    fun _ h => h ▸ rfl

theorem rested_refresh (timing : ConditionTiming) (c : Combatant) :
    (refresh timing c).2.Rested := by
  have hreset := c.rested_resetTurn
  cases timing with
  | roundEnd => exact hreset
  | turnStart =>
      have haged : Spends c.resetTurn [] (c.resetTurn.undergo .ageConditions) :=
        Combatant.spends_of_isIdle rfl _
      exact hreset.spends haged

theorem restedAt_visit {stop : CombatantId × Nat} (h : RestedAt e id ∨ stop.1 = id) :
    RestedAt (e.visit stop).2 id := by
  obtain ⟨other, place⟩ := stop
  intro c' hc'
  rw [find?_visit] at hc'
  obtain ⟨c, hc, rfl⟩ := Option.map_eq_some_iff.mp hc'
  by_cases ho : id = other
  · simp only [if_pos ho]
    exact rested_refresh _ _
  · simp only [if_neg ho]
    have hrested := (h.resolve_right fun heq => ho heq.symm) c hc
    exact hrested.spends (spends_aged _ _ _)

/-- Whoever is visited has a turn, and whoever has one keeps it on the way. -/
theorem restedAt_walk (h : RestedAt e id ∨ id ∈ places.map (·.1)) :
    RestedAt (e.walk places) id := by
  induction places generalizing e with
  | nil => exact h.resolve_right List.not_mem_nil
  | cons stop rest ih =>
      rw [List.map_cons, List.mem_cons] at h
      refine ih ?_
      rcases h with h | h | h
      · exact .inl (restedAt_visit (.inl h))
      · exact .inl (restedAt_visit (.inr h.symm))
      · exact .inr h

theorem pays_visit {stop : CombatantId × Nat} (h : id ≠ stop.1) :
    Pays id e [] (e.visit stop).2 where
  absent hn := ⟨rfl, by rw [find?_visit, hn, Option.map_none]⟩
  present c hc := by
    refine ⟨_, spends_aged e.settings.conditionTiming stop.2 c, fun d hd => ?_⟩
    rw [find?_visit, hc, Option.map_some] at hd
    simp only [if_neg h] at hd
    exact (Option.some.inj hd).symm

/-- Those who are not visited keep what they have left. -/
theorem pays_walk (h : id ∉ places.map (·.1)) : Pays id e [] (e.walk places) := by
  induction places generalizing e with
  | nil => exact pays_of_find? rfl
  | cons stop rest ih =>
      rw [List.map_cons, List.mem_cons, not_or] at h
      exact (pays_visit h.1).append (ih h.2)

theorem rested_readyWith (cs : List Combatant) (r : Roller) :
    ∀ c ∈ List.zipWith readyWith (rollInitiative cs r).1 cs, c.Rested := by
  induction cs generalizing r with
  | nil => exact fun _ hm => absurd hm List.not_mem_nil
  | cons other rest ih =>
      intro c hm
      rcases List.mem_cons.mp hm with rfl | hm
      · exact Combatant.rested_resetTurn _
      · exact ih _ c hm

theorem restedAt_begun (e : Encounter) (id : CombatantId) : RestedAt e.begun id :=
  fun c hc => rested_readyWith _ _ c (mem_of_find? hc)

theorem restedAt_add (hc : e.Consistent) (s : StatBlock) :
    RestedAt (e.add s).2 ⟨e.nextNumber⟩ := by
  intro c hf
  rcases List.mem_append.mp (mem_of_find? hf) with hm | hm
  · -- the identity has not been issued before
    have hlt := hc.issued c.id (List.mem_map.mpr ⟨c, hm, rfl⟩)
    rw [id_of_find? hf] at hlt
    exact absurd hlt (Nat.lt_irrefl _)
  · rw [List.mem_singleton.mp hm]
    exact Combatant.rested_ofStatBlock _ _

/-! ### Steps -/

/-- Whoever joins or gets a turn has all of it. -/
theorem restedAt_perform (hc : e.Consistent) (h : renews id (e.perform command).1 = true) :
    RestedAt (e.perform command).2 id := by
  have hstep := step_perform hc command
  generalize (e.perform command).1 = reply, (e.perform command).2 = e' at h hstep
  cases hstep with
  | joined s =>
      have hid : ⟨e.nextNumber⟩ = id := by
        simpa [renews, resets, issued?, opens, visited] using h
      exact hid ▸ restedAt_add hc s
  | begun hp hne report => exact restedAt_begun e id
  | turned hcmd ha ht =>
      refine restedAt_walk (.inr ?_)
      rw [← ht.visited]
      simpa [renews, resets, issued?, opens] using h
  | plain _ hr _ =>
      simp [renews, resets, issued?_of_isPlain hr, opens_of_isPlain hr, visited_of_isPlain hr] at h
  | _ => simp [renews, resets, issued?, opens, visited] at h

/-- Whoever is not given a turn by a command, and does not join by it, pays for what they do by it
and for nothing else. -/
theorem pays_perform (hc : e.Consistent) (hi : issued? (e.perform command).1 ≠ some id)
    (hr : resets id (e.perform command).1 = false) :
    Pays id e (payment? id (e, command)).toList (e.perform command).2 := by
  cases hd : command.isDeed with
  | true =>
      rcases done_or_refused hc hd with ⟨reply, deed, hreply, hdone⟩ | ⟨err, hreply, hsame⟩
      · obtain ⟨price, hp, hpays⟩ := hdone.pays id
        rw [payment?_of_deed hp hreply]
        by_cases ho : deed.actor = id
        · rw [if_pos ho] at hpays ⊢
          exact hpays
        · rw [if_neg ho] at hpays ⊢
          exact hpays
      · rw [payment?_of_error hreply, hsame]
        exact pays_of_find? rfl
  | false =>
      rw [payment?_of_not_deed hd]
      have hstep := step_perform hc command
      generalize (e.perform command).1 = reply, (e.perform command).2 = e' at hi hr hstep
      cases hstep with
      | plain hs _ h => exact h.befalls.pays fun event hcause =>
          Command.isIdle_of_causes hcause hs hd
      | joined s => exact pays_of_find? (find?_add_of_ne (fun heq => hi (heq ▸ rfl)) s)
      | @left other _ h =>
          by_cases ho : id = other
          · subst ho
            exact ⟨fun _ => ⟨rfl, find?_without_self⟩, fun c _ => ⟨c, .refl c, fun d hd =>
              nomatch find?_without_self.symm.trans hd⟩⟩
          · exact pays_of_find? (find?_without ho)
      | begun hp hne report => simp [resets, opens] at hr
      | turned hcmd ha ht =>
          refine pays_walk ?_
          rw [← ht.visited]
          simpa [resets, opens] using hr
      | refused | nobody | paused | resumed | finished => exact pays_of_find? rfl

/-! ### Runs -/

/-- An identity that has been issued is not issued again. -/
theorem Step.issued_ne {reply : Except EncounterError Reply} (h : Step e command reply e')
    (hc : e.Consistent) (hid : id.number < e.nextNumber) : issued? reply ≠ some id := by
  intro hi
  rcases h.issued hc with ⟨hn, -, -⟩ | ⟨hn, -, -⟩
  · cases hi.symm.trans hn
    exact Nat.lt_irrefl _ hid
  · exact nomatch hi.symm.trans hn

/-- Where a combatant is not given a turn, it pays for its deeds out of what it has. -/
theorem pays_performAll (hc : e.Consistent) (hid : id.number < e.nextNumber)
    {commands : List Command}
    (hr : ∀ reply ∈ (e.performAll commands).1, resets id reply = false) :
    Pays id e (payments id (e.moments commands)) (e.performAll commands).2 := by
  induction commands generalizing e with
  | nil => exact pays_of_find? rfl
  | cons command rest ih =>
      have hstep := step_perform hc command
      have hid' := Nat.lt_of_lt_of_le hid (hstep.nextNumber_le hc)
      have hfirst := pays_perform hc (hstep.issued_ne hc hid) (hr _ List.mem_cons_self)
      have hrest := ih (hstep.consistent hc) hid' fun reply hm =>
        hr reply (List.mem_cons_of_mem _ hm)
      rw [moments, ← List.singleton_append, payments_append, payments_singleton]
      exact hfirst.append hrest

/-- Everybody at the table had a whole turn once, and what they have left of it is what they have
not paid since. -/
theorem spends_sinceRenewed (settings : Settings) (dice : Dice) (history : List Command)
    (h : ((withDice settings dice).performAll history).2.find? id = some c) :
    ∃ r : Combatant, r.Rested ∧
      Spends r (payments id (sinceRenewed id ((withDice settings dice).moments history))) c := by
  -- by induction on the history from its end, where the last turn came or did not
  induction history using List.reverseRecOn generalizing c with
  | nil => cases h
  | append_singleton rest command ih =>
      rw [performAll_append] at h
      rw [moments_append]
      have hc := ((Reachable.idle settings dice).performAll rest).consistent
      generalize hnow : ((withDice settings dice).performAll rest).2 = now at h hc ih ⊢
      have h : (now.perform command).2.find? id = some c := h
      rw [show now.moments [command] = [(now, command)] from rfl, sinceRenewed_concat]
      cases hn : renews id (now.perform command).1 with
      | true =>
          rw [if_pos rfl]
          exact ⟨c, restedAt_perform hc hn c h, .refl c⟩
      | false =>
          obtain ⟨hi, hr⟩ := Bool.or_eq_false_iff.mp hn
          have hpays := pays_perform hc (fun heq => by simp [heq] at hi) hr
          rw [if_neg Bool.false_ne_true, payments_append, payments_singleton]
          cases hd : now.find? id with
          | none => exact nomatch (hpays.absent hd).2.symm.trans h
          | some d =>
              obtain ⟨r, hrested, hspent⟩ := ih hd
              obtain ⟨c', hspends, hsame⟩ := hpays.present d hd
              cases hsame c h
              exact ⟨r, hrested, hspent.trans hspends⟩

/-- **Deeds stay within the turn.**  At every point of every run, somebody at the table has used up
their action, bonus action or reaction exactly if they have paid for it by a deed since they joined
or last got a turn, and the feet that they have left are those that they have not moved since.  From
then on, as long as the fight does not begin and the turn does not visit them, they do at most one
deed that takes their action, be it an attack, a spell or another, at most one that takes their
bonus action and one that takes their reaction, and move no further than a turn allows. -/
theorem deeds_within_turn (settings : Settings) (dice : Dice) (history : List Command)
    (h : ((withDice settings dice).performAll history).2.find? id = some c) :
    let now := ((withDice settings dice).performAll history).2
    let since := payments id (sinceRenewed id ((withDice settings dice).moments history))
    (∀ kind ∈ ActionKind.slots,
        c.canSpend kind = false ↔ ∃ price ∈ since, price.spends kind = true) ∧
      c.movement + (since.map Event.feet).sum = c.maxMovement ∧
      ∀ stretch : List Command,
        (∀ reply ∈ (now.performAll stretch).1, resets id reply = false) →
        let during := payments id (now.moments stretch)
        (∀ kind ∈ ActionKind.slots, during.countP (Event.spends kind) ≤ 1) ∧
          (during.map Event.feet).sum ≤ c.maxMovement := by
  intro now since
  have hc : now.Consistent := ((Reachable.idle settings dice).performAll history).consistent
  have hm : c ∈ now.combatants := mem_of_find? h
  obtain ⟨r, hrested, hspent⟩ := spends_sinceRenewed settings dice history h
  obtain ⟨hslots, hfeet⟩ := hspent.of_rested hrested
  refine ⟨hslots, hfeet, fun stretch hr => ?_⟩
  have hid : id.number < now.nextNumber := by
    rw [← id_of_find? h]
    exact hc.issued c.id (List.mem_map.mpr ⟨c, hm, rfl⟩)
  obtain ⟨c', hspends, -⟩ := (pays_performAll hc hid hr).present c h
  obtain ⟨hone, hle⟩ := hspends.le
  exact ⟨hone, Nat.le_trans hle (hc.feet c hm)⟩

/-- Ann casts a spell and walks ten feet; then she can neither attack nor walk thirty feet more. -/
theorem deeds_within_turn_spell :
    let e := withDice .standard (.ofFaces [])
    let history : List Command := [.add (.basic "Ann" 10 10), .add (.basic "Bob" 10 10),
      .cast ⟨1⟩ "Light" [⟨2⟩] 0, .move ⟨1⟩ 10]
    let stretch : List Command := [.attack ⟨1⟩ ⟨2⟩ false false, .move ⟨1⟩ 30, .move ⟨1⟩ 20]
    ∃ c, (e.performAll history).2.find? ⟨1⟩ = some c ∧ c.canSpend .action = false ∧
      c.movement + 10 = c.maxMovement ∧
      let during := payments ⟨1⟩ ((e.performAll history).2.moments stretch)
      during.countP (Event.spends .action) ≤ 1 ∧ (during.map Event.feet).sum ≤ c.maxMovement := by
  intro e history stretch
  obtain ⟨c, hc⟩ : ∃ c, (e.performAll history).2.find? ⟨1⟩ = some c := ⟨_, rfl⟩
  obtain ⟨hslots, hfeet, hstretch⟩ := deeds_within_turn .standard (.ofFaces []) history hc
  obtain ⟨hone, hle⟩ := hstretch stretch (by decide)
  exact ⟨c, hc, (hslots .action (by decide)).mpr ⟨.spend .action, .head _, rfl⟩, hfeet,
    hone .action (by decide), hle⟩

end Encounter

end Tabletop
