import Tabletop.Encounter.Skirmish
import Tabletop.Proofs.Encounter.Reachable

/-!
# Encounter — one pass of a skirmish

What one pass of a skirmish does (`Passes`).  While there are rounds to count it can be refused for
one reason only: whoever has the turn wants to attack and has no action left (`Stuck`).  A pass
that goes on leaves the turn with somebody who has their action back (`ready_walk`), so this can
happen in the first pass alone.
-/

namespace Tabletop

namespace Encounter

variable {e e' : Encounter} {c : Combatant} {maxRounds : Nat} {lines : List String}

/-- Somebody in the turn order is up and on the other side. -/
def HasFoe (e : Encounter) (c : Combatant) : Prop :=
  ∃ id ∈ e.order, ∃ foe, e.find? id = some foe ∧ foe.isAlive = true ∧ foe.isPlayer ≠ c.isPlayer

/-- Whoever has the turn is up and has a foe, but has no action left. -/
def Stuck (e : Encounter) : Prop :=
  ∃ c, e.current? = some c ∧ c.isAlive = true ∧ e.HasFoe c ∧ c.hasAction = false

/-- Whoever has the turn has their action. -/
def Ready (e : Encounter) : Prop := ∀ c, e.current? = some c → c.hasAction = true

theorem Ready.not_stuck (h : e.Ready) : ¬ e.Stuck := by
  rintro ⟨c, hc, -, -, hno⟩
  rw [h c hc] at hno
  cases hno

/-! ### The planned attack -/

theorem find?_of_firstFoe? {foe : CombatantId} (h : e.firstFoe? c = some foe) :
    ∃ d, e.find? foe = some d := by
  obtain ⟨d, hd, rfl⟩ := Option.map_eq_some_iff.mp h
  obtain ⟨id, -, hid⟩ := List.mem_filterMap.mp (List.mem_of_find?_eq_some hd)
  rw [id_of_find? hid]
  exact ⟨d, hid⟩

theorem isSome_firstFoe?_iff : (e.firstFoe? c).isSome ↔ e.HasFoe c := by
  rw [firstFoe?, Option.isSome_map, List.find?_isSome]
  constructor
  · rintro ⟨foe, hm, hfoe⟩
    obtain ⟨id, hid, hfound⟩ := List.mem_filterMap.mp hm
    obtain ⟨halive, hside⟩ := Bool.and_eq_true_iff.mp hfoe
    exact ⟨id, hid, foe, hfound, halive, bne_iff_ne.mp hside⟩
  · rintro ⟨id, hid, foe, hfound, halive, hside⟩
    exact ⟨foe, List.mem_filterMap.mpr ⟨id, hid, hfound⟩,
      Bool.and_eq_true_iff.mpr ⟨halive, bne_iff_ne.mpr hside⟩⟩

/-- An attack is planned by whoever has the turn, if they are up and have a foe. -/
theorem plannedAttack?_cases :
    e.plannedAttack? = none ∧ ¬ e.Stuck ∨
      ∃ c foe, e.plannedAttack? = some (c.id, foe) ∧ e.current? = some c ∧ c.isAlive = true ∧
        e.firstFoe? c = some foe := by
  unfold plannedAttack?
  cases hcur : e.current? with
  | none =>
      refine .inl ⟨rfl, ?_⟩
      rintro ⟨c, hc, -⟩
      exact nomatch hcur.symm.trans hc
  | some c =>
      cases halive : c.isAlive with
      | false =>
          have hdown : ¬ c.isAlive = true := by rw [halive]; decide
          refine .inl ⟨by rw [Option.filter_some, if_neg hdown, Option.bind_none], ?_⟩
          rintro ⟨d, hd, hup, -⟩
          cases hcur.symm.trans hd
          exact nomatch halive.symm.trans hup
      | true =>
          rw [Option.filter_some, if_pos halive, Option.bind_some]
          cases hfoe : e.firstFoe? c with
          | some foe => exact .inr ⟨c, foe, rfl, rfl, halive, hfoe⟩
          | none =>
              refine .inl ⟨rfl, ?_⟩
              rintro ⟨d, hd, -, hhas, -⟩
              cases hcur.symm.trans hd
              rw [← isSome_firstFoe?_iff, hfoe] at hhas
              cases hhas

theorem takeSkirmishTurn_of_stuck (h : e.Stuck) :
    ∃ err, e.takeSkirmishTurn = (.error err, e) := by
  rcases plannedAttack?_cases (e := e) with ⟨-, hno⟩ | ⟨c, foe, hplan, hcur, -, hfoe⟩
  · exact absurd h hno
  · obtain ⟨d, hd, -, -, hspent⟩ := h
    cases hcur.symm.trans hd
    obtain ⟨d, hd⟩ := find?_of_firstFoe? hfoe
    rw [takeSkirmishTurn, hplan]
    dsimp only
    rw [attack_of_no_action (find?_of_current? hcur) hd hspent, Outcome.andThen_error]
    exact ⟨_, rfl⟩

/-- Whoever has the turn takes it: they do nothing, or they are up and attack their first foe. -/
inductive TakesTurn (e : Encounter) : Encounter → Prop
  | idle (hplan : e.plannedAttack? = none) : TakesTurn e e
  | attack {c : Combatant} {foe : CombatantId} {done : Attack} {e' : Encounter}
      (hplan : e.plannedAttack? = some (c.id, foe)) (hcur : e.current? = some c)
      (halive : c.isAlive = true) (hfoe : e.firstFoe? c = some foe)
      (h : e.attack c.id foe false false = (.ok done, e')) : TakesTurn e e'

theorem touches_of_attack (hn : e.ids.Nodup) {attacker target : CombatantId} {done : Attack}
    (h : e.attack attacker target false false = (.ok done, e')) :
    Touches (Command.attack attacker target false false).Causes e e' := by
  have htouches : Touches (Command.attack attacker target false false).Causes e
      (e.perform (.attack attacker target false false)).2 := touches_perform hn rfl
  rw [perform, Outcome.map_snd, h] at htouches
  exact htouches

theorem TakesTurn.steady (h : TakesTurn e e') (hn : e.ids.Nodup) : Steady e e' := by
  cases h with
  | idle hplan => exact .refl e
  | attack hplan hcur halive hfoe h => exact (touches_of_attack hn h).toSteady

/-- Whoever is not stuck takes the turn. -/
theorem takeSkirmishTurn_of_not_stuck (h : ¬ e.Stuck) :
    ∃ told e', e.takeSkirmishTurn = (.ok told, e') ∧ TakesTurn e e' := by
  rw [takeSkirmishTurn]
  rcases plannedAttack?_cases (e := e) with ⟨hplan, -⟩ | ⟨c, foe, hplan, hcur, halive, hfoe⟩
  · rw [hplan]
    exact ⟨[], e, rfl, .idle hplan⟩
  · have hact : c.hasAction = true := by
      by_contra hno
      exact h ⟨c, hcur, halive, isSome_firstFoe?_iff.mp (by rw [hfoe]; rfl),
        eq_false_of_ne_true hno⟩
    obtain ⟨d, hd⟩ := find?_of_firstFoe? hfoe
    obtain ⟨done, e', hdone⟩ : ∃ done e', e.attack c.id foe false false = (.ok done, e') :=
      attack_of_hasAction (find?_of_current? hcur) hd hact
    rw [hplan]
    dsimp only
    rw [hdone, Outcome.andThen_ok]
    exact ⟨_, e', rfl, .attack hplan hcur halive hfoe hdone⟩

/-! ### The turn that comes next -/

/-- Whoever has the turn next has their action back. -/
theorem ready_walk {passed : List (CombatantId × Nat)} {stop : CombatantId × Nat}
    {info : TurnInfo} (ht : Turned e passed stop info) : (e.walk (passed ++ [stop])).Ready := by
  have hplace := ht.getElem?_order
  obtain ⟨id, place⟩ := stop
  intro c hc
  -- the last visit is to `stop`, which gets its turn back by it
  rw [walk_concat, current?, order_visit, order_walk, turn_visit, hplace, Option.bind_some,
    find?_visit] at hc
  split at hc
  · obtain ⟨d, -, rfl⟩ := Option.map_eq_some_iff.mp hc
    rw [if_pos rfl, hasAction_refresh]
  · cases hc

/-! ### One pass -/

/-- What a pass of a skirmish can come to: whoever has the turn is stuck; or the pass is the last,
because the fight is decided already, because it is decided by the attack, or because nobody may act
next; or the turn goes to the next who may; or it cannot, since the rounds have run out. -/
inductive Passes (maxRounds : Nat) (e : Encounter) : Outcome (Course × List String) → Prop
  | refused (err : EncounterError) (hr : e.round ≤ maxRounds) (hb : e.bothSidesAlive = true)
      (hs : e.Stuck) : Passes maxRounds e (.error err, e)
  | decided {lines : List String} (h : ¬ (e.round ≤ maxRounds ∧ e.bothSidesAlive = true)) :
      Passes maxRounds e (.ok (.over, lines), e)
  | won {lines : List String} {e' : Encounter} (hr : e.round ≤ maxRounds)
      (hb : e.bothSidesAlive = true) (h : TakesTurn e e') (hb' : e'.bothSidesAlive = false) :
      Passes maxRounds e (.ok (.over, lines), e')
  | stalled {lines : List String} {e' : Encounter} (hr : e.round ≤ maxRounds)
      (hb : e.bothSidesAlive = true) (h : TakesTurn e e') (hb' : e'.bothSidesAlive = true)
      (hs : e'.someoneCanAct = false) (hn : e'.nextTurn = (.ok (.noneLiving e'.round), e')) :
      Passes maxRounds e (.ok (.over, lines), e')
  | next {lines : List String} {e' : Encounter} {passed : List (CombatantId × Nat)}
      {stop : CombatantId × Nat} {info : TurnInfo} (hr : e.round ≤ maxRounds)
      (hb : e.bothSidesAlive = true) (h : TakesTurn e e') (hb' : e'.bothSidesAlive = true)
      (ht : Turned e' passed stop info) (hcount : info.round ≤ Count.greatest)
      (hn : e'.nextTurn = (.ok (.turn info), e'.walk (passed ++ [stop]))) :
      Passes maxRounds e (.ok (.on, lines), e'.walk (passed ++ [stop]))
  | outrun {e' : Encounter} (hr : e.round ≤ maxRounds) (hb : e.bothSidesAlive = true)
      (h : TakesTurn e e') (hlast : e'.round = Count.greatest) :
      Passes maxRounds e (.error (.exhausted .rounds), e')

theorem decided (h : ¬ (e.round ≤ maxRounds ∧ e.bothSidesAlive = true)) :
    (decide (maxRounds < e.round) || !e.bothSidesAlive) = true := by
  rw [Bool.or_eq_true, decide_eq_true_iff, Bool.not_eq_true', ← Bool.not_eq_true]
  rwa [not_and_or, Nat.not_le] at h

theorem pass_of_decided (h : ¬ (e.round ≤ maxRounds ∧ e.bothSidesAlive = true)) :
    pass maxRounds lines e = (.ok (.over, lines), e) := by
  rw [pass, if_pos (decided h)]

theorem not_decided (h : e.round ≤ maxRounds ∧ e.bothSidesAlive = true) :
    ¬ (decide (maxRounds < e.round) || !e.bothSidesAlive) = true := by
  rw [h.2, decide_eq_false (Nat.not_lt.mpr h.1)]
  decide

theorem pass_of_stuck (hgo : e.round ≤ maxRounds ∧ e.bothSidesAlive = true) (h : e.Stuck) :
    ∃ err, pass maxRounds lines e = (.error err, e) := by
  obtain ⟨err, herr⟩ := takeSkirmishTurn_of_stuck h
  rw [pass, if_neg (not_decided hgo), herr, Outcome.andThen_error]
  exact ⟨err, rfl⟩

/-- **Every pass is one of six.**  In an active fight a pass is refused, ends the skirmish in one
of three ways, hands the turn on or finds no round for the next turn. -/
theorem passes_pass (hc : e.Consistent) (ha : e.phase = .active) (maxRounds : Nat)
    (lines : List String) : Passes maxRounds e (pass maxRounds lines e) := by
  by_cases hgo : e.round ≤ maxRounds ∧ e.bothSidesAlive = true
  · by_cases hs : e.Stuck
    · obtain ⟨err, h⟩ : ∃ err, pass maxRounds lines e = (.error err, e) := pass_of_stuck hgo hs
      rw [h]
      exact .refused err hgo.1 hgo.2 hs
    · obtain ⟨told, e', h, htakes⟩ := takeSkirmishTurn_of_not_stuck hs
      have hsteady := htakes.steady hc.nodup
      rw [pass, if_neg (not_decided hgo), h, Outcome.andThen_ok]
      dsimp only
      by_cases hb : e'.bothSidesAlive = true
      · rw [if_neg (by rw [hb]; decide)]
        have hc' := hsteady.consistent hc
        rcases nextTurn_cases hc' (hsteady.phase.trans ha) with
          ⟨hno, hn⟩ | ⟨passed, stop, info, ht, ⟨hcount, hn⟩ | ⟨hmany, hn⟩⟩
        · rw [hn, Outcome.andThen_ok]
          exact .stalled hgo.1 hgo.2 htakes hb hno hn
        · rw [hn, Outcome.andThen_ok]
          exact .next hgo.1 hgo.2 htakes hb ht hcount hn
        · rw [hn, Outcome.andThen_error]
          exact .outrun hgo.1 hgo.2 htakes (ht.round_eq_greatest hc' hmany)
      · rw [Bool.not_eq_true] at hb
        rw [if_pos (by rw [hb]; decide)]
        exact .won hgo.1 hgo.2 htakes hb
  · rw [pass_of_decided hgo]
    exact .decided hgo

/-! ### A pass that goes on -/

/-- The turns that can still come up before the rounds are over. -/
def turnsLeft (e : Encounter) (maxRounds : Nat) : Nat :=
  (maxRounds + 1) * e.order.length - e.clock

theorem turnsLeft_lt_passesLeft (e : Encounter) (maxRounds : Nat) :
    e.turnsLeft maxRounds < e.passesLeft maxRounds := by
  rw [turnsLeft, passesLeft, clock, Nat.sub_mul]
  omega

/-- A pass that goes on moves the clock. -/
theorem turnsLeft_walk_lt {places rest : List (CombatantId × Nat)} (hr : e.round ≤ maxRounds)
    (h : e.turn < e.order.length) (hup : e.upcoming = places ++ rest) (hpos : 0 < places.length) :
    (e.walk places).turnsLeft maxRounds < e.turnsLeft maxRounds := by
  rw [turnsLeft, turnsLeft, order_walk, (clock_walk h hup).1]
  have hclock : e.clock < (maxRounds + 1) * e.order.length := by
    have hround := Nat.mul_le_mul_right e.order.length hr
    rw [clock, Nat.succ_mul]
    omega
  omega

/-- A pass that goes on leaves a fight that can make another one, with fewer turns left. -/
theorem Passes.of_next (h : Passes maxRounds e (.ok (.on, lines), e')) (hc : e.Consistent)
    (ha : e.phase = .active) :
    e'.Consistent ∧ e'.phase = .active ∧ e'.Ready ∧ e'.round ≤ maxRounds + 1 ∧
      e'.turnsLeft maxRounds < e.turnsLeft maxRounds := by
  cases h with
  | @next _ e₁ passed stop info hr _ htakes _ ht hcount =>
      obtain ⟨rest, hup⟩ := ht.way
      have hsteady := htakes.steady hc.nodup
      have ha₁ : e₁.phase = .active := hsteady.phase.trans ha
      have hleft : e₁.turnsLeft maxRounds = e.turnsLeft maxRounds := by
        rw [turnsLeft, turnsLeft, clock, clock, hsteady.order, hsteady.round, hsteady.turn]
      refine ⟨consistent_walk (hsteady.consistent hc) ha₁ ht.turn_lt hup (ht.round ▸ hcount),
        phase_walk.trans ha₁, ready_walk ht, ?_, ?_⟩
      · refine Nat.le_trans (round_walk_le ht.turn_lt hup) ?_
        rw [hsteady.round]
        exact Nat.succ_le_succ hr
      · rw [← hleft]
        refine turnsLeft_walk_lt (hsteady.round.symm ▸ hr) ht.turn_lt hup ?_
        rw [List.length_append, List.length_singleton]
        exact Nat.succ_pos _

end Encounter

end Tabletop
