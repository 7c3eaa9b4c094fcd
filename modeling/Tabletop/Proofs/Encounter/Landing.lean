import Tabletop.Proofs.Encounter.Reachable

/-!
# Encounter — where the next turn lands

Where `nextTurn` takes the turn, and the state it leaves, in full.  A walk along the order changes
the place, the round and those at the table, and nothing else (`walk_eq`).  To those at the table it
does one thing, wherever they stand (`combatants_walk`): whoever is visited gets their turn back,
and conditions grow older at the time of the house rules, once, since a walk comes to nobody twice
and to the first place once (`Combatant.afterTurn`).

`nextTurn_lands`: the turn goes the least number of places on at which somebody may act
(`Lands`), and place, round and everybody are as this number says.
-/

namespace Tabletop

namespace Combatant

/-- A combatant after the turn has gone on.  It gets its turn back if it was visited; its conditions
grow older if a round began or if it was visited, by the house rules. -/
def afterTurn (timing : ConditionTiming) (newRound visited : Bool) (c : Combatant) : Combatant :=
  let rested := if visited then c.resetTurn else c
  let ages := match timing with
    | .roundEnd => newRound
    | .turnStart => visited
  if ages then rested.ageConditions.2 else rested

/-- What a visit to a place does to somebody. -/
theorem afterTurn_eq (timing : ConditionTiming) (place : Nat) (visited : Bool) (c : Combatant) :
    c.afterTurn timing (place == 0) visited =
      if visited then (Encounter.refresh timing (Encounter.aged timing place c)).2
      else Encounter.aged timing place c := by
  cases timing with
  | roundEnd =>
      by_cases hp : place = 0
      · subst hp
        cases visited <;> rfl
      · rw [beq_false_of_ne hp, Encounter.aged_of_ne_zero _ hp]
        cases visited <;> rfl
  | turnStart => cases visited <;> rfl

@[simp] theorem id_afterTurn (timing : ConditionTiming) (newRound visited : Bool) (c : Combatant) :
    (c.afterTurn timing newRound visited).id = c.id := by
  cases timing <;> cases newRound <;> cases visited <;> rfl

/-- Two walks are one if not both begin a round and not both come to the combatant. -/
theorem afterTurn_afterTurn {newRound newRound' visited visited' : Bool}
    (hr : newRound = true → newRound' = false) (hv : visited = true → visited' = false)
    (timing : ConditionTiming) (c : Combatant) :
    (c.afterTurn timing newRound visited).afterTurn timing newRound' visited' =
      c.afterTurn timing (newRound || newRound') (visited || visited') := by
  cases visited with
  | false =>
      cases newRound with
      | false => cases timing <;> rfl
      | true =>
          rw [hr rfl]
          cases timing <;> cases visited' <;> rfl
  | true =>
      rw [hv rfl]
      cases newRound with
      | false => cases timing <;> cases newRound' <;> rfl
      | true =>
          rw [hr rfl]
          cases timing <;> rfl

end Combatant

namespace Encounter

variable {e : Encounter} {id : CombatantId} {stop : CombatantId × Nat}
  {places rest : List (CombatantId × Nat)}

/-! ### What a walk does to those at the table -/

theorem combatants_visit (hn : e.ids.Nodup) :
    (e.visit stop).2.combatants = e.combatants.map fun c =>
      c.afterTurn e.settings.conditionTiming (stop.2 == 0) (stop.1 == c.id) := by
  obtain ⟨id, place⟩ := stop
  have hmoved : (e.moveTo place).2.combatants =
      e.combatants.map (aged e.settings.conditionTiming place) := by rw [moveTo_snd]
  cases h : e.find? id with
  | none =>
      rw [visit_of_none h, hmoved]
      refine List.map_congr_left fun c hc => ?_
      have hne : id ≠ c.id := fun hid =>
        find?_eq_none_iff.mp h (hid ▸ List.mem_map.mpr ⟨c, hc, rfl⟩)
      rw [Combatant.afterTurn_eq, beq_false_of_ne hne, if_neg Bool.false_ne_true]
  | some c₀ =>
      rw [visit_of_find? h, replace, hmoved, List.map_map]
      refine List.map_congr_left fun c hc => ?_
      rw [Function.comp_apply, id_refresh, id_aged, id_aged, id_of_find? h, Combatant.afterTurn_eq]
      by_cases hid : c.id = id
      · -- whoever has the identity is the one that was found
        have hfound := find?_of_mem hn hc
        rw [hid, h] at hfound
        rw [if_pos hid, Option.some.inj hfound, beq_iff_eq.mpr hid.symm, if_pos rfl]
      · rw [if_neg hid, beq_false_of_ne (Ne.symm hid), if_neg Bool.false_ne_true]

theorem combatants_walk (hn : e.ids.Nodup) (hids : (places.map (·.1)).Nodup)
    (hround : places.countP (·.2 == 0) ≤ 1) :
    (e.walk places).combatants = e.combatants.map fun c =>
      c.afterTurn e.settings.conditionTiming (places.any (·.2 == 0))
        (places.any (·.1 == c.id)) := by
  induction places generalizing e with
  | nil =>
      refine (List.map_id' e.combatants).symm.trans (List.map_congr_left fun c _ => ?_)
      cases e.settings.conditionTiming <;> rfl
  | cons stop rest ih =>
      obtain ⟨hfresh, hrest⟩ := List.nodup_cons.mp hids
      rw [List.countP_cons] at hround
      have hn' : (e.visit stop).2.ids.Nodup := (keepsTable_visit hn).ids ▸ hn
      rw [walk, ih hn' hrest (by omega), settings_visit, combatants_visit hn, List.map_map]
      refine List.map_congr_left fun c _ => ?_
      rw [Function.comp_apply, Combatant.id_afterTurn, Combatant.afterTurn_afterTurn,
        List.any_cons, List.any_cons]
      · -- the first place is visited once
        intro hzero
        rw [if_pos hzero] at hround
        have hnone : rest.countP (·.2 == 0) = 0 := by omega
        rw [List.countP_eq_zero] at hnone
        exact List.any_eq_false.mpr hnone
      · -- and nobody is visited twice
        intro hvisited
        refine List.any_eq_false.mpr fun other hother hsame => hfresh ?_
        exact List.mem_map.mpr ⟨other, hother, (eq_of_beq hsame).trans (eq_of_beq hvisited).symm⟩

/-- Apart from the combatants, a walk changes the place and the round. -/
theorem walk_eq (e : Encounter) (places : List (CombatantId × Nat)) :
    e.walk places = { e with
      combatants := (e.walk places).combatants
      turn := (e.walk places).turn
      round := (e.walk places).round } := by
  induction places generalizing e with
  | nil => rfl
  | cons stop rest ih => rw [walk, ih, visit_snd]

/-! ### The way ahead -/

/-- The identities ahead are the turn order turned around. -/
theorem map_fst_upcoming (h : e.turn < e.order.length) :
    e.upcoming.map (·.1) = e.order.rotate (e.turn + 1) := by
  rw [upcoming_eq_rotate h, List.map_rotate, List.zipIdx_map_fst]

/-- Place and round after a walk are the remainder and the quotient of the places ahead. -/
theorem turn_round_walk (h : e.turn < e.order.length) (hup : e.upcoming = places ++ rest) :
    (e.walk places).turn = (e.turn + places.length) % e.order.length ∧
      (e.walk places).round = e.round + (e.turn + places.length) / e.order.length := by
  obtain ⟨hclock, hlt⟩ := clock_walk h hup
  have hpos : 0 < e.order.length := Nat.zero_lt_of_lt h
  rw [clock, clock, order_walk, Nat.add_assoc] at hclock
  constructor
  · have hmod := congrArg (· % e.order.length) hclock
    simp only [Nat.mul_add_mod_self_right] at hmod
    rwa [Nat.mod_eq_of_lt hlt] at hmod
  · have hdiv := congrArg (· / e.order.length) hclock
    simp only [Nat.add_comm (_ * _), Nat.add_mul_div_right _ _ hpos] at hdiv
    rw [Nat.div_eq_of_lt hlt, Nat.zero_add] at hdiv
    rw [hdiv, Nat.add_comm]

/-- The places ahead begin a round once, if they go past the end of the order, and never else. -/
theorem countP_ahead (h : e.turn < e.order.length) (hup : e.upcoming = places ++ rest) :
    places.countP (·.2 == 0) = (decide (e.order.length ≤ e.turn + places.length)).toNat := by
  have hcount : places.countP (·.2 == 0) = (e.turn + places.length) / e.order.length :=
    Nat.add_left_cancel (round_walk.symm.trans (turn_round_walk h hup).2)
  have hle : places.length ≤ e.order.length := by
    rw [← length_upcoming h, hup, List.length_append]
    exact Nat.le_add_right _ _
  by_cases hwraps : e.order.length ≤ e.turn + places.length
  · rw [hcount, decide_eq_true hwraps, Bool.toNat_true]
    exact Nat.div_eq_of_lt_le (by omega) (by omega)
  · rw [hcount, decide_eq_false hwraps]
    exact Nat.div_eq_of_lt (Nat.lt_of_not_le hwraps)

theorem any_ahead (h : e.turn < e.order.length) (hup : e.upcoming = places ++ rest) :
    places.any (·.2 == 0) = decide (e.order.length ≤ e.turn + places.length) := by
  have hcount := countP_ahead h hup
  rw [Bool.eq_iff_iff, List.any_eq_true, ← List.countP_pos_iff, hcount]
  cases decide (e.order.length ≤ e.turn + places.length) <;> decide

/-! ### Where the turn lands -/

/-- The combatant of an identity is at the table and up. -/
def IsUp (e : Encounter) (id : CombatantId) : Prop := ∃ c, e.find? id = some c ∧ c.isAlive = true

/-- Nobody in the turn order may act: there is nobody, or all are down and are passed over. -/
def Halted (e : Encounter) : Prop :=
  e.order = [] ∨ e.settings.skipFallen = true ∧ ∀ id ∈ e.order, ¬ e.IsUp id

/-- The turn goes `s` places on: to the next place, or, where those who are down are passed over, to
the first at which somebody is up. -/
structure Lands (e : Encounter) (s : Nat) : Prop where
  pos : 1 ≤ s
  le : s ≤ e.order.length
  next : e.settings.skipFallen = false → s = 1
  up : e.settings.skipFallen = true →
    ∃ id, e.order[(e.turn + s) % e.order.length]? = some id ∧ e.IsUp id
  first : ∀ k, 1 ≤ k → k < s →
    ∀ id, e.order[(e.turn + k) % e.order.length]? = some id → ¬ e.IsUp id

theorem passesOver_eq_true_iff :
    e.passesOver id = true ↔ e.settings.skipFallen = true ∧ ¬ e.IsUp id := by
  rw [passesOver, Bool.and_eq_true, Bool.not_eq_true', ← Bool.not_eq_true, Option.any_eq_true]
  rfl

theorem passesOver_eq_false_iff :
    e.passesOver id = false ↔ (e.settings.skipFallen = true → e.IsUp id) := by
  rw [← Bool.not_eq_true, passesOver_eq_true_iff, not_and, not_not]

theorem someoneCanAct_eq_false_iff : e.someoneCanAct = false ↔ e.Halted := by
  rw [← Bool.not_eq_true, someoneCanAct_iff, Halted]
  simp only [passesOver_eq_false_iff, not_exists, not_and, Classical.not_imp]
  constructor
  · intro h
    by_cases hnil : e.order = []
    · exact .inl hnil
    · obtain ⟨id, hmem⟩ := List.exists_mem_of_ne_nil _ hnil
      exact .inr ⟨(h id hmem).1, fun id hid => (h id hid).2⟩
  · rintro (hnil | ⟨hskip, hdown⟩) id hid
    · rw [hnil] at hid
      cases hid
    · exact ⟨hskip, hdown id hid⟩

namespace Turned

variable {passed : List (CombatantId × Nat)} {info : TurnInfo}

theorem length_skipped (h : Turned e passed stop info) : info.skipped.length = passed.length := by
  rw [h.skipped, List.length_map]

theorem visited_prefix (h : Turned e passed stop info) :
    info.skipped ++ [info.id] <+: e.order.rotate (e.turn + 1) := by
  obtain ⟨rest, hup⟩ := h.way
  rw [← map_fst_upcoming h.turn_lt, hup, List.map_append, h.map_fst_visited]
  exact List.prefix_append _ _

theorem length_lt (h : Turned e passed stop info) : passed.length < e.order.length := by
  have hle := h.visited_prefix.length_le
  rwa [List.length_append, List.length_singleton, h.length_skipped, List.length_rotate] at hle

theorem getElem?_visited (h : Turned e passed stop info) {k : Nat} (hk : k ≤ passed.length) :
    (info.skipped ++ [info.id])[k]? = e.order[(e.turn + 1 + k) % e.order.length]? := by
  have hvisits : k < (info.skipped ++ [info.id]).length := by
    rw [List.length_append, List.length_singleton, h.length_skipped]
    exact Nat.lt_succ_of_le hk
  obtain ⟨rest, hahead⟩ := h.visited_prefix
  rw [Nat.add_comm _ k, ← List.getElem?_rotate (hk.trans_lt h.length_lt), ← hahead,
    List.getElem?_append_left hvisits]

theorem getElem?_skipped (h : Turned e passed stop info) {k : Nat} (hk : k < passed.length) :
    info.skipped[k]? = e.order[(e.turn + 1 + k) % e.order.length]? := by
  rw [← h.getElem?_visited (Nat.le_of_lt hk), List.getElem?_append_left (h.length_skipped ▸ hk)]

theorem getElem?_landed (h : Turned e passed stop info) :
    e.order[(e.turn + (passed.length + 1)) % e.order.length]? = some info.id := by
  rw [Nat.add_comm passed.length, ← Nat.add_assoc, ← h.getElem?_visited (Nat.le_refl _),
    ← h.length_skipped, List.getElem?_concat_length]

/-- The first place that is not passed over is where the turn lands. -/
theorem lands (h : Turned e passed stop info) : e.Lands (passed.length + 1) := by
  refine ⟨Nat.succ_pos _, h.length_lt, fun hskip => ?_,
    fun hskip => ⟨info.id, h.getElem?_landed, ?_⟩, fun k hpos hk id hid => ?_⟩
  · -- where nobody is passed over, the next place is the first
    cases passed with
    | nil => rfl
    | cons first passed =>
        have hfirst := (passesOver_eq_true_iff.mp (h.passes first List.mem_cons_self)).1
        rw [hskip] at hfirst
        cases hfirst
  · rw [h.id]
    exact passesOver_eq_false_iff.mp h.stops hskip
  · obtain ⟨k, rfl⟩ := Nat.exists_eq_add_of_le' hpos
    have hk : k < passed.length := Nat.lt_of_succ_lt_succ hk
    rw [Nat.add_comm k, ← Nat.add_assoc, ← h.getElem?_skipped hk, h.skipped, List.getElem?_map,
      Option.map_eq_some_iff] at hid
    obtain ⟨place, hplace, rfl⟩ := hid
    exact (passesOver_eq_true_iff.mp (h.passes place (List.mem_of_getElem? hplace))).2

theorem someoneCanAct (h : Turned e passed stop info) : e.someoneCanAct = true :=
  someoneCanAct_iff.mpr ⟨stop.1, List.mem_of_getElem? h.getElem?_order, h.stops⟩

theorem turn_eq (h : Turned e passed stop info) :
    info.turn = (e.turn + (passed.length + 1)) % e.order.length := by
  obtain ⟨rest, hup⟩ := h.way
  rw [h.turn, (turn_round_walk h.turn_lt hup).1, List.length_append, List.length_singleton]

theorem newRound_eq (h : Turned e passed stop info) :
    info.newRound = decide (e.order.length ≤ e.turn + (passed.length + 1)) := by
  obtain ⟨rest, hup⟩ := h.way
  rw [h.newRound, any_ahead h.turn_lt hup, List.length_append, List.length_singleton]

/-- The first place is visited as often as the answer says that a round began. -/
theorem countP_visited (h : Turned e passed stop info) :
    (passed ++ [stop]).countP (·.2 == 0) = info.newRound.toNat := by
  obtain ⟨rest, hup⟩ := h.way
  rw [countP_ahead h.turn_lt hup, h.newRound_eq, List.length_append, List.length_singleton]

theorem round_eq (h : Turned e passed stop info) :
    info.round = e.round + info.newRound.toNat := by
  rw [h.round, round_walk, h.countP_visited]

/-- What the turn leaves behind on its way. -/
theorem walk_eq (h : Turned e passed stop info) (hc : e.Consistent) :
    e.walk (passed ++ [stop]) = { e with
      combatants := e.combatants.map fun c =>
        c.afterTurn e.settings.conditionTiming info.newRound
          (decide (c.id ∈ info.skipped ++ [info.id]))
      turn := info.turn
      round := info.round } := by
  have hids : ((passed ++ [stop]).map (·.1)).Nodup := by
    rw [h.map_fst_visited]
    exact (List.nodup_rotate.mpr hc.order_nodup).sublist h.visited_prefix.sublist
  have hvisits : ∀ c : Combatant, (passed ++ [stop]).any (·.1 == c.id) =
      decide (c.id ∈ info.skipped ++ [info.id]) := fun c => by
    rw [← h.map_fst_visited, Bool.eq_iff_iff, decide_eq_true_iff, List.any_eq_true, List.mem_map]
    simp only [beq_iff_eq]
  have hcombatants := combatants_walk (e := e) hc.nodup hids
    (h.countP_visited.trans_le (Bool.toNat_le _))
  simp only [hvisits, ← h.newRound] at hcombatants
  rw [Encounter.walk_eq, hcombatants, h.turn, h.round]

end Turned

/-- **The next turn lands where it should.**  In an active fight that has come to a halt, nothing
changes.  Otherwise the turn goes the least number of places on at which somebody may act; it passes
over those between, in their order; the round rises by one if the end of the order is passed; and
apart from place and round all that changes is what `afterTurn` says of those at the table.  Only
where the round would rise above `Count.greatest` does the turn fail, and nothing changes. -/
theorem nextTurn_lands (h : Reachable e) (ha : e.phase = .active) :
    (e.Halted → e.nextTurn = (.ok (.noneLiving e.round), e)) ∧
      (¬ e.Halted → ∃ s info, e.Lands s ∧
        e.order[(e.turn + s) % e.order.length]? = some info.id ∧
        info.skipped.length + 1 = s ∧
        (∀ k < info.skipped.length,
          info.skipped[k]? = e.order[(e.turn + 1 + k) % e.order.length]?) ∧
        info.turn = (e.turn + s) % e.order.length ∧
        info.newRound = decide (e.order.length ≤ e.turn + s) ∧
        info.round = e.round + info.newRound.toNat ∧
        (info.round ≤ Count.greatest → e.nextTurn = (.ok (.turn info), { e with
          combatants := e.combatants.map fun c =>
            c.afterTurn e.settings.conditionTiming info.newRound
              (decide (c.id ∈ info.skipped ++ [info.id]))
          turn := info.turn
          round := info.round })) ∧
        (Count.greatest < info.round → e.nextTurn = (.error (.exhausted .rounds), e))) := by
  have hc := h.consistent
  rcases nextTurn_cases hc ha with ⟨hnobody, hnext⟩ | ⟨passed, stop, info, hturned, hnext⟩
  · exact ⟨fun _ => hnext, fun hgo => absurd (someoneCanAct_eq_false_iff.mp hnobody) hgo⟩
  · refine ⟨fun hhalted => ?_, fun _ => ⟨passed.length + 1, info, hturned.lands,
      hturned.getElem?_landed, by rw [hturned.length_skipped],
      fun k hk => hturned.getElem?_skipped (hturned.length_skipped ▸ hk), hturned.turn_eq,
      hturned.newRound_eq, hturned.round_eq, fun hle => ?_, fun hmany => ?_⟩⟩
    · have hgo := hturned.someoneCanAct
      rw [someoneCanAct_eq_false_iff.mpr hhalted] at hgo
      cases hgo
    · obtain ⟨-, hnext⟩ := hnext.resolve_right fun h => Nat.not_lt.mpr hle h.1
      rw [hnext, hturned.walk_eq hc]
    · exact (hnext.resolve_left fun h => Nat.not_lt.mpr h.1 hmany).2

/-- Bob is down, so that after Ann the turn goes two places on, to Cid. -/
theorem nextTurn_lands_fallen :
    let e := ((withDice .standard (.ofFaces [15, 10, 5])).performAll
      [.add (.basic "Ann" 10 10), .add (.basic "Bob" 10 10), .add (.basic "Cid" 10 10),
        .damage ⟨2⟩ 10 .piercing, .start]).2
    e.Reachable ∧ e.phase = .active ∧ ¬ e.Halted ∧
      ∃ info e', e.Lands 2 ∧ e.nextTurn = (.ok (.turn info), e') ∧ info.id = ⟨3⟩ := by
  intro e
  have hreach : e.Reachable := (Reachable.idle _ _).performAll _
  have horder : e.order = [⟨1⟩, ⟨2⟩, ⟨3⟩] := order_begun_of_pairwise (by decide)
  have hann : e.IsUp ⟨1⟩ := ⟨_, rfl, rfl⟩
  have hbob : ¬ e.IsUp ⟨2⟩ := fun ⟨_, hfound, hup⟩ => by cases hfound; cases hup
  have hcid : e.IsUp ⟨3⟩ := ⟨_, rfl, rfl⟩
  have hgo : ¬ e.Halted := by
    rintro (hnil | ⟨-, hdown⟩)
    · rw [horder] at hnil
      cases hnil
    · exact hdown ⟨1⟩ (horder ▸ List.mem_cons_self) hann
  obtain ⟨s, info, hlands, hid, -, -, -, -, hround, hnext, -⟩ := (nextTurn_lands hreach rfl).2 hgo
  have hcounts : info.round ≤ Count.greatest := by
    have hfirst : e.round = 1 := rfl
    have hle := Bool.toNat_le info.newRound
    rw [hround, hfirst, Count.greatest]
    omega
  have htwo : s = 2 := by
    have hle : s ≤ 3 := hlands.le.trans_eq (congrArg List.length horder)
    have hpos := hlands.pos
    obtain rfl | rfl | rfl : s = 1 ∨ s = 2 ∨ s = 3 := by omega
    · obtain ⟨id, hnext, hup⟩ := hlands.up rfl
      rw [horder] at hnext
      cases hnext
      exact absurd hup hbob
    · rfl
    · exact absurd hcid (hlands.first 2 (by decide) (by decide) ⟨3⟩ (by rw [horder]; rfl))
  subst htwo
  rw [horder] at hid
  exact ⟨hreach, rfl, hgo, info, _, hlands, hnext hcounts, (Option.some.inj hid).symm⟩

end Encounter

end Tabletop
