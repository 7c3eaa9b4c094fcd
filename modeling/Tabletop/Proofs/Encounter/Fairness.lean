import Tabletop.Proofs.Encounter.Reachable

/-!
# Encounter — turns go around

Every combatant in the order gets what it is due.  `Around` relates a state to a later one by the
visits that the turn has made between them: they go around the order place by place, `clock` counts
them, and the round rises with every visit to the first place.  Every step makes such visits unless
somebody is removed (`Step.around`), so every run does (`around_performAll`); for a run from the
beginning of the fight this is `turns_go_around`.
-/

namespace Tabletop

namespace Encounter

variable {e e' e'' : Encounter} {command : Command} {reply : Except EncounterError Reply}
  {visits visits' : List CombatantId} {places rest : List (CombatantId × Nat)}

/-- Those that the turn visits by a reply: everybody it passes over, and whoever has it then. -/
def visited : Except EncounterError Reply → List CombatantId
  | .ok (.advanced (.turn info)) => info.skipped ++ [info.id]
  | _ => []

/-- From `e` to `e'` the turn has made the given visits, place by place around the order. -/
structure Around (e : Encounter) (visits : List CombatantId) (e' : Encounter) : Prop where
  order : e'.order = e.order
  clock : e'.clock = e.clock + visits.length
  way : ∀ k < visits.length, visits[k]? = e.order[(e.clock + 1 + k) % e.order.length]?
  round : ∀ first, e.order[0]? = some first → e'.round = e.round + visits.count first

theorem around_nil (ho : e'.order = e.order) (ht : e'.turn = e.turn) (hr : e'.round = e.round) :
    Around e [] e' where
  order := ho
  clock := by rw [clock, ho, ht, hr]; rfl
  way _ hk := absurd hk (Nat.not_lt_zero _)
  round _ _ := hr

theorem Around.append (h : Around e visits e') (h' : Around e' visits' e'') :
    Around e (visits ++ visits') e'' where
  order := h'.order.trans h.order
  clock := by rw [h'.clock, h.clock, List.length_append, Nat.add_assoc]
  way k hk := by
    rcases Nat.lt_or_ge k visits.length with hlt | hge
    · rw [List.getElem?_append_left hlt, h.way k hlt]
    · rw [List.length_append] at hk
      rw [List.getElem?_append_right hge, h'.way _ (by omega), h.order, h.clock]
      congr 2
      omega
  round first hf := by
    rw [h'.round first (h.order ▸ hf), h.round first hf, List.count_append, Nat.add_assoc]

/-! ### The visits of one turn -/

/-- Places on the way are remainders of the clock. -/
theorem clock_mod (k : Nat) :
    (e.clock + 1 + k) % e.order.length = (e.turn + 1 + k) % e.order.length := by
  rw [clock, Nat.add_assoc, Nat.add_assoc, Nat.mul_comm, Nat.mul_add_mod, Nat.add_assoc]

/-- Visits to the first place are visits to the first in the order, since nobody has two places. -/
theorem countP_first (hn : e.order.Nodup) {first : CombatantId} (hf : e.order[0]? = some first)
    (hp : ∀ stop ∈ places, e.order[stop.2]? = some stop.1) :
    places.countP (·.2 == 0) = (places.map (·.1)).count first := by
  rw [List.count, List.countP_map]
  refine List.countP_congr fun stop hs => ?_
  have hstop := hp stop hs
  simp only [Function.comp_apply, beq_iff_eq]
  constructor
  · intro h0
    rw [h0, hf] at hstop
    exact (Option.some.inj hstop).symm
  · intro heq
    rw [heq, ← hf] at hstop
    have hlt : stop.2 < e.order.length := by
      by_contra hge
      rw [List.getElem?_eq_none (Nat.le_of_not_lt hge), hf] at hstop
      exact nomatch hstop
    exact (List.getElem?_inj hlt hn).mp hstop

theorem around_walk (hc : e.Consistent) (h : e.turn < e.order.length)
    (hup : e.upcoming = places ++ rest) : Around e (places.map (·.1)) (e.walk places) where
  order := order_walk
  clock := by rw [(clock_walk h hup).1, List.length_map]
  way k hk := by
    rw [List.length_map] at hk
    have hlen := length_upcoming h
    rw [hup, List.length_append] at hlen
    -- the places visited begin the way once around, which `upcoming` gives place by place
    have hk' := getElem?_upcoming h (Nat.lt_of_lt_of_le hk (Nat.le.intro hlen))
    rw [hup, List.getElem?_append_left hk] at hk'
    rw [List.getElem?_map, hk', Option.map_map, clock_mod]
    exact Option.map_id'
  round first hf := by
    rw [round_walk, countP_first hc.order_nodup hf]
    exact fun stop hs =>
      getElem?_order_of_upcoming h (hup ▸ List.mem_append_left _ hs)

theorem Turned.visited {passed : List (CombatantId × Nat)} {stop : CombatantId × Nat}
    {info : TurnInfo} (h : Turned e passed stop info) :
    visited (.ok (.advanced (.turn info))) = (passed ++ [stop]).map (·.1) := by
  rw [Encounter.visited, h.map_fst_visited]

/-! ### Steps and runs -/

theorem visited_of_isPlain {answer : Reply} (h : answer.isPlain = true) :
    visited (.ok answer) = [] := by
  cases answer with
  | advanced advance => cases h
  | _ => rfl

/-- In a fight that has begun, every step but a removal makes its visits around the order. -/
theorem Step.around (h : Step e command reply e') (hc : e.Consistent) (hp : e.phase ≠ .inactive)
    (hr : ∀ id, command ≠ .remove id) : Around e (visited reply) e' := by
  cases h with
  | refused err => exact around_nil rfl rfl rfl
  | plain _ hplain h =>
      rw [visited_of_isPlain hplain]
      exact around_nil h.order h.turn h.round
  | joined s => exact around_nil rfl rfl rfl
  | left h => exact absurd rfl (hr _)
  | begun hi hne report => exact absurd hi hp
  | turned _ ha ht =>
      obtain ⟨rest, hup⟩ := ht.way
      rw [ht.visited]
      exact around_walk hc ht.turn_lt hup
  | nobody _ ha hs => exact around_nil rfl rfl rfl
  | paused hp => exact around_nil rfl rfl rfl
  | resumed hp => exact around_nil rfl rfl rfl
  | finished => exact around_nil rfl rfl rfl

/-- A run makes its visits around the order as long as nobody is removed. -/
theorem around_performAll (hc : e.Consistent) (hp : e.phase ≠ .inactive) {commands : List Command}
    (hr : ∀ id, .remove id ∉ commands) :
    Around e ((e.performAll commands).1.flatMap visited) (e.performAll commands).2 := by
  induction commands generalizing e with
  | nil => exact around_nil rfl rfl rfl
  | cons command rest ih =>
      have hstep := step_perform hc command
      have hfirst := hstep.around hc hp fun id h => hr id (h ▸ List.mem_cons_self)
      rw [performAll_cons, List.flatMap_cons]
      exact hfirst.append (ih (hstep.consistent hc) (hstep.phase.1 hp) fun id h =>
        hr id (List.mem_cons_of_mem _ h))

/-! ### From the beginning -/

/-- A fight that begins gives its order in the report. -/
theorem start_ok {report : InitiativeReport} (h : e.start = (.ok report, e')) :
    e.combatants ≠ [] ∧ e' = e.begun ∧ report.order = e.begun.order := by
  by_cases hp : e.phase = .inactive
  · by_cases hne : e.combatants = []
    · rw [start_of_empty hp hne] at h
      cases h
    · rw [start_of_inactive hp hne] at h
      cases h
      exact ⟨hne, rfl, rfl⟩
  · rw [start_of_begun hp] at h
    cases h

/-- A list that goes around another one repeats it, block by block. -/
theorem take_drop_of_around {α : Type} {l order : List α}
    (h : ∀ k < l.length, l[k]? = order[k % order.length]?) {r : Nat}
    (hr : (r + 1) * order.length ≤ l.length) :
    (l.drop (r * order.length)).take order.length = order := by
  rw [Nat.succ_mul] at hr
  apply List.ext_getElem?
  intro k
  rcases Nat.lt_or_ge k order.length with hlt | hge
  · rw [List.getElem?_take_of_lt hlt, List.getElem?_drop, h _ (by omega), Nat.mul_comm,
      Nat.mul_add_mod, Nat.mod_eq_of_lt hlt]
  · rw [List.getElem?_eq_none hge, List.getElem?_eq_none]
    exact Nat.le_trans (List.length_take_le _ _) hge

/-- Visits around the order from the beginning of the fight. -/
theorem Around.from_begun (h : Around e.begun visits e') (hpos : 0 < e.begun.order.length) :
    let order := e.begun.order
    (∀ k < visits.length, visits[k]? = order[(k + 1) % order.length]?) ∧
      ∃ first, order[0]? = some first ∧
        e'.round = 1 + visits.count first ∧
        ∀ r, r + 1 < e'.round →
          ((first :: visits).drop (r * order.length)).take order.length = order := by
  -- the clock has gone around once when the fight begins
  have hclock : e.begun.clock = e.begun.order.length := by
    rw [Encounter.clock, show e.begun.round = 1 from rfl, show e.begun.turn = 0 from rfl, Nat.one_mul,
      Nat.add_zero]
  have hway : ∀ k < visits.length,
      visits[k]? = e.begun.order[(k + 1) % e.begun.order.length]? := by
    intro k hk
    rw [h.way k hk, hclock, Nat.add_assoc, Nat.add_mod_left, Nat.add_comm 1]
  have hfirst : e.begun.order[0]? = some e.begun.order[0] := List.getElem?_eq_getElem hpos
  refine ⟨hway, e.begun.order[0], hfirst, h.round _ hfirst, fun r hr => ?_⟩
  refine take_drop_of_around (fun k hk => ?_) ?_
  · cases k with
    | zero => rw [List.getElem?_cons_zero, Nat.zero_mod, hfirst]
    | succ k => rw [List.getElem?_cons_succ, hway k (Nat.lt_of_succ_lt_succ hk)]
  · -- since the round `r + 1` is over, the clock has gone around once more than `r + 1` times
    have htime := h.clock
    rw [hclock, Encounter.clock, h.order] at htime
    have hover := Nat.mul_le_mul_right e.begun.order.length (Nat.succ_le_of_lt hr)
    rw [Nat.succ_mul] at hover
    rw [List.length_cons]
    omega

/-- **Turns go around.**  In a fight that begins, and from which nobody is removed, the combatants
that the turn visits, passed over or not, are the turn order over and over, from its second place
on; the round is one more than the visits to the first place; and in every completed round
everybody in the order is visited once, in that order, the first of the first round by the
beginning itself. -/
theorem turns_go_around {report : InitiativeReport} (h : Reachable e)
    (hs : e.start = (.ok report, e')) (commands : List Command)
    (hr : ∀ id, .remove id ∉ commands) :
    let run := e'.performAll commands
    let visits := run.1.flatMap visited
    let order := report.order
    run.2.order = order ∧ order.Nodup ∧
      (∀ k < visits.length, visits[k]? = order[(k + 1) % order.length]?) ∧
      ∃ first, order[0]? = some first ∧
        run.2.round = 1 + visits.count first ∧
        ∀ r, r + 1 < run.2.round →
          ((first :: visits).drop (r * order.length)).take order.length = order := by
  obtain ⟨hne, rfl, hreport⟩ := start_ok hs
  have hc := consistent_begun h.consistent hne
  have hgo := around_performAll hc Phase.noConfusion hr
  have hpos : 0 < e.begun.order.length := by
    rw [(perm_order_begun e).length_eq, ids, List.length_map]
    exact List.length_pos_iff.mpr hne
  rw [hreport]
  exact ⟨hgo.order, hc.order_nodup, hgo.from_begun hpos⟩

/-- Two take turns, with a pause between. -/
theorem turns_go_around_duel :
    let e := ((withDice .standard (.ofFaces [10, 5])).performAll
      [.add (.basic "Ann" 10 10), .add (.basic "Bob" 10 10)]).2
    ∃ report e', e.start = (.ok report, e') ∧ report.order = [⟨1⟩, ⟨2⟩] ∧
      let run := e'.performAll [.nextTurn, .pause, .resume, .nextTurn]
      let visits := run.1.flatMap visited
      run.2.order = report.order ∧
        ∀ k < visits.length, visits[k]? = report.order[(k + 1) % report.order.length]? := by
  have hs := start_of_inactive (e := ((withDice .standard (.ofFaces [10, 5])).performAll
    [.add (.basic "Ann" 10 10), .add (.basic "Bob" 10 10)]).2) rfl (List.cons_ne_nil _ _)
  have hgo := turns_go_around ((Reachable.idle _ _).performAll _) hs
    [.nextTurn, .pause, .resume, .nextTurn] (by simp)
  refine ⟨_, _, hs, ?_, hgo.1, hgo.2.2.1⟩
  -- Ann has rolled 10 and Bob 5, so they stand in turn order already
  rw [InitiativeReport.order, sortInitiative, List.mergeSort_of_pairwise (by decide)]
  rfl

end Encounter

end Tabletop
