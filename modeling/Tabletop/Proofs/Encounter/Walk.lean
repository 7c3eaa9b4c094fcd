import Mathlib.Data.List.Rotate
import Tabletop.Proofs.Encounter.Consistent

/-!
# Encounter — the way to the next turn

What `nextTurn` does to a fight.  The turn visits the places after the current one, which are the
turn order turned around (`upcoming_eq_rotate`); it passes over those that are down and stops at
the first that is not, if the round there can be counted (`nextTurn_cases`).  `walk` is the state
after some visits.  Every visit moves `clock`, which counts the turns that have come up, on by one
(`clock_walk`), so place and round are the remainder and the quotient of one number.
-/

namespace Tabletop

namespace Encounter

open Combatant (Later Lives)

variable {e : Encounter} {c : Combatant} {id x : CombatantId} {place : Nat}
  {places : List (CombatantId × Nat)} {P : CombatantId → Event → Prop}

/-- The turns that have come up, counted from the first place of round 0. -/
def clock (e : Encounter) : Nat := e.round * e.order.length + e.turn

/-- The turn of a combatant is passed over: it is down, and such turns are skipped. -/
def passesOver (e : Encounter) (id : CombatantId) : Bool :=
  e.settings.skipFallen && !(e.find? id).any Combatant.isAlive

/-- The state after some places have been visited. -/
def walk (e : Encounter) : List (CombatantId × Nat) → Encounter
  | [] => e
  | stop :: rest => (e.visit stop).2.walk rest

/-- The conditions that a visit says have ended. -/
def visitEndings (e : Encounter) (stop : CombatantId × Nat) : List (CombatantId × String) :=
  match (e.visit stop).1 with
  | .ok (_, ended) => ended
  | .error _ => []

/-- The conditions that some visits say have ended. -/
def endings (e : Encounter) : List (CombatantId × Nat) → List (CombatantId × String)
  | [] => []
  | stop :: rest => e.visitEndings stop ++ (e.visit stop).2.endings rest

/-- What everybody becomes when the turn moves to a place. -/
def aged (timing : ConditionTiming) (place : Nat) (c : Combatant) : Combatant :=
  match timing with
  | .roundEnd => if place = 0 then c.ageConditions.2 else c
  | .turnStart => c

/-! ### The turn moves -/

theorem aged_of_ne_zero (timing : ConditionTiming) (h : place ≠ 0) :
    aged timing place = fun c => c := by
  funext c
  cases timing with
  | roundEnd => exact if_neg h
  | turnStart => rfl

theorem moveTo_snd : (e.moveTo place).2 =
    { e with
      combatants := e.combatants.map (aged e.settings.conditionTiming place)
      turn := place
      round := e.round + if place = 0 then 1 else 0 } := by
  by_cases hp : place = 0
  · subst hp
    rw [moveTo, if_pos rfl, if_pos rfl]
    dsimp only
    cases e.settings.conditionTiming with
    | roundEnd => rfl
    | turnStart => rw [show aged .turnStart 0 = fun c => c from rfl, List.map_id']
  · rw [moveTo, if_neg hp, if_neg hp, aged_of_ne_zero _ hp, List.map_id']
    rfl

theorem lives_aged (ha : ∀ id, P id .ageConditions) (timing : ConditionTiming) (place : Nat)
    (c : Combatant) : Lives P c (aged timing place c) := by
  unfold aged
  split
  · split
    · exact Combatant.lives_undergo .ageConditions (ha _)
    · exact .refl c
  · exact .refl c

theorem lives_refresh (hr : ∀ id, P id .resetTurn) (ha : ∀ id, P id .ageConditions)
    (timing : ConditionTiming) (c : Combatant) : Lives P c (refresh timing c).2 := by
  have hreset : Lives P c c.resetTurn := Combatant.lives_undergo .resetTurn (hr _)
  cases timing with
  | roundEnd => exact hreset
  | turnStart => exact hreset.trans (Combatant.lives_undergo .ageConditions (ha _))

@[simp] theorem id_aged (timing : ConditionTiming) (place : Nat) (c : Combatant) :
    (aged timing place c).id = c.id :=
  (lives_aged (P := fun _ _ => True) (fun _ => trivial) timing place c).later.id

@[simp] theorem id_refresh (timing : ConditionTiming) (c : Combatant) :
    (refresh timing c).2.id = c.id := by
  cases timing <;> rfl

@[simp] theorem isAlive_aged (timing : ConditionTiming) (place : Nat) (c : Combatant) :
    (aged timing place c).isAlive = c.isAlive := by
  unfold aged
  split
  · split <;> rfl
  · rfl

@[simp] theorem isAlive_refresh (timing : ConditionTiming) (c : Combatant) :
    (refresh timing c).2.isAlive = c.isAlive := by
  cases timing <;> rfl

@[simp] theorem hasAction_refresh (timing : ConditionTiming) (c : Combatant) :
    (refresh timing c).2.hasAction = true := by
  cases timing <;> rfl

theorem find?_moveTo :
    (e.moveTo place).2.find? x = (e.find? x).map (aged e.settings.conditionTiming place) := by
  rw [moveTo_snd]
  simp only [find?, List.find?_map, Function.comp_def]
  simp only [id_aged]

/-! ### One visit -/

/-- A visit to somebody at the table is never refused.  It answers the combatant as it is found
there afterwards. -/
theorem visit_of_find? (h : e.find? id = some c) :
    let fresh := refresh e.settings.conditionTiming (aged e.settings.conditionTiming place c)
    e.visit (id, place) =
      (.ok (fresh.2, (e.moveTo place).1 ++ fresh.1.map fun name => (id, name)),
        (e.moveTo place).2.replace fresh.2) := by
  have hmoved : (e.moveTo place).2.find? id = some (aged e.settings.conditionTiming place c) := by
    rw [find?_moveTo, h, Option.map_some]
  have hset : (e.moveTo place).2.settings = e.settings := by rw [moveTo_snd]
  simp only [visit, lookup_of_find? hmoved, Outcome.andThen_ok, hset]

theorem visit_of_none (h : e.find? id = none) :
    e.visit (id, place) = (.error (.unknownCombatant id), (e.moveTo place).2) := by
  have hmoved : (e.moveTo place).2.find? id = none := by rw [find?_moveTo, h, Option.map_none]
  rw [visit, lookup_of_none hmoved, Outcome.andThen_error]

/-- What a visit does to everybody: all grow older if a round begins, and the one that is visited
gets its turn back. -/
theorem find?_visit : (e.visit (id, place)).2.find? x =
    (e.find? x).map fun c =>
      let older := aged e.settings.conditionTiming place c
      if x = id then (refresh e.settings.conditionTiming older).2 else older := by
  cases h : e.find? id with
  | none =>
      rw [visit_of_none h, find?_moveTo]
      by_cases hx : x = id
      · rw [hx, h, Option.map_none, Option.map_none]
      · simp only [if_neg hx]
  | some c =>
      have hid : (refresh e.settings.conditionTiming
          (aged e.settings.conditionTiming place c)).2.id = id := by
        rw [id_refresh, id_aged, id_of_find? h]
      rw [visit_of_find? h, find?_replace, hid, find?_moveTo]
      by_cases hx : x = id
      · simp only [hx, if_true, h, Option.map_some]
      · simp only [if_neg hx]

/-- Apart from the combatants, a visit changes the place and the round. -/
theorem visit_snd : (e.visit (id, place)).2 =
    { e with
      combatants := (e.visit (id, place)).2.combatants
      turn := place
      round := e.round + if place = 0 then 1 else 0 } := by
  cases h : e.find? id with
  | none => rw [visit_of_none h, moveTo_snd]
  | some c =>
      rw [visit_of_find? h, moveTo_snd]
      rfl

@[simp] theorem settings_visit : (e.visit (id, place)).2.settings = e.settings := by
  rw [visit_snd]

@[simp] theorem order_visit : (e.visit (id, place)).2.order = e.order := by
  rw [visit_snd]

@[simp] theorem phase_visit : (e.visit (id, place)).2.phase = e.phase := by
  rw [visit_snd]

@[simp] theorem turn_visit : (e.visit (id, place)).2.turn = place := by
  rw [visit_snd]

@[simp] theorem round_visit :
    (e.visit (id, place)).2.round = e.round + if place = 0 then 1 else 0 := by
  rw [visit_snd]

theorem befalls_moveTo (ha : ∀ id, P id .ageConditions) : Befalls P e (e.moveTo place).2 := by
  rw [Befalls, moveTo_snd, List.forall₂_map_right_iff, List.forall₂_same]
  exact fun c _ => lives_aged ha _ _ c

theorem ids_moveTo : (e.moveTo place).2.ids = e.ids := by
  rw [ids, moveTo_snd, List.map_map]
  exact List.map_congr_left fun c _ => id_aged _ _ c

/-- All that a visit does to those at the table is to give a turn back and to let conditions grow
older. -/
theorem befalls_visit (hn : e.ids.Nodup) (hr : ∀ id, P id .resetTurn)
    (ha : ∀ id, P id .ageConditions) : Befalls P e (e.visit (id, place)).2 := by
  cases h : e.find? id with
  | none =>
      rw [visit_of_none h]
      exact befalls_moveTo ha
  | some c =>
      rw [visit_of_find? h]
      have hn' : (e.moveTo place).2.ids.Nodup := by rw [ids_moveTo]; exact hn
      refine (befalls_moveTo ha).trans (forall₂_replace .refl hn' ?_
        (lives_refresh hr ha e.settings.conditionTiming _))
      rw [id_refresh, id_aged, find?_moveTo, id_of_find? h, h, Option.map_some]

theorem keepsTable_visit (hn : e.ids.Nodup) : KeepsTable e (e.visit (id, place)).2 where
  settings := settings_visit
  nextNumber := by rw [visit_snd]
  combatants := (befalls_visit (P := fun _ _ => True) hn (fun _ => trivial) fun _ => trivial).later

@[simp] theorem passesOver_visit :
    (e.visit (id, place)).2.passesOver x = e.passesOver x := by
  unfold passesOver
  rw [settings_visit, find?_visit, Option.any_map]
  congr 3
  funext c
  by_cases hx : x = id
  · simp [hx]
  · simp [hx]

/-! ### Several visits -/

@[simp] theorem order_walk : (e.walk places).order = e.order := by
  induction places generalizing e with
  | nil => rfl
  | cons stop rest ih => rw [walk, ih, order_visit]

@[simp] theorem phase_walk : (e.walk places).phase = e.phase := by
  induction places generalizing e with
  | nil => rfl
  | cons stop rest ih => rw [walk, ih, phase_visit]

theorem walk_append (e : Encounter) (places places' : List (CombatantId × Nat)) :
    e.walk (places ++ places') = (e.walk places).walk places' := by
  induction places generalizing e with
  | nil => rfl
  | cons stop rest ih => rw [List.cons_append, walk, walk, ih]

/-- The last visit leaves the turn at its place. -/
theorem walk_concat (e : Encounter) (places : List (CombatantId × Nat))
    (stop : CombatantId × Nat) : e.walk (places ++ [stop]) = ((e.walk places).visit stop).2 :=
  walk_append e places [stop]

/-- Visits put nobody down and raise nobody up. -/
@[simp] theorem passesOver_walk : (e.walk places).passesOver x = e.passesOver x := by
  induction places generalizing e with
  | nil => rfl
  | cons stop rest ih => rw [walk, ih, passesOver_visit]

/-- The round rises as often as the first place is visited. -/
theorem round_walk : (e.walk places).round = e.round + places.countP (·.2 == 0) := by
  induction places generalizing e with
  | nil => rfl
  | cons stop rest ih =>
      rw [walk, ih, round_visit, List.countP_cons, Nat.add_assoc, Nat.add_comm (List.countP _ _)]
      simp only [beq_iff_eq]

theorem befalls_walk (hn : e.ids.Nodup) (hr : ∀ id, P id .resetTurn)
    (ha : ∀ id, P id .ageConditions) : Befalls P e (e.walk places) := by
  induction places generalizing e with
  | nil => exact .refl e
  | cons stop rest ih =>
      have hids : (e.visit stop).2.ids = e.ids := (keepsTable_visit hn).ids
      exact (befalls_visit hn hr ha).trans (ih (hids.symm ▸ hn))

theorem keepsTable_walk (hn : e.ids.Nodup) : KeepsTable e (e.walk places) := by
  induction places generalizing e with
  | nil => exact .refl e
  | cons stop rest ih =>
      have hv : KeepsTable e (e.visit stop).2 := keepsTable_visit hn
      exact hv.trans (ih (hv.ids ▸ hn))

/-! ### The way around -/

theorem upcoming_eq_rotate (h : e.turn < e.order.length) :
    e.upcoming = e.order.zipIdx.rotate (e.turn + 1) := by
  rw [List.rotate_eq_drop_append_take (by rw [List.length_zipIdx]; exact h)]
  rfl

/-- The `k`-th place after the current one. -/
theorem getElem?_upcoming (h : e.turn < e.order.length) {k : Nat} (hk : k < e.order.length) :
    e.upcoming[k]? = e.order[(e.turn + 1 + k) % e.order.length]?.map
      fun id => (id, (e.turn + 1 + k) % e.order.length) := by
  rw [upcoming_eq_rotate h, List.getElem?_rotate (by rw [List.length_zipIdx]; exact hk),
    List.getElem?_zipIdx, List.length_zipIdx, Nat.zero_add, Nat.add_comm k]

theorem length_upcoming (h : e.turn < e.order.length) : e.upcoming.length = e.order.length := by
  rw [upcoming_eq_rotate h, List.length_rotate, List.length_zipIdx]

theorem mem_order_iff_upcoming (h : e.turn < e.order.length) :
    id ∈ e.order ↔ ∃ stop ∈ e.upcoming, stop.1 = id := by
  rw [upcoming_eq_rotate h]
  simp only [List.mem_rotate]
  rw [← List.mem_map, List.zipIdx_map_fst]

theorem getElem?_order_of_upcoming (h : e.turn < e.order.length) {stop : CombatantId × Nat}
    (hs : stop ∈ e.upcoming) : e.order[stop.2]? = some stop.1 := by
  rw [upcoming_eq_rotate h, List.mem_rotate] at hs
  exact List.mem_zipIdx_iff_getElem?.mp hs

theorem place_of_upcoming (h : e.turn < e.order.length) (hup : e.upcoming = (id, place) :: places) :
    place = (e.turn + 1) % e.order.length := by
  have hn : 0 < e.order.length := Nat.zero_lt_of_lt h
  have h0 := getElem?_upcoming h hn
  rw [hup, List.getElem?_cons_zero, Nat.add_zero,
    List.getElem?_eq_getElem (Nat.mod_lt _ hn)] at h0
  exact congrArg Prod.snd (Option.some.inj h0)

/-- The way seen from its first place ends at that place. -/
theorem upcoming_visit (h : e.turn < e.order.length) (hup : e.upcoming = (id, place) :: places) :
    (e.visit (id, place)).2.upcoming = places ++ [(id, place)] := by
  have hplace := place_of_upcoming h hup
  have hlt : (e.visit (id, place)).2.turn < (e.visit (id, place)).2.order.length := by
    rw [turn_visit, order_visit, hplace]
    exact Nat.mod_lt _ (Nat.zero_lt_of_lt h)
  rw [upcoming_eq_rotate hlt, turn_visit, order_visit]
  conv_lhs => rw [hplace]
  rw [← List.rotate_rotate, ← List.length_zipIdx, List.rotate_mod, ← upcoming_eq_rotate h, hup,
    List.rotate_cons_succ, List.rotate_zero]

/-- A visit to the next place moves the clock on by one. -/
theorem clock_visit (h : e.turn < e.order.length) (hup : e.upcoming = (id, place) :: places) :
    (e.visit (id, place)).2.clock = e.clock + 1 ∧
      (e.visit (id, place)).2.turn < e.order.length := by
  have hplace := place_of_upcoming h hup
  rw [clock, clock, round_visit, order_visit, turn_visit]
  refine ⟨?_, hplace ▸ Nat.mod_lt _ (Nat.zero_lt_of_lt h)⟩
  rcases Nat.lt_or_ge (e.turn + 1) e.order.length with hlt | hge
  · rw [Nat.mod_eq_of_lt hlt] at hplace
    rw [hplace, if_neg (Nat.succ_ne_zero _), Nat.add_zero, Nat.add_assoc]
  · -- the turn wraps: the order has exactly `e.turn + 1` places
    have hlen : e.turn + 1 = e.order.length := Nat.le_antisymm h hge
    rw [hlen, Nat.mod_self] at hplace
    rw [hplace, if_pos rfl, Nat.add_mul, Nat.one_mul, Nat.add_zero, Nat.add_assoc, hlen]

/-- Visits to the next places move the clock on, each by one. -/
theorem clock_walk {rest : List (CombatantId × Nat)} (h : e.turn < e.order.length)
    (hup : e.upcoming = places ++ rest) :
    (e.walk places).clock = e.clock + places.length ∧
      (e.walk places).turn < e.order.length := by
  induction places generalizing e rest with
  | nil => exact ⟨rfl, h⟩
  | cons stop places ih =>
      have hup : e.upcoming = stop :: (places ++ rest) := hup
      obtain ⟨hclock, hturn⟩ := clock_visit h hup
      have horder : (e.visit stop).2.order = e.order := order_visit
      have hup' : (e.visit stop).2.upcoming = places ++ (rest ++ [stop]) := by
        rw [upcoming_visit h hup, List.append_assoc]
      obtain ⟨hc, ht⟩ := ih (horder.symm ▸ hturn) hup'
      rw [walk, List.length_cons, hc, hclock]
      exact ⟨by omega, horder ▸ ht⟩

/-- A new round begins at most once on the way. -/
theorem round_walk_le {rest : List (CombatantId × Nat)} (h : e.turn < e.order.length)
    (hup : e.upcoming = places ++ rest) :
    (e.walk places).round ≤ e.round + 1 := by
  have hlen := length_upcoming h
  obtain ⟨hclock, -⟩ := clock_walk h hup
  rw [hup, List.length_append] at hlen
  rw [clock, clock, order_walk] at hclock
  have hlt : (e.walk places).round * e.order.length < (e.round + 1 + 1) * e.order.length := by
    rw [Nat.succ_mul, Nat.succ_mul]
    omega
  exact Nat.le_of_lt_succ (Nat.lt_of_mul_lt_mul_right hlt)

/-! ### Seeking the turn -/

theorem visit_ok (h : e.find? id = some c) (place : Nat) :
    ∃ c', e.visit (id, place) = (.ok (c', e.visitEndings (id, place)), (e.visit (id, place)).2) ∧
      c'.isAlive = c.isAlive := by
  rw [visitEndings, visit_of_find? h]
  exact ⟨_, rfl, by rw [isAlive_refresh, isAlive_aged]⟩

/-- The turn seeks past everybody who is passed over, and stops at the first who is not. -/
theorem seekTurn_walk {passed : List (CombatantId × Nat)} {stop : CombatantId × Nat}
    (hin : ∀ s ∈ passed ++ [stop], s.1 ∈ e.ids) (hp : ∀ s ∈ passed, e.passesOver s.1 = true)
    (hs : e.passesOver stop.1 = false) (hn : e.ids.Nodup) (way : Passage)
    (rest : List (CombatantId × Nat)) :
    ∃ info, seekTurn way (passed ++ stop :: rest) e =
        (.ok (.turn info), e.walk (passed ++ [stop])) ∧
      info.id = stop.1 ∧ info.skipped = way.skipped ++ passed.map (·.1) ∧
      info.newRound = (way.newRound || (passed ++ [stop]).any (·.2 == 0)) ∧
      info.expired = way.expired ++ e.endings (passed ++ [stop]) ∧
      info.round = (e.walk (passed ++ [stop])).round ∧
      info.turn = (e.walk (passed ++ [stop])).turn := by
  induction passed generalizing e way with
  | nil =>
      obtain ⟨id, place⟩ := stop
      obtain ⟨c, hc⟩ := exists_find?_of_mem_ids (hin (id, place) (List.mem_singleton_self _))
      obtain ⟨c', hv, halive⟩ := visit_ok hc place
      have hstay : ¬ (e.settings.skipFallen && !c'.isAlive) = true := by
        rw [halive, Bool.not_eq_true]
        simpa only [passesOver, hc, Option.any_some] using hs
      rw [List.nil_append, seekTurn, hv, Outcome.andThen_ok, settings_visit, if_neg hstay]
      exact ⟨_, rfl, rfl, (List.append_nil _).symm, by simp, by simp [endings], rfl, rfl⟩
  | cons first passed ih =>
      obtain ⟨id, place⟩ := first
      obtain ⟨c, hc⟩ := exists_find?_of_mem_ids (hin (id, place) List.mem_cons_self)
      obtain ⟨c', hv, halive⟩ := visit_ok hc place
      have hgo : (e.settings.skipFallen && !c'.isAlive) = true := by
        rw [halive]
        simpa only [passesOver, hc, Option.any_some] using hp (id, place) List.mem_cons_self
      -- a visit changes neither who is at the table nor who is passed over
      have hids : (e.visit (id, place)).2.ids = e.ids := (keepsTable_visit hn).ids
      rw [List.cons_append, seekTurn, hv, Outcome.andThen_ok, settings_visit, if_pos hgo]
      obtain ⟨info, hseek, hid, hskip, hround, hend, hrest⟩ :=
        ih (e := (e.visit (id, place)).2)
          (fun s hs' => hids ▸ hin s (List.mem_cons_of_mem _ hs'))
          (fun s hs' => passesOver_visit.trans (hp s (List.mem_cons_of_mem _ hs')))
          (passesOver_visit.trans hs) (hids ▸ hn)
          ⟨way.newRound || place == 0, way.skipped ++ [id],
            way.expired ++ e.visitEndings (id, place)⟩
      refine ⟨info, hseek, hid, ?_, ?_, ?_, hrest⟩
      · rw [hskip, List.append_assoc]
        rfl
      · rw [hround, Bool.or_assoc]
        rfl
      · rw [hend, List.append_assoc]
        rfl

theorem someoneCanAct_iff : e.someoneCanAct = true ↔ ∃ id ∈ e.order, e.passesOver id = false := by
  unfold someoneCanAct passesOver
  cases e.settings.skipFallen with
  | false => simp [List.eq_nil_iff_forall_not_mem]
  | true =>
      simp only [Bool.not_true, Bool.false_or, Bool.and_eq_true, Bool.true_and,
        Bool.not_eq_false', List.any_eq_true, Bool.not_eq_true', List.isEmpty_eq_false_iff]
      exact ⟨fun h => h.2, fun ⟨id, hm, h⟩ => ⟨List.ne_nil_of_mem hm, id, hm, h⟩⟩

/-- The way of the turn goes past the places `passed`, where nobody may act, to the place `stop`,
and `info` tells so. -/
structure Turned (e : Encounter) (passed : List (CombatantId × Nat)) (stop : CombatantId × Nat)
    (info : TurnInfo) : Prop where
  turn_lt : e.turn < e.order.length
  way : ∃ rest, e.upcoming = passed ++ [stop] ++ rest
  passes : ∀ s ∈ passed, e.passesOver s.1 = true
  stops : e.passesOver stop.1 = false
  id : info.id = stop.1
  skipped : info.skipped = passed.map (·.1)
  newRound : info.newRound = (passed ++ [stop]).any (·.2 == 0)
  expired : info.expired = e.endings (passed ++ [stop])
  round : info.round = (e.walk (passed ++ [stop])).round
  turn : info.turn = (e.walk (passed ++ [stop])).turn

/-- The turn stops at a place of the order. -/
theorem Turned.getElem?_order {passed : List (CombatantId × Nat)} {stop : CombatantId × Nat}
    {info : TurnInfo} (h : Turned e passed stop info) : e.order[stop.2]? = some stop.1 := by
  obtain ⟨rest, hup⟩ := h.way
  refine getElem?_order_of_upcoming h.turn_lt ?_
  rw [hup]
  exact List.mem_append_left _ (List.mem_append_right _ (List.mem_singleton_self _))

/-- The identities that are visited, in the order of the visits. -/
theorem Turned.map_fst_visited {passed : List (CombatantId × Nat)} {stop : CombatantId × Nat}
    {info : TurnInfo} (h : Turned e passed stop info) :
    (passed ++ [stop]).map (·.1) = info.skipped ++ [info.id] := by
  rw [h.skipped, h.id, List.map_append, List.map_singleton]

/-- The turn comes up in the same round, or in the next. -/
theorem Turned.round_le {passed : List (CombatantId × Nat)} {stop : CombatantId × Nat}
    {info : TurnInfo} (h : Turned e passed stop info) : info.round ≤ e.round + 1 := by
  obtain ⟨rest, hup⟩ := h.way
  exact h.round.trans_le (round_walk_le h.turn_lt hup)

/-- The round is one too many after the last that can be counted, and only there. -/
theorem Turned.round_eq_greatest {passed : List (CombatantId × Nat)} {stop : CombatantId × Nat}
    {info : TurnInfo} (h : Turned e passed stop info) (hc : e.Consistent)
    (hmany : Count.greatest < info.round) : e.round = Count.greatest :=
  Nat.le_antisymm hc.counted (Nat.le_of_lt_succ (hmany.trans_le h.round_le))

theorem lt_of_mem_order (hc : e.Consistent) (h : id ∈ e.order) : e.turn < e.order.length := by
  refine hc.turn_lt.resolve_right fun h0 => ?_
  rw [List.length_eq_zero_iff.mp h0.2] at h
  exact List.not_mem_nil h

/-- In an active fight the turn goes nowhere if nobody may act, or else to the first place on the
way where somebody may.  It fails if the round there would be one too many. -/
theorem nextTurn_cases (hc : e.Consistent) (ha : e.phase = .active) :
    (e.someoneCanAct = false ∧ e.nextTurn = (.ok (.noneLiving e.round), e)) ∨
      ∃ passed stop info, Turned e passed stop info ∧
        ((info.round ≤ Count.greatest ∧
            e.nextTurn = (.ok (.turn info), e.walk (passed ++ [stop]))) ∨
          (Count.greatest < info.round ∧ e.nextTurn = (.error (.exhausted .rounds), e))) := by
  cases hs : e.someoneCanAct with
  | false =>
      refine .inl ⟨rfl, ?_⟩
      rw [nextTurn, if_neg (not_not.mpr ha), hs, if_pos (Bool.not_false)]
  | true =>
      obtain ⟨id, hid, hgo⟩ := someoneCanAct_iff.mp hs
      have hlt := lt_of_mem_order hc hid
      obtain ⟨stop, hstop, rfl⟩ := (mem_order_iff_upcoming hlt).mp hid
      -- the first place on the way that is not passed over
      obtain ⟨stop, hfind⟩ : ∃ stop, e.upcoming.find? (fun s => !e.passesOver s.1) = some stop := by
        rw [← Option.isSome_iff_exists, List.find?_isSome]
        exact ⟨stop, hstop, by rw [hgo]; rfl⟩
      obtain ⟨hstop, passed, rest, hup, hpassed⟩ := List.find?_eq_some_iff_append.mp hfind
      have hstop : e.passesOver stop.1 = false := by simpa using hstop
      have hpassed : ∀ s ∈ passed, e.passesOver s.1 = true := by simpa using hpassed
      have hin : ∀ s ∈ passed ++ [stop], s.1 ∈ e.ids := fun s hm => by
        refine hc.order_ids _ ((mem_order_iff_upcoming hlt).mpr ⟨s, ?_, rfl⟩)
        rw [hup, List.append_cons]
        exact List.mem_append_left _ hm
      obtain ⟨info, hseek, hi, hsk, hnew, hend, hround, hturn⟩ :=
        seekTurn_walk hin hpassed hstop hc.nodup ⟨false, [], []⟩ rest
      refine .inr ⟨passed, stop, info, ⟨hlt, ⟨rest, by rw [hup, List.append_cons]⟩, hpassed, hstop,
        hi, hsk, hnew, hend, hround, hturn⟩, ?_⟩
      rw [nextTurn, if_neg (not_not.mpr ha), hs, if_neg (by decide), hup, hseek]
      dsimp only
      rw [← hround]
      by_cases hle : info.round ≤ Count.greatest
      · exact .inl ⟨hle, if_pos hle⟩
      · exact .inr ⟨Nat.lt_of_not_le hle, if_neg hle⟩

/-- In an active fight the turn goes on, unless the last round that can be counted would have to be
followed by another. -/
theorem nextTurn_goes_on (hc : e.Consistent) (ha : e.phase = .active) :
    (∃ advance e', e.nextTurn = (.ok advance, e')) ∨
      e.round = Count.greatest ∧ e.nextTurn = (.error (.exhausted .rounds), e) := by
  rcases nextTurn_cases hc ha with ⟨-, h⟩ | ⟨passed, stop, info, ht, ⟨-, h⟩ | ⟨hmany, h⟩⟩
  · exact .inl ⟨_, _, h⟩
  · exact .inl ⟨_, _, h⟩
  · exact .inr ⟨ht.round_eq_greatest hc hmany, h⟩

/-- In the last round that can be counted, Ann, who fights alone, gets no further turn. -/
example :
    let e := { ((withDice .standard (.ofFaces [])).add (.basic "Ann" 10 10)).2 with
      order := [⟨1⟩], round := Count.greatest, phase := .active }
    nextTurn e = (.error (.exhausted .rounds), e) := rfl

theorem nextTurn_of_not_active (ha : e.phase ≠ .active) :
    e.nextTurn = (.error (.notActive e.phase), e) := by
  rw [nextTurn, if_pos ha]

/-! ### Turns keep a fight consistent -/

theorem consistent_walk (hc : e.Consistent) (ha : e.phase = .active)
    {rest : List (CombatantId × Nat)} (h : e.turn < e.order.length)
    (hup : e.upcoming = places ++ rest) (hr : (e.walk places).round ≤ Count.greatest) :
    (e.walk places).Consistent := by
  refine (keepsTable_walk hc.nodup).consistent hc ?_ ?_ ?_ ?_ ?_ ?_ hr
  · rw [order_walk]; exact hc.order_nodup
  · rw [order_walk]; exact hc.order_ids
  · rw [order_walk]; exact .inl (clock_walk h hup).2
  · rw [phase_walk]; exact hc.not_initiative
  · rw [phase_walk, ha]; exact fun h => Phase.noConfusion h
  · rw [round_walk]; exact fun _ => Nat.le_add_right_of_le (hc.running (.inl ha))

end Encounter

end Tabletop
