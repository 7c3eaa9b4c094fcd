import Tabletop.Proofs.Encounter.Fairness

/-!
# Encounter — whose turn it is

The turn is kept as a place in the order, and this module says what becomes of whoever stands there.
When somebody else leaves, the turn stays with its combatant, unless whoever left stood earlier in
the order: then the places move up under it, and the turn passes to the one who follows
(`turn_after_leaving`).  Where fallen combatants are skipped, the turn goes on to somebody who is up;
but the beginning of a fight gives it to the first in the order, up or not (`turn_opened`).
-/

namespace Tabletop

/-- An element that is kept stands after as many places as elements before it are kept. -/
theorem getElem?_filter_of_pos {α : Type} {p : α → Bool} {l : List α} {i : Nat} {a : α}
    (h : l[i]? = some a) (hp : p a = true) :
    (l.filter p)[((l.take i).filter p).length]? = some a := by
  obtain ⟨hlt, ha⟩ := List.getElem?_eq_some_iff.mp h
  have hsplit : l.filter p = (l.take i).filter p ++ (l.drop i).filter p := by
    rw [← List.filter_append, List.take_append_drop]
  rw [hsplit, List.getElem?_append_right (Nat.le_refl _), Nat.sub_self,
    List.drop_eq_getElem_cons hlt, ha, List.filter_cons_of_pos hp, List.getElem?_cons_zero]

namespace Encounter

variable {e e' : Encounter} {c : Combatant} {id : CombatantId}

/-! ### When somebody else leaves -/

/-- Those who stand before the current place in the order. -/
def earlier (e : Encounter) : List CombatantId := e.order.take e.turn

/-- In the order that is left, whoever has the turn stands after those before it who are left. -/
theorem getElem?_order_without (hcur : e.current? = some c) (hne : id ≠ c.id) :
    (e.without id).order[(e.earlier.filter (· != id)).length]? = some c.id :=
  getElem?_filter_of_pos (getElem?_order_of_current? hcur) (bne_iff_ne.mpr (Ne.symm hne))

theorem length_earlier (hcur : e.current? = some c) : e.earlier.length = e.turn := by
  obtain ⟨hlt, -⟩ := List.getElem?_eq_some_iff.mp (getElem?_order_of_current? hcur)
  exact List.length_take_of_le (Nat.le_of_lt hlt)

/-- The turn does not move when nobody before it leaves. -/
theorem current?_without (hcur : e.current? = some c) (hne : id ≠ c.id) (hnot : id ∉ e.earlier) :
    (e.without id).current? = some c := by
  have hall : e.earlier.filter (· != id) = e.earlier :=
    List.filter_eq_self.mpr fun other ho => bne_iff_ne.mpr fun heq => hnot (heq ▸ ho)
  have hplace := getElem?_order_without hcur hne
  rw [hall, length_earlier hcur] at hplace
  obtain ⟨hlt, -⟩ := List.getElem?_eq_some_iff.mp hplace
  have hturn : (e.without id).turn = e.turn := if_pos hlt
  refine current?_eq_some_iff.mpr ⟨(current?_eq_some_iff.mp hcur).1, by rw [hturn, hplace], ?_⟩
  rw [find?_without (Ne.symm hne), find?_of_current? hcur]

/-- The turn passes to the next when somebody before it leaves. -/
theorem current?_without_earlier (hc : e.Consistent) (hcur : e.current? = some c)
    (hin : id ∈ e.earlier) (hne : id ≠ c.id) :
    ∃ k d, (e.without id).order[k]? = some c.id ∧ (e.without id).current? = some d ∧
      (e.without id).order[(k + 1) % (e.without id).order.length]? = some d.id := by
  have hplace := getElem?_order_without hcur hne
  have hnodup : e.earlier.Nodup := hc.order_nodup.sublist (List.take_sublist _ _)
  obtain ⟨hlt, -⟩ := List.getElem?_eq_some_iff.mp hplace
  -- one place before the turn is lost
  have hk : (e.earlier.filter (· != id)).length + 1 = e.turn := by
    rw [← hnodup.erase_eq_filter, List.length_erase_of_mem hin, length_earlier hcur]
    have hpos := List.length_pos_of_mem hin
    rw [length_earlier hcur] at hpos
    omega
  have hturn : (e.without id).turn =
      ((e.earlier.filter (· != id)).length + 1) % (e.without id).order.length := by
    rw [hk, show (e.without id).turn =
      if e.turn < (e.without id).order.length then e.turn else 0 from rfl]
    split
    · next h => rw [Nat.mod_eq_of_lt h]
    · next h =>
        have hlen : e.turn = (e.without id).order.length := by omega
        rw [hlen, Nat.mod_self]
  obtain ⟨d, hd⟩ : ∃ d, (e.without id).current? = some d := by
    rw [← Option.isSome_iff_exists, (consistent_without hc).isSome_current?]
    exact ⟨(current?_eq_some_iff.mp hcur).1, List.ne_nil_of_length_pos (Nat.zero_lt_of_lt hlt)⟩
  exact ⟨_, d, hplace, hd, hturn ▸ getElem?_order_of_current? hd⟩

/-- **Whose turn it is when somebody else leaves.**  Whoever is at the table can leave.  If it is
not their turn and they do not stand before whoever has it, nothing changes about the turn.  If they
stand before, the turn passes to the one who follows in the order that is left, around it. -/
theorem turn_after_leaving (h : Reachable e) (hcur : e.current? = some c) (hid : id ∈ e.ids)
    (hne : id ≠ c.id) :
    let after := (e.remove id).2
    (∃ gone, (e.remove id).1 = .ok gone) ∧
      (id ∉ e.earlier → after.current? = some c) ∧
      (id ∈ e.earlier → ∃ k d, after.order[k]? = some c.id ∧ after.current? = some d ∧
        after.order[(k + 1) % after.order.length]? = some d.id) := by
  intro after
  obtain ⟨gone, hgone⟩ := exists_find?_of_mem_ids hid
  have hafter : after = e.without id := congrArg Prod.snd (remove_of_find? hgone)
  rw [hafter]
  exact ⟨⟨gone, congrArg Prod.fst (remove_of_find? hgone)⟩, current?_without hcur hne,
    fun hin => current?_without_earlier h.consistent hcur hin hne⟩

/-- Ann, Bob and Cid have just begun to fight. -/
def trio : Encounter :=
  ((withDice .standard (.ofFaces [15, 10, 5])).performAll
    [.add (.basic "Ann" 10 10), .add (.basic "Bob" 10 10), .add (.basic "Cid" 10 10), .start]).2

theorem reachable_trio : trio.Reachable := (Reachable.idle _ _).performAll _

theorem trio_eq : trio = { trio with order := [⟨1⟩, ⟨2⟩, ⟨3⟩] } := by
  -- they have rolled in the order in which they came
  have horder : trio.order = [⟨1⟩, ⟨2⟩, ⟨3⟩] := order_begun_of_pairwise
    (e := ((withDice .standard (.ofFaces [15, 10, 5])).performAll
      [.add (.basic "Ann" 10 10), .add (.basic "Bob" 10 10), .add (.basic "Cid" 10 10)]).2)
    (by decide)
  rw [← horder]

/-- Bob has the turn. -/
theorem current?_trio :
    ∃ bob, (trio.perform .nextTurn).2.current? = some bob ∧ bob.id = ⟨2⟩ := by
  rw [trio_eq]
  exact ⟨_, rfl, rfl⟩

/-- When Cid leaves, Bob keeps the turn. -/
theorem turn_after_leaving_last :
    let e := (trio.perform .nextTurn).2
    ∃ bob, e.current? = some bob ∧ bob.id = ⟨2⟩ ∧ ⟨3⟩ ∈ e.ids ∧ ⟨3⟩ ∉ e.earlier ∧
      (e.remove ⟨3⟩).2.current? = some bob := by
  intro e
  obtain ⟨bob, hcur, hbob⟩ := current?_trio
  have hids : ⟨3⟩ ∈ e.ids := by
    simp only [e]
    rw [trio_eq]
    decide
  have hafter : ⟨3⟩ ∉ e.earlier := by
    simp only [e]
    rw [trio_eq]
    decide
  obtain ⟨-, hkeeps, -⟩ := turn_after_leaving (reachable_trio.perform .nextTurn) hcur hids
    (by rw [hbob]; decide)
  exact ⟨bob, hcur, hbob, hids, hafter, hkeeps hafter⟩

/-- It is not so that nobody loses their turn when somebody else leaves: when Ann does, who stands
before Bob, the turn passes from him to Cid. -/
theorem turn_lost_by_leaving :
    ¬ ∀ (e : Encounter) (c : Combatant) (id : CombatantId), e.Reachable → e.current? = some c →
      id ∈ e.ids → id ≠ c.id → (e.remove id).2.current? = some c := by
  intro hkeeps
  obtain ⟨bob, hcur, hbob⟩ := current?_trio
  have hids : ⟨1⟩ ∈ (trio.perform .nextTurn).2.ids := by
    rw [trio_eq]
    decide
  have hlost := hkeeps _ bob ⟨1⟩ (reachable_trio.perform .nextTurn) hcur hids
    (by rw [hbob]; decide)
  have hcid : (((trio.perform .nextTurn).2.remove ⟨1⟩).2.current?.map (·.id)) = some ⟨3⟩ := by
    rw [trio_eq]
    rfl
  rw [hlost, Option.map_some, hbob] at hcid
  exact absurd hcid (by decide)

/-! ### When a turn is opened -/

/-- The turn goes to whoever stands where it stops. -/
theorem Turned.current? {passed : List (CombatantId × Nat)} {stop : CombatantId × Nat}
    {info : TurnInfo} (h : Turned e passed stop info) (hc : e.Consistent)
    (ha : e.phase = .active) :
    ∃ c, (e.walk (passed ++ [stop])).current? = some c ∧ c.id = info.id := by
  have hin : stop.1 ∈ (e.walk (passed ++ [stop])).ids := by
    rw [(keepsTable_walk hc.nodup).ids]
    exact hc.order_ids _ (List.mem_of_getElem? h.getElem?_order)
  obtain ⟨c, hfound⟩ := exists_find?_of_mem_ids hin
  have hid := id_of_find? hfound
  refine ⟨c, current?_eq_some_iff.mpr ⟨.inl (phase_walk.trans ha), ?_, hid ▸ hfound⟩,
    hid.trans h.id.symm⟩
  rw [order_walk, walk_concat, turn_visit, hid]
  exact h.getElem?_order

/-- Where fallen combatants are skipped, the turn goes to somebody who is up. -/
theorem isAlive_of_nextTurn (hc : e.Consistent) (hskip : e.settings.skipFallen = true)
    {info : TurnInfo} (h : e.nextTurn = (.ok (.turn info), e')) :
    ∃ c, e'.current? = some c ∧ c.id = info.id ∧ c.isAlive = true := by
  by_cases ha : e.phase = .active
  · rcases nextTurn_cases hc ha with
      ⟨-, hnext⟩ | ⟨passed, stop, info, ht, ⟨-, hnext⟩ | ⟨-, hnext⟩⟩
    · rw [hnext] at h
      cases h
    · rw [hnext] at h
      cases h
      obtain ⟨c, hcur, hid⟩ := ht.current? hc ha
      refine ⟨c, hcur, hid, ?_⟩
      -- whoever is not passed over where the turn stops is not on the way either
      have hstops : (e.walk (passed ++ [stop])).passesOver c.id = false := by
        rw [passesOver_walk, hid, ht.id]
        exact ht.stops
      have hset : (e.walk (passed ++ [stop])).settings = e.settings :=
        (keepsTable_walk hc.nodup).settings
      simpa [passesOver, hset, hskip, find?_of_current? hcur] using hstops
    · rw [hnext] at h
      cases h
  · rw [nextTurn_of_not_active ha] at h
    cases h

/-- Whoever can end the turn hands it on. -/
theorem nextTurn_of_endTurn {advance : TurnAdvance} (h : e.endTurn id = (.ok advance, e')) :
    e.nextTurn = (.ok advance, e') := by
  by_cases ha : e.phase = .active
  · rcases endTurn_cases ha id with ⟨-, heq⟩ | ⟨-, hno⟩
    · exact heq ▸ h
    · rw [hno] at h
      cases h
  · rw [endTurn_of_not_active ha] at h
    cases h

/-- The first turn goes to the first in the order, who is up if they were before. -/
theorem current?_begun (hne : e.combatants ≠ []) :
    ∃ first c, e.begun.order[0]? = some first.id ∧ e.find? first.id = some first ∧
      e.begun.current? = some c ∧ c.id = first.id ∧ c.isAlive = first.isAlive := by
  have hpos : 0 < e.begun.order.length := by
    rw [(perm_order_begun e).length_eq, ids, List.length_map]
    exact List.length_pos_iff.mpr hne
  obtain ⟨first, hfirst⟩ := exists_find?_of_mem_ids
    ((perm_order_begun e).mem_iff.mp (List.getElem_mem hpos))
  obtain ⟨c, hfound, hlives⟩ := (befalls_begun e).exists_find? hfirst
  have hid := id_of_find? hfirst
  have hid' := id_of_find? hfound
  have hplace : e.begun.order[0]? = some e.begun.order[0] := List.getElem?_eq_getElem hpos
  refine ⟨first, c, hid ▸ hplace, hid.symm ▸ hfirst, ?_, hid'.trans hid.symm, ?_⟩
  · exact current?_eq_some_iff.mpr ⟨.inl rfl, hid'.symm ▸ hplace, hid'.symm ▸ hfound⟩
  · refine hlives.isAlive fun event hcause => ?_
    cases hcause with
    | initiative | ready => rfl
    | refresh hno | age hno => simp at hno

/-- **Who gets the turn.**  Where fallen combatants are skipped, a turn that comes up, whether or
not somebody has ended theirs for it, is the turn of somebody who is up.  The first turn of a fight
is the turn of the first in the order, and so of somebody who is up only if that one is. -/
theorem turn_opened (h : Reachable e) (hskip : e.settings.skipFallen = true) :
    (∀ info e', (e.nextTurn = (.ok (.turn info), e') ∨
        ∃ id, e.endTurn id = (.ok (.turn info), e')) →
        ∃ c, e'.current? = some c ∧ c.id = info.id ∧ c.isAlive = true) ∧
      ∀ report e', e.start = (.ok report, e') →
        ∃ first c, report.order[0]? = some first.id ∧ e.find? first.id = some first ∧
          e'.current? = some c ∧ c.id = first.id ∧ c.isAlive = first.isAlive := by
  constructor
  · rintro info e' (hnext | ⟨id, hend⟩)
    · exact isAlive_of_nextTurn h.consistent hskip hnext
    · exact isAlive_of_nextTurn h.consistent hskip (nextTurn_of_endTurn hend)
  · intro report e' hs
    obtain ⟨hne, rfl, hreport⟩ := start_ok hs
    rw [hreport]
    exact current?_begun hne

/-- Ann is down before the fight with Bob begins, but will roll the higher initiative. -/
def ambush : Encounter :=
  ((withDice .standard (.ofFaces [15, 10])).performAll
    [.add (.basic "Ann" 10 10), .add (.basic "Bob" 10 10), .damage ⟨1⟩ 10 .piercing]).2

theorem reachable_ambush : ambush.Reachable := (Reachable.idle _ _).performAll _

theorem begun_ambush : ambush.begun = { ambush.begun with order := [⟨1⟩, ⟨2⟩] } := by
  have horder : ambush.begun.order = [⟨1⟩, ⟨2⟩] := order_begun_of_pairwise (by decide)
  rw [← horder]

theorem start_ambush : ∃ report, ambush.start = (.ok report, ambush.begun) :=
  ⟨_, start_of_inactive rfl (List.cons_ne_nil _ _)⟩

theorem reachable_begun_ambush : ambush.begun.Reachable := by
  obtain ⟨report, hs⟩ := start_ambush
  have hbegun : (ambush.perform .start).2 = ambush.begun := by
    rw [perform, hs]
    rfl
  exact hbegun ▸ reachable_ambush.perform .start

/-- Bob's first turn comes after Ann's, and his second right after his first. -/
theorem turn_opened_ambush :
    ambush.settings.skipFallen = true ∧
      (∃ report c, ambush.start = (.ok report, ambush.begun) ∧ ambush.begun.current? = some c ∧
        report.order[0]? = some c.id) ∧
      ∃ info e', ambush.begun.nextTurn = (.ok (.turn info), e') ∧ info.id = ⟨2⟩ ∧
        (∃ c, e'.current? = some c ∧ c.id = info.id ∧ c.isAlive = true) := by
  obtain ⟨report, hs⟩ := start_ambush
  obtain ⟨first, c, hfirst, -, hcur, hid, -⟩ := (turn_opened reachable_ambush rfl).2 _ _ hs
  have hnext : ∃ info e', ambush.begun.nextTurn = (.ok (.turn info), e') ∧ info.id = ⟨2⟩ := by
    rw [begun_ambush]
    exact ⟨_, _, rfl, rfl⟩
  obtain ⟨info, e', hturn, hbob⟩ := hnext
  exact ⟨rfl, ⟨report, c, hs, hcur, hid ▸ hfirst⟩, info, e', hturn, hbob,
    (turn_opened reachable_begun_ambush rfl).1 info e' (.inl hturn)⟩

/-- The first turn of the fight is Ann's, who is down, though Bob is up and in the order, and fallen
combatants are skipped. -/
theorem first_turn_fallen :
    ∃ report, ambush.Reachable ∧ ambush.settings.skipFallen = true ∧
      ambush.start = (.ok report, ambush.begun) ∧
      (∃ bob, ⟨2⟩ ∈ ambush.begun.order ∧ ambush.begun.find? ⟨2⟩ = some bob ∧ bob.isAlive = true) ∧
      ∃ ann, ambush.begun.current? = some ann ∧ ann.isAlive = false := by
  obtain ⟨report, hs⟩ := start_ambush
  refine ⟨report, reachable_ambush, rfl, hs, ?_⟩
  rw [begun_ambush]
  exact ⟨⟨_, List.mem_cons_of_mem _ (List.mem_singleton_self _), rfl, rfl⟩, _, rfl, rfl⟩

end Encounter

end Tabletop
