import Tabletop.Proofs.Encounter.Fairness

/-!
# Encounter — the turn order is settled

The order in which those in a fight act is settled when the fight begins.  `Settled` relates it to
every state that comes after: the order is then what was settled, less those who have left, and
whoever has joined since has rolled no initiative.  Every step keeps this (`Step.settled`), so every
run does (`settled_performAll`); for a run from the beginning of the fight this is `order_settled`,
which says too that nobody who joins late ever has anything to do with the turn.
-/

namespace Tabletop

/-- Initiative is rolled when the fight begins, and at no other time. -/
theorem Command.eq_start_of_causes {command : Command} {id : CombatantId} {total : Int}
    (h : command.Causes id (.initiative total)) : command = .start := by
  cases h
  rfl

theorem Combatant.Lives.initiative {command : Command} {c c' : Combatant}
    (h : Lives command.Causes c c') (hs : command ≠ .start) : c'.initiative = c.initiative := by
  obtain ⟨events, hevents, rfl⟩ := h
  refine initiative_undergoAll (fun event hm total heq => hs ?_) c
  exact Command.eq_start_of_causes (heq ▸ hevents event hm)

namespace Encounter

variable {e e' : Encounter} {command : Command} {reply : Except EncounterError Reply}
  {id : CombatantId} {order : List CombatantId} {next : Nat}

/-- In `e` the fight goes by the order that was settled when the next identity was `next`: those of
them who are still at the table act in that order, and nobody else has rolled initiative. -/
structure Settled (order : List CombatantId) (next : Nat) (e : Encounter) : Prop where
  begun : e.phase ≠ .inactive
  order_eq : e.order = order.filter (· ∈ e.ids)
  early : ∀ id ∈ order, id.number < next
  next_le : next ≤ e.nextNumber
  unrolled : ∀ c ∈ e.combatants, next ≤ c.id.number → c.initiative = none

/-- Another course of the fight with the same order, identities and initiative is settled too. -/
theorem Settled.of_befalls (h : Settled order next e) (hb : Befalls command.Causes e e')
    (hs : command ≠ .start) (hbegun : e'.phase ≠ .inactive) (ho : e'.order = e.order)
    (hids : e'.ids = e.ids) (hnext : e'.nextNumber = e.nextNumber) : Settled order next e' where
  begun := hbegun
  order_eq := by rw [ho, hids, h.order_eq]
  early := h.early
  next_le := hnext ▸ h.next_le
  unrolled c' hc' hlate := by
    obtain ⟨c, hc, hl⟩ := exists_of_forall₂ hb hc'
    rw [hl.initiative hs]
    exact h.unrolled c hc (hl.later.id ▸ hlate)

/-- Whoever joins has no place in the order, since their identity is greater than all in it. -/
theorem Settled.add (h : Settled order next e) (s : StatBlock) : Settled order next (e.add s).2 where
  begun := h.begun
  order_eq := by
    rw [show (e.add s).2.order = e.order from rfl, h.order_eq, ids_add]
    refine List.filter_congr fun id hid => ?_
    have hne : id ≠ ⟨e.nextNumber⟩ := fun heq =>
      Nat.lt_irrefl id.number (Nat.lt_of_lt_of_le (h.early id hid) (heq ▸ h.next_le))
    simp [hne]
  early := h.early
  next_le := Nat.le_succ_of_le h.next_le
  unrolled c hc hlate := by
    rcases List.mem_append.mp hc with hc | hc
    · exact h.unrolled c hc hlate
    · rw [List.mem_singleton.mp hc]
      rfl

/-- Whoever leaves leaves the order, and nobody else does. -/
theorem Settled.without (h : Settled order next e) (id : CombatantId) :
    Settled order next (e.without id) where
  begun := h.begun
  order_eq := by
    rw [show (e.without id).order = e.order.filter (· != id) from rfl, h.order_eq, ids_without,
      List.filter_filter]
    refine List.filter_congr fun other _ => ?_
    rw [Bool.eq_iff_iff]
    simp [List.mem_filter, and_comm]
  early := h.early
  next_le := h.next_le
  unrolled c hc := h.unrolled c (List.mem_filter.mp hc).1

/-- Every step keeps to the order that was settled. -/
theorem Step.settled (hstep : Step e command reply e') (hc : e.Consistent)
    (h : Settled order next e) : Settled order next e' := by
  have hbegun := hstep.phase.1 h.begun
  cases hstep with
  | refused err => exact h
  | plain hs _ ht =>
      refine h.of_befalls ht.befalls ?_ hbegun ht.order ht.ids ht.nextNumber
      rintro rfl
      cases hs
  | joined s => exact h.add s
  | left _ => exact h.without _
  | begun hp => exact absurd hp h.begun
  | @turned _ passed stop info hcmd _ _ =>
      have hk : KeepsTable e (e.walk (passed ++ [stop])) := keepsTable_walk hc.nodup
      have hb : Befalls command.Causes e (e.walk (passed ++ [stop])) :=
        befalls_walk hc.nodup (.refresh hcmd) (.age hcmd)
      refine h.of_befalls hb ?_ hbegun order_walk hk.ids hk.nextNumber
      rintro rfl
      simp at hcmd
  | nobody _ _ _ => exact h
  | paused _ | resumed _ | finished => exact { h with begun := hbegun }

/-- Whoever the turn visits has a place in the order. -/
theorem Step.mem_order_of_visited (hstep : Step e command reply e') (hid : id ∈ visited reply) :
    id ∈ e.order := by
  cases hstep with
  | plain _ hr _ =>
      rw [visited_of_isPlain hr] at hid
      exact absurd hid List.not_mem_nil
  | turned _ _ ht =>
      obtain ⟨rest, hup⟩ := ht.way
      rw [ht.visited] at hid
      obtain ⟨place, hplace, rfl⟩ := List.mem_map.mp hid
      exact (mem_order_iff_upcoming ht.turn_lt).mpr
        ⟨place, hup ▸ List.mem_append_left _ hplace, rfl⟩
  | _ => exact absurd hid List.not_mem_nil

/-- A run keeps to the order that was settled, and visits nobody else. -/
theorem settled_performAll (hc : e.Consistent) (h : Settled order next e)
    (commands : List Command) :
    Settled order next (e.performAll commands).2 ∧
      ∀ reply ∈ (e.performAll commands).1, ∀ id ∈ visited reply, id ∈ order := by
  induction commands generalizing e with
  | nil => exact ⟨h, fun _ hm => absurd hm List.not_mem_nil⟩
  | cons command rest ih =>
      have hstep := step_perform hc command
      obtain ⟨hsettled, hvisited⟩ := ih (hstep.consistent hc) (hstep.settled hc h)
      refine ⟨hsettled, fun reply hm id hid => ?_⟩
      rcases List.mem_cons.mp hm with rfl | hm
      · have hin := hstep.mem_order_of_visited hid
        rw [h.order_eq] at hin
        exact (List.mem_filter.mp hin).1
      · exact hvisited reply hm id hid

/-- Only whoever stands at the current place can end the turn. -/
theorem mem_order_of_endTurn {advance : TurnAdvance} (h : (e.endTurn id).1 = .ok advance) :
    id ∈ e.order := by
  by_cases ha : e.phase = .active
  · rcases endTurn_cases ha id with ⟨ht, -⟩ | ⟨-, hno⟩
    · exact List.mem_of_getElem? ht
    · rw [hno] at h
      cases h
  · rw [endTurn_of_not_active ha] at h
    cases h

/-- When the fight begins its order holds everybody at the table. -/
theorem settled_begun (hc : e.Consistent) : Settled e.begun.order e.nextNumber e.begun where
  begun := Phase.noConfusion
  order_eq := by
    refine (List.filter_eq_self.mpr fun id hid => decide_eq_true ?_).symm
    rw [(keepsTable_begun e).ids]
    exact (perm_order_begun e).mem_iff.mp hid
  early id hid := hc.issued id ((perm_order_begun e).mem_iff.mp hid)
  next_le := Nat.le_refl _
  unrolled c hm hlate := by
    have hid : c.id ∈ e.begun.ids := List.mem_map.mpr ⟨c, hm, rfl⟩
    rw [(keepsTable_begun e).ids] at hid
    exact absurd (hc.issued _ hid) (Nat.not_lt.mpr hlate)

/-- **The turn order is settled when the fight begins.**  Whatever is done after that, the order is
the one that was reported, less those who are no longer at the table.  Nobody who joins after the
beginning has a place in it: it is never their turn, no turn visits them, they cannot end one, and
they have no initiative. -/
theorem order_settled {report : InitiativeReport} (h : Reachable e)
    (hs : e.start = (.ok report, e')) (commands : List Command) :
    let run := e'.performAll commands
    e'.order = report.order ∧ run.2.order = report.order.filter (· ∈ run.2.ids) ∧
      ∀ id ∈ run.1.filterMap issued?,
        id ∉ run.2.order ∧ (∀ c, run.2.current? = some c → c.id ≠ id) ∧
          (∀ reply ∈ run.1, id ∉ visited reply) ∧
          (∀ advance, (run.2.endTurn id).1 ≠ .ok advance) ∧
          ∀ c, run.2.find? id = some c → c.initiative = none := by
  intro run
  obtain ⟨hne, rfl, hreport⟩ := start_ok hs
  have hc := consistent_begun h.consistent hne
  obtain ⟨hsettled, hvisited⟩ := settled_performAll hc (settled_begun h.consistent) commands
  rw [hreport]
  refine ⟨rfl, hsettled.order_eq, fun id hid => ?_⟩
  have hlate : e.nextNumber ≤ id.number := (issued_performAll hc commands).2.1 id hid
  have hnot : id ∉ e.begun.order := fun hin =>
    Nat.not_lt.mpr hlate (hsettled.early id hin)
  have hout : id ∉ run.2.order := fun hin => by
    rw [hsettled.order_eq] at hin
    exact hnot (List.mem_filter.mp hin).1
  refine ⟨hout, ?_, ?_, ?_, ?_⟩
  · rintro c hcur rfl
    exact hout (List.mem_of_getElem? (getElem?_order_of_current? hcur))
  · exact fun reply hm hin => hnot (hvisited reply hm id hin)
  · exact fun advance hend => hout (mem_order_of_endTurn hend)
  · intro c hfound
    exact hsettled.unrolled c (mem_of_find? hfound) (id_of_find? hfound ▸ hlate)

/-- Cid joins a fight between Ann and Bob too late, and does not get the place of Ann, who leaves. -/
theorem order_settled_latecomer :
    let e := ((withDice .standard (.ofFaces [10, 5])).performAll
      [.add (.basic "Ann" 10 10), .add (.basic "Bob" 10 10)]).2
    ∃ report e', e.start = (.ok report, e') ∧ report.order = [⟨1⟩, ⟨2⟩] ∧
      let run := e'.performAll [.add (.basic "Cid" 10 10), .nextTurn, .remove ⟨1⟩]
      run.2.ids = [⟨2⟩, ⟨3⟩] ∧ run.2.order = report.order.filter (· ∈ run.2.ids) ∧
        ⟨3⟩ ∈ run.1.filterMap issued? ∧ ⟨3⟩ ∉ run.2.order ∧
        ∀ c, run.2.find? ⟨3⟩ = some c → c.initiative = none := by
  intro e
  have hs := start_of_inactive (e := e) rfl (List.cons_ne_nil _ _)
  obtain ⟨hreport, hsettled, hlate⟩ := order_settled ((Reachable.idle _ _).performAll _) hs
    [.add (.basic "Cid" 10 10), .nextTurn, .remove ⟨1⟩]
  -- Ann has rolled 10 and Bob 5, so they stand in turn order already
  have horder : e.begun.order = [⟨1⟩, ⟨2⟩] := order_begun_of_pairwise (by decide)
  have hbegun : e.begun = { e.begun with order := [⟨1⟩, ⟨2⟩] } := by rw [← horder]
  have hin : ⟨3⟩ ∈ (e.begun.performAll
      [.add (.basic "Cid" 10 10), .nextTurn, .remove ⟨1⟩]).1.filterMap issued? := by
    rw [hbegun]
    exact List.mem_singleton_self _
  obtain ⟨hout, -, -, -, hunrolled⟩ := hlate ⟨3⟩ hin
  refine ⟨_, _, hs, hreport ▸ horder, ?_, hsettled, hin, hout, hunrolled⟩
  rw [hbegun]
  rfl

end Encounter

end Tabletop
