import Tabletop.Proofs.Encounter.Skirmish

/-!
# Encounter — the outcome of a skirmish

Who has won a skirmish, judged by who is up when it is over.  A side is up when one of its members
is (`SideUp`).  Whoever attacks is up and not hurt by it, so a skirmish that begins with somebody up
ends with somebody up.  It goes on while both sides are up, the rounds are not over and somebody in
the turn order may act (`Fought.reason`); `skirmish_verdict` puts this together.
-/

namespace Tabletop

namespace Encounter

open Combatant (Lives)

variable {e e' : Encounter} {c : Combatant} {id foe : CombatantId} {maxRounds : Nat}
  {lines : List String} {o : Outcome (List String)} {places : List (CombatantId × Nat)}

/-- Somebody at the table is up. -/
def SomeoneUp (e : Encounter) : Prop := ∃ c ∈ e.combatants, c.isAlive = true

/-- Somebody of a side is up. -/
def SideUp (e : Encounter) (players : Bool) : Prop :=
  ∃ c ∈ e.combatants, c.isPlayer = players ∧ c.isAlive = true

theorem sideAlive_iff {players : Bool} : e.sideAlive players = true ↔ e.SideUp players := by
  simp [sideAlive, SideUp]

theorem bothSidesAlive_iff : e.bothSidesAlive = true ↔ e.SideUp true ∧ e.SideUp false := by
  rw [bothSidesAlive, Bool.and_eq_true, sideAlive_iff, sideAlive_iff]

/-! ### Somebody stays up -/

theorem Befalls.someoneUp {P : CombatantId → Event → Prop} (h : Befalls P e e')
    (hp : ∀ id event, P id event → event.isVital = false) (hup : e.SomeoneUp) : e'.SomeoneUp := by
  obtain ⟨c, hc, halive⟩ := hup
  obtain ⟨n, hn, rfl⟩ := List.getElem_of_mem hc
  have hlen := h.length_eq
  have hlives : Lives P e.combatants[n] e'.combatants[n] := h.get hn (hlen ▸ hn)
  exact ⟨_, List.getElem_mem _, (hlives.isAlive (hp _)).trans halive⟩

/-- The first foe is on the other side, so nobody is their own. -/
theorem ne_of_firstFoe? (hc : e.find? c.id = some c) (h : e.firstFoe? c = some foe) :
    c.id ≠ foe := by
  rintro rfl
  obtain ⟨d, hd, hid⟩ := Option.map_eq_some_iff.mp h
  obtain ⟨id, -, hfound⟩ := List.mem_filterMap.mp (List.mem_of_find?_eq_some hd)
  have hfoe := List.find?_some hd
  rw [← id_of_find? hfound, hid, hc] at hfound
  cases hfound
  simp at hfoe

/-- Whoever takes the turn by an attack is up after it. -/
theorem TakesTurn.someoneUp (h : TakesTurn e e') (hn : e.ids.Nodup) (hup : e.SomeoneUp) :
    e'.SomeoneUp := by
  cases h with
  | idle hplan => exact hup
  | @attack c foe _ _ _ hcur halive hfoe h =>
      have hfound := find?_of_current? hcur
      obtain ⟨c', hc', hlives⟩ := (touches_of_attack hn h).befalls.exists_find? hfound
      refine ⟨c', mem_of_find? hc', ?_⟩
      refine (hlives.isAlive fun event hcause => ?_).trans halive
      -- the damage is done to somebody else
      generalize hid : c.id = id at hcause
      cases hcause with
      | target => exact absurd hid (ne_of_firstFoe? hfound hfoe)
      | _ => rfl

theorem someoneUp_walk (hn : e.ids.Nodup) (hup : e.SomeoneUp) : (e.walk places).SomeoneUp := by
  have hbefalls : Befalls (fun _ event => event.isVital = false) e (e.walk places) :=
    befalls_walk hn (fun _ => rfl) fun _ => rfl
  exact hbefalls.someoneUp (fun _ _ h => h) hup

theorem someoneUp_begun (hup : e.SomeoneUp) : e.begun.SomeoneUp := by
  refine (befalls_begun e).someoneUp (fun id event hcause => ?_) hup
  cases hcause <;> rfl

/-! ### What a fight keeps, and why it ends -/

/-- What is kept when somebody takes the turn and when the turn goes on is kept by the fight. -/
theorem Fought.keeps {R : Encounter → Encounter → Prop} (refl : ∀ e, R e e)
    (trans : ∀ {a b c}, R a b → R b c → R a c)
    (takes : ∀ {e e'}, e.Consistent → TakesTurn e e' → R e e')
    (turns : ∀ {e passed stop info}, e.Consistent → Turned e passed stop info →
      R e (e.walk (passed ++ [stop])))
    (h : Fought maxRounds lines e o) (hc : e.Consistent) (ha : e.phase = .active) : R e o.2 := by
  induction h with
  | refused hp =>
      have hpass := hp ▸ passes_pass hc ha maxRounds _
      cases hpass with
      | refused => exact refl _
      | outrun _ _ htakes => exact takes hc htakes
  | last hp =>
      have hpass := hp ▸ passes_pass hc ha maxRounds _
      cases hpass with
      | decided => exact refl _
      | won _ _ htakes | stalled _ _ htakes => exact takes hc htakes
  | next hp rest ih =>
      have hpass := hp ▸ passes_pass hc ha maxRounds _
      obtain ⟨hc', ha', -⟩ := hpass.of_next hc ha
      cases hpass with
      | next _ _ htakes _ ht =>
          have hc₁ := (htakes.steady hc.nodup).consistent hc
          exact trans (trans (takes hc htakes) (turns hc₁ ht)) (ih hc' ha')

theorem Fought.someoneUp (h : Fought maxRounds lines e o) (hc : e.Consistent)
    (ha : e.phase = .active) (hup : e.SomeoneUp) : o.2.SomeoneUp :=
  h.keeps (R := fun e e' => e.SomeoneUp → e'.SomeoneUp) (fun _ hup => hup)
    (fun h₁ h₂ hup => h₂ (h₁ hup)) (fun hc htakes => htakes.someoneUp hc.nodup)
    (fun hc _ => someoneUp_walk hc.nodup) hc ha hup

/-- The fight goes on with the people and in the order in which it began. -/
theorem Fought.roster (h : Fought maxRounds lines e o) (hc : e.Consistent)
    (ha : e.phase = .active) : o.2.ids = e.ids ∧ o.2.order = e.order := by
  refine h.keeps (R := fun e e' => e'.ids = e.ids ∧ e'.order = e.order) (fun _ => ⟨rfl, rfl⟩)
    (fun h₁ h₂ => ⟨h₂.1.trans h₁.1, h₂.2.trans h₁.2⟩) (fun hc htakes => ?_) (fun hc ht => ?_) hc ha
  · have hsteady := htakes.steady hc.nodup
    exact ⟨hsteady.ids, hsteady.order⟩
  · exact ⟨(keepsTable_walk hc.nodup).ids, order_walk⟩

/-- A fight that is not refused ends since the rounds are over, since a side is down or since nobody
in the turn order may act. -/
theorem Fought.reason (h : Fought maxRounds lines e o) (hc : e.Consistent) (ha : e.phase = .active)
    {told : List String} (ho : o.1 = .ok told) :
    ¬ (o.2.round ≤ maxRounds ∧ o.2.bothSidesAlive = true) ∨ o.2.someoneCanAct = false := by
  induction h with
  | refused hp => cases ho
  | last hp =>
      have hpass := hp ▸ passes_pass hc ha maxRounds _
      cases hpass with
      | decided h => exact .inl h
      | won _ _ _ hb => exact .inl fun h => Bool.false_ne_true (hb.symm.trans h.2)
      | stalled _ _ _ _ hs => exact .inr hs
  | next hp rest ih =>
      obtain ⟨hc', ha', -⟩ := (hp ▸ passes_pass hc ha maxRounds _).of_next hc ha
      exact ih hc' ha' ho

/-- Where nobody may act, nobody in the turn order is up. -/
theorem down_of_someoneCanAct (h : e.someoneCanAct = false) (hid : id ∈ e.order)
    (hc : e.find? id = some c) : c.isAlive = false := by
  have hpass : e.passesOver id = true := by
    by_contra hno
    exact Bool.false_ne_true
      (h.symm.trans (someoneCanAct_iff.mpr ⟨id, hid, eq_false_of_ne_true hno⟩))
  unfold passesOver at hpass
  rw [hc, Option.any_some, Bool.and_eq_true, Bool.not_eq_true'] at hpass
  exact hpass.2

/-! ### The verdict -/

theorem winner_eq_players : e.winner = .players ↔ e.SideUp true ∧ ¬ e.SideUp false := by
  rw [← sideAlive_iff, ← sideAlive_iff, winner]
  cases e.sideAlive true <;> cases e.sideAlive false <;> simp

theorem winner_eq_enemies : e.winner = .enemies ↔ e.SideUp false ∧ ¬ e.SideUp true := by
  rw [← sideAlive_iff, ← sideAlive_iff, winner]
  cases e.sideAlive true <;> cases e.sideAlive false <;> simp

theorem winner_eq_draw : e.winner = .draw ↔ (e.SideUp true ↔ e.SideUp false) := by
  rw [← sideAlive_iff, ← sideAlive_iff, winner]
  cases e.sideAlive true <;> cases e.sideAlive false <;> simp

/-- When a fight has just begun everybody is in the turn order, so both sides are up at its end only
if the rounds are over. -/
theorem Fought.round_of_begun (h : Fought maxRounds lines e.begun o) (hc : e.Consistent)
    (hne : e.combatants ≠ []) {told : List String} (htold : o.1 = .ok told)
    (hboth : o.2.bothSidesAlive = true) : o.2.round = maxRounds + 1 := by
  have hc' := consistent_begun hc hne
  obtain ⟨hids, horder⟩ := h.roster hc' rfl
  have hlt : maxRounds < o.2.round := by
    rcases h.reason hc' rfl htold with hend | hstall
    · exact Nat.lt_of_not_le fun hle => hend ⟨hle, hboth⟩
    · -- somebody is up, and has a place in the order
      obtain ⟨c, hm, -, hup⟩ := (bothSidesAlive_iff.mp hboth).1
      have hid : c.id ∈ o.2.ids := List.mem_map.mpr ⟨c, hm, rfl⟩
      have hnodup : o.2.ids.Nodup := by rw [hids]; exact hc'.nodup
      have hin : c.id ∈ o.2.order := by
        rw [horder, (perm_order_begun e).mem_iff, ← (keepsTable_begun e).ids, ← hids]
        exact hid
      rw [down_of_someoneCanAct hstall hin (find?_of_mem hnodup hm)] at hup
      cases hup
  have hle := h.round_le hc' rfl
  have hone : e.begun.round = 1 := rfl
  omega

/-- **The side left standing wins.**  When a skirmish has taken place, the players have won if they
are up and their enemies are not, the enemies in the mirrored case, and otherwise it is a draw.  If
anybody was up before it somebody is up after it.  If both sides are up after it then the rounds are
over, or nobody in the turn order is up.  If the skirmish began the fight itself, the first of these
holds: the fight stands in the round after the last one, and the last one is reported. -/
theorem skirmish_verdict (h : Reachable e) {report : SkirmishReport}
    (hr : (e.skirmish maxRounds).1 = .ok report) :
    let final := (e.skirmish maxRounds).2
    ((report.winner = .players ↔ final.SideUp true ∧ ¬ final.SideUp false) ∧
        (report.winner = .enemies ↔ final.SideUp false ∧ ¬ final.SideUp true) ∧
        (report.winner = .draw ↔ (final.SideUp true ↔ final.SideUp false))) ∧
      (e.SomeoneUp → final.SomeoneUp) ∧
      (final.SideUp true ∧ final.SideUp false → maxRounds < final.round ∨
        ∀ id ∈ final.order, ∀ c, final.find? id = some c → c.isAlive = false) ∧
      (e.phase = .inactive → final.SideUp true ∧ final.SideUp false →
        final.round = maxRounds + 1 ∧ report.rounds = maxRounds) := by
  intro final
  have hc := h.consistent
  obtain ⟨opening, e₁, told, e₂, hopen, hc₁, ha, hf, hreport, hfinal⟩ := skirmish_fought hc hr
  simp only [final]
  rw [hfinal, hreport]
  refine ⟨⟨winner_eq_players, winner_eq_enemies, winner_eq_draw⟩, ?_, ?_, ?_⟩
  · intro hup
    refine hf.someoneUp hc₁ ha ?_
    rcases openSkirmish_ok hopen with ⟨-, -, rfl⟩ | ⟨-, rfl⟩
    · exact someoneUp_begun hup
    · exact hup
  · intro hboth
    rcases hf.reason hc₁ ha rfl with hover | hstall
    · exact .inl (Nat.lt_of_not_le fun hle => hover ⟨hle, bothSidesAlive_iff.mpr hboth⟩)
    · exact .inr fun id hid c hfound => down_of_someoneCanAct hstall hid hfound
  · intro hp hboth
    rcases openSkirmish_ok hopen with ⟨-, hne, rfl⟩ | ⟨hbegun, -⟩
    · have hround : e₂.round = maxRounds + 1 :=
        hf.round_of_begun hc hne rfl (bothSidesAlive_iff.mpr hboth)
      refine ⟨hround, ?_⟩
      have hmin : (e₂.closeSkirmish maxRounds told).1.rounds = min e₂.round maxRounds := rfl
      rw [hmin, hround]
      exact Nat.min_eq_right (Nat.le_succ _)
    · exact absurd hp hbegun

/-- Ann, who has a player, is about to hit Bob for his last hit point. -/
def duel : Encounter :=
  ((withDice .standard (.ofFaces [10, 5, 15, 4])).performAll
    [.add { StatBlock.basic "Ann" 10 10 with isPlayer := true }, .add (.basic "Bob" 1 10),
      .start]).2

theorem reachable_duel : duel.Reachable := (Reachable.idle _ _).performAll _

theorem duel_eq : duel = { duel with order := [⟨1⟩, ⟨2⟩] } := by
  -- Ann has rolled 10 and Bob 5, so they stand in turn order already
  have horder : duel.order = [⟨1⟩, ⟨2⟩] := order_begun_of_pairwise
    (e := ((withDice .standard (.ofFaces [10, 5, 15, 4])).performAll
      [.add { StatBlock.basic "Ann" 10 10 with isPlayer := true }, .add (.basic "Bob" 1 10)]).2)
    (by decide)
  rw [← horder]

theorem duel_takes_place : ∃ report, (duel.skirmish 3).1 = .ok report := by
  rw [duel_eq]
  exact ⟨_, rfl⟩

/-- With Bob down, the players win. -/
theorem skirmish_verdict_duel :
    ∃ report, (duel.skirmish 3).1 = .ok report ∧ report.winner = .players ∧
      (duel.skirmish 3).2.SomeoneUp := by
  obtain ⟨report, hr⟩ := duel_takes_place
  obtain ⟨⟨hwon, -, -⟩, hup, -, -⟩ := skirmish_verdict reachable_duel hr
  have hann : (duel.skirmish 3).2.SideUp true := by
    rw [← sideAlive_iff, duel_eq]
    rfl
  have hbob : ¬ (duel.skirmish 3).2.SideUp false := by
    rw [← sideAlive_iff, duel_eq]
    decide
  exact ⟨report, hr, hwon.mpr ⟨hann, hbob⟩, hup ⟨_, List.mem_cons_self, rfl⟩⟩

end Encounter

end Tabletop
