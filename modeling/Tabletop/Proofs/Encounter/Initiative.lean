import Tabletop.Proofs.Encounter.Reachable
import Tabletop.Proofs.Roll.Division

/-!
# Encounter — initiative

How a fight begins.  Everybody rolls in the order of the table, one twenty-sided die each
(`rollInitiative_eq_serveAll`, `serveAll_initiativeAsked`), so the dice drawn, the entries of the
report and the table run side by side.  The report is then sorted.  The sort is stable: what stands
in a row before it stands in that row after it wherever the totals do not decide
(`pairwise_sortInitiative`), and since the numbers of the combatants grow along the table, equal
totals stay in the order in which the combatants came.

`start_opens` puts this together (`Opened`).
-/

namespace Tabletop

namespace Encounter

variable {e e' : Encounter}

/-! ### One roll of initiative -/

/-- The roll of initiative that is asked for. -/
def initiativeAsked (c : Combatant) : Asked :=
  .ofFormula (.d20 c.initiativeBonus .normal) (some (initiativeLabel c))

/-- The roll of initiative for a face. -/
def initiativeRoll (c : Combatant) (face : Nat) : Roll :=
  let f := Formula.d20 c.initiativeBonus .normal
  f.record f.render (some (initiativeLabel c)) ⟨[face], [face], [], .normal⟩

/-- The entry of a combatant in the report. -/
def initiativeEntry (c : Combatant) (roll : Roll) : InitiativeEntry :=
  ⟨c.id, c.name, roll, roll.total⟩

/-- A roll is the initiative of a combatant with a face: the face and the bonus where the sum is an
amount, and otherwise an error that counts as nothing. -/
structure RollsInitiative (c : Combatant) (face : Nat) (roll : Roll) : Prop where
  /-- The face is one of a twenty-sided die. -/
  on_die : 1 ≤ face ∧ face ≤ 20
  /-- The roll says whose initiative it is. -/
  label : roll.label = some (initiativeLabel c)
  /-- A sum that is an amount is the total. -/
  fits : Amount.Fits (face + c.initiativeBonus) →
    roll.error = none ∧ roll.faces = [face] ∧ roll.total = face + c.initiativeBonus
  /-- Any other sum is lost. -/
  overflow : ¬Amount.Fits (face + c.initiativeBonus) → roll.isError = true ∧ roll.total = 0

theorem rollsInitiative_initiativeRoll (c : Combatant) {face : Nat} (h : 1 ≤ face ∧ face ≤ 20) :
    RollsInitiative c face (initiativeRoll c face) := by
  have hface : Amount.Fits face := by
    unfold Amount.Fits Amount.least Amount.greatest
    omega
  have hroll : initiativeRoll c face = _ := Formula.record_eq_ite _ _ _ _
  rw [Roll.sumOf_singleton hface] at hroll
  by_cases hfits : Amount.Fits (face + c.initiativeBonus)
  · have hroll := hroll.trans (if_pos hfits)
    rw [hroll]
    exact ⟨h, rfl, fun _ => ⟨rfl, rfl, rfl⟩, fun hnot => absurd hfits hnot⟩
  · have hroll := hroll.trans (if_neg hfits)
    rw [hroll]
    exact ⟨h, rfl, fun hyes => absurd hyes hfits, fun _ => ⟨rfl, rfl⟩⟩

/-! ### Everybody rolls -/

theorem rollInitiative_eq_serveAll (cs : List Combatant) (r : Roller) :
    rollInitiative cs r = (List.zipWith initiativeEntry cs (r.serveAll (cs.map initiativeAsked)).1,
      (r.serveAll (cs.map initiativeAsked)).2) := by
  induction cs generalizing r with
  | nil => rfl
  | cons c rest ih =>
      rw [rollInitiative, ih]
      rfl

/-- The rolls stand beside the faces drawn for them, and no other dice are drawn. -/
theorem serveAll_initiativeAsked (cs : List Combatant) (r : Roller) :
    (r.serveAll (cs.map initiativeAsked)).1 =
        List.zipWith initiativeRoll cs (r.dice.pool 20 cs.length).1 ∧
      (r.serveAll (cs.map initiativeAsked)).2.dice = (r.dice.pool 20 cs.length).2 := by
  induction cs generalizing r with
  | nil => exact ⟨rfl, rfl⟩
  | cons c rest ih =>
      obtain ⟨hrolls, hdice⟩ := ih (r.serve (initiativeAsked c)).2
      rw [List.map_cons, Roller.serveAll, hrolls, hdice]
      exact ⟨rfl, rfl⟩

/-! ### The sort is stable -/

/-- What stands in a row before a sort stands so after it, unless the sort moves it. -/
theorem pairwise_mergeSort_stable {α : Type} {le : α → α → Bool} {R : α → α → Prop} {row : List α}
    (trans : ∀ a b c, le a b → le b c → le a c) (total : ∀ a b, le a b || le b a)
    (h : row.Pairwise R) : (row.mergeSort le).Pairwise fun a b => le b a = true → R a b := by
  induction row with
  | nil => simp
  | cons a rest ih =>
      obtain ⟨hhead, hrest⟩ := List.pairwise_cons.mp h
      -- the head of the row is sorted in before what it may stand before
      obtain ⟨front, back, hcons, hsort, hfront⟩ := List.mergeSort_cons trans total a rest
      have hparts := List.pairwise_append.mp (hsort ▸ ih hrest)
      rw [hcons]
      refine List.pairwise_append.mpr
        ⟨hparts.1, List.pairwise_cons.mpr ⟨fun b hb _ => ?_, hparts.2.1⟩, fun b hb c hc => ?_⟩
      · have hmem : b ∈ rest.mergeSort le := hsort ▸ List.mem_append_right _ hb
        exact hhead b (List.mem_mergeSort.mp hmem)
      · rcases List.mem_cons.mp hc with rfl | hc
        · intro hle
          have hnot := hfront b hb
          rw [hle] at hnot
          exact absurd hnot Bool.false_ne_true
        · exact hparts.2.2 b hb c hc

/-- An entry stands before another: its total is greater, or it is the same and the combatant came
first, which is told by the numbers that combatants get as they come. -/
def StandsBefore (a b : InitiativeEntry) : Prop :=
  b.total < a.total ∨ b.total = a.total ∧ a.id.number < b.id.number

instance (a b : InitiativeEntry) : Decidable (StandsBefore a b) :=
  inferInstanceAs (Decidable (_ ∨ _))

/-- The report goes from the highest total to the lowest, and in the order of the table where totals
are equal. -/
theorem pairwise_sortInitiative {entries : List InitiativeEntry}
    (h : entries.Pairwise fun a b => a.id.number < b.id.number) :
    (sortInitiative entries).Pairwise StandsBefore := by
  have htrans : ∀ a b c : InitiativeEntry, decide (b.total ≤ a.total) = true →
      decide (c.total ≤ b.total) = true → decide (c.total ≤ a.total) = true := by
    simp only [decide_eq_true_eq]
    omega
  have htotal : ∀ a b : InitiativeEntry,
      (decide (b.total ≤ a.total) || decide (a.total ≤ b.total)) = true := by
    simp only [Bool.or_eq_true, decide_eq_true_eq]
    omega
  have hsorted : (sortInitiative entries).Pairwise fun a b => decide (b.total ≤ a.total) = true :=
    List.pairwise_mergeSort htrans htotal entries
  refine (hsorted.and (pairwise_mergeSort_stable htrans htotal h)).imp fun {a b} hab => ?_
  obtain ⟨hle, hstable⟩ := hab
  rw [decide_eq_true_eq] at hle hstable
  rcases Int.lt_or_eq_of_le hle with hlt | heq
  · exact .inl hlt
  · exact .inr ⟨heq, hstable (Int.le_of_eq heq.symm)⟩

/-- There is one such order only. -/
theorem sortInitiative_eq_of_perm {entries row : List InitiativeEntry}
    (h : entries.Pairwise fun a b => a.id.number < b.id.number) (hperm : row.Perm entries)
    (hrow : row.Pairwise StandsBefore) : sortInitiative entries = row := by
  have hantisymm : ∀ a b, a ∈ sortInitiative entries → b ∈ row → StandsBefore a b →
      StandsBefore b a → a = b := by
    intro a b _ _ hab hba
    unfold StandsBefore at hab hba
    omega
  exact ((List.mergeSort_perm _ _).trans hperm.symm).eq_of_pairwise hantisymm
    (pairwise_sortInitiative h) hrow

/-! ### The fight begins -/

/-- The fight has begun: `faces` are the dice drawn for it and `rolls` the rolls, both in the order
of the table, and `report` is what it answers. -/
structure Opened (e : Encounter) (faces : List Nat) (rolls : List Roll) (report : InitiativeReport)
    (e' : Encounter) : Prop where
  /-- One twenty-sided die is drawn for everybody. -/
  drawn : e.roller.dice.pool 20 e.combatants.length = (faces, e'.roller.dice)
  /-- There is one roll for everybody. -/
  length_rolls : rolls.length = e.combatants.length
  /-- The rolls, and nothing else, join the history. -/
  history : e'.roller.history.toList = e.roller.history.toList ++ rolls
  /-- Nobody joins or leaves. -/
  length_combatants : e'.combatants.length = e.combatants.length
  /-- Everybody has the face and the roll at their place, has all that a turn allows, and is what
  they were in everything else. -/
  place : ∀ (k : Nat) (c : Combatant), e.combatants[k]? = some c → ∃ face roll,
    faces[k]? = some face ∧ rolls[k]? = some roll ∧ RollsInitiative c face roll ∧
      e'.combatants[k]? = some { c with
        initiative := some roll.total, hasAction := true, hasBonusAction := true
        hasReaction := true, movement := c.maxMovement }
  /-- The report has one entry for everybody, with their roll. -/
  entries : report.entries.Perm (List.zipWith initiativeEntry e.combatants rolls)
  /-- The report goes from the highest total to the lowest; equal totals stand in the order in
  which the combatants came. -/
  sorted : report.entries.Pairwise StandsBefore
  /-- The turn order is the order of the report. -/
  order : e'.order = report.entries.map (·.id)
  /-- The report tells the initiative that everybody has. -/
  agrees : ∀ entry ∈ report.entries, entry.total = entry.roll.total ∧
    ∃ c, e'.find? entry.id = some c ∧ c.initiative = some entry.total
  /-- The report opens the first round. -/
  first : report.round = 1
  /-- The fight is at the first place of the first round, and nothing else changes. -/
  rest : e' = { e with
    roller := e'.roller, combatants := e'.combatants, order := e'.order
    turn := 0, round := 1, phase := .active }

/-- Everybody at their place as the fight begins. -/
theorem getElem?_combatants_begun {k : Nat} {c : Combatant} (hk : e.combatants[k]? = some c) :
    ∃ face roll, (e.roller.dice.pool 20 e.combatants.length).1[k]? = some face ∧
      (e.roller.serveAll (e.combatants.map initiativeAsked)).1[k]? = some roll ∧
      RollsInitiative c face roll ∧
      e.begun.combatants[k]? = some (readyWith (initiativeEntry c roll) c) := by
  have hlt : k < (e.roller.dice.pool 20 e.combatants.length).1.length := by
    rw [Dice.length_pool]
    exact (List.getElem?_eq_some_iff.mp hk).1
  have hface := List.getElem?_eq_getElem hlt
  have hroll := List.getElem?_zipWith_eq_some.mpr
    ⟨c, _, hk, hface, (rfl : initiativeRoll c _ = initiativeRoll c _)⟩
  rw [← (serveAll_initiativeAsked _ _).1] at hroll
  refine ⟨_, _, hface, hroll, rollsInitiative_initiativeRoll c
    (Dice.bounds_pool 20 _ _ _ (List.getElem_mem hlt)), ?_⟩
  simp only [begun, rollInitiative_eq_serveAll]
  exact List.getElem?_zipWith_eq_some.mpr
    ⟨_, c, List.getElem?_zipWith_eq_some.mpr ⟨c, _, hk, hroll, rfl⟩, hk, rfl⟩

/-- **A fight begins in the order of its initiative.**  Before a fight, with anybody at the table,
beginning succeeds.  Everybody draws one die and has one roll, in the order of the table; the report
and the turn order are the table sorted by totals, those with equal totals as they came; everybody
has all that a turn allows; and nobody's health or conditions, nor the log, change. -/
theorem start_opens (h : Reachable e) (hp : e.phase = .inactive) (hne : e.combatants ≠ []) :
    ∃ faces rolls report e', e.start = (.ok report, e') ∧ Opened e faces rolls report e' := by
  have hc := h.consistent
  have hrolled := rollInitiative_eq_serveAll e.combatants e.roller
  have hroller : e.begun.roller = (e.roller.serveAll (e.combatants.map initiativeAsked)).2 :=
    congrArg Prod.snd hrolled
  have hincreasing : (rollInitiative e.combatants e.roller).1.Pairwise fun a b =>
      a.id.number < b.id.number := by
    have hids := hc.increasing
    rwa [ids, ← ids_rollInitiative e.combatants e.roller, List.pairwise_map] at hids
  refine ⟨(e.roller.dice.pool 20 e.combatants.length).1,
    (e.roller.serveAll (e.combatants.map initiativeAsked)).1, _, _, start_of_inactive hp hne, ?_⟩
  exact {
    drawn := by rw [hroller, (serveAll_initiativeAsked _ _).2]
    length_rolls := by
      rw [(serveAll_initiativeAsked _ _).1, List.length_zipWith, Dice.length_pool, Nat.min_self]
    history := by rw [hroller, Roller.history_serveAll]
    length_combatants := (befalls_begun e).length_eq.symm
    place := fun k c hk => getElem?_combatants_begun hk
    entries := congrArg Prod.fst hrolled ▸ List.mergeSort_perm _ _
    sorted := pairwise_sortInitiative hincreasing
    order := rfl
    agrees := by
      intro entry hentry
      have hmem : entry ∈ (rollInitiative e.combatants e.roller).1 := List.mem_mergeSort.mp hentry
      obtain ⟨k, hk⟩ := List.mem_iff_getElem?.mp hmem
      rw [hrolled] at hk
      obtain ⟨c, roll, hcombatant, hroll, rfl⟩ := List.getElem?_zipWith_eq_some.mp hk
      obtain ⟨_, _, -, hroll', -, hplace⟩ := getElem?_combatants_begun hcombatant
      obtain rfl := Option.some.inj (hroll.symm.trans hroll')
      have hnodup : e.begun.ids.Nodup := (keepsTable_begun e).ids ▸ hc.nodup
      exact ⟨rfl, readyWith (initiativeEntry c roll) c,
        find?_of_mem hnodup (List.mem_of_getElem? hplace), rfl⟩
    first := rfl
    rest := rfl }

/-- Bob, who came second, begins; Ann and Cid have the same total, and Ann came first. -/
theorem start_opens_tie :
    let e := ((withDice .standard (.ofFaces [7, 12, 7])).performAll
      [.add (.basic "Ann" 10 10), .add (.basic "Bob" 10 10), .add (.basic "Cid" 10 10)]).2
    ∃ faces rolls report e', e.start = (.ok report, e') ∧ Opened e faces rolls report e' ∧
      e'.order = [⟨2⟩, ⟨1⟩, ⟨3⟩] := by
  intro e
  obtain ⟨faces, rolls, report, e', hstart, hopened⟩ :=
    start_opens (e := e) ((Reachable.idle _ _).performAll _) rfl (List.cons_ne_nil _ _)
  have hsort : sortInitiative (rollInitiative e.combatants e.roller).1 = _ :=
    sortInitiative_eq_of_perm (by decide) (.swap _ _ _) (by decide)
  have hlast : e'.order = e.begun.order := (congrArg (·.2.order) hstart).symm
  refine ⟨faces, rolls, report, e', hstart, hopened, hlast.trans ?_⟩
  exact congrArg (List.map (·.id)) hsort

end Encounter

end Tabletop
