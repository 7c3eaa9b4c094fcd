import Tabletop.Proofs.Encounter.Pass

/-!
# Encounter — skirmishes

A skirmish comes to an end, and it fails cleanly.  `Fought` is the loop of a skirmish with as many
passes as it takes, and `Skirmished` the whole skirmish around it; neither knows a limit on the
passes.  The limit that `fight` has is never met, since every pass that goes on moves the clock
(`fought_fight`).  `skirmish_total` says when a skirmish is refused, that it leaves no trace then,
and that the fight is over otherwise.  A skirmish of more rounds than can be counted may run out of
them, which is the one failure that comes late (`Fought.error_cases`).
-/

namespace Tabletop

namespace Encounter

variable {e e' : Encounter} {maxRounds : Nat} {lines : List String}
  {o o' : Outcome (List String)}

/-! ### As many passes as it takes -/

/-- What a skirmish comes to after as many passes as it takes: each is refused, or it is the last,
or it goes on to the next. -/
inductive Fought (maxRounds : Nat) : List String → Encounter → Outcome (List String) → Prop
  | refused {lines : List String} {e e' : Encounter} {err : EncounterError}
      (h : pass maxRounds lines e = (.error err, e')) : Fought maxRounds lines e (.error err, e')
  | last {lines lines' : List String} {e e' : Encounter}
      (h : pass maxRounds lines e = (.ok (.over, lines'), e')) :
      Fought maxRounds lines e (.ok lines', e')
  | next {lines lines' : List String} {e e' : Encounter} {o : Outcome (List String)}
      (h : pass maxRounds lines e = (.ok (.on, lines'), e')) (rest : Fought maxRounds lines' e' o) :
      Fought maxRounds lines e o

theorem Fought.unique (h : Fought maxRounds lines e o) (h' : Fought maxRounds lines e o') :
    o = o' := by
  induction h with
  | refused hp => cases h' with | _ hp' => cases hp.symm.trans hp' <;> rfl
  | last hp => cases h' with | _ hp' => cases hp.symm.trans hp' <;> rfl
  | next hp _ ih =>
      cases h' with
      | next hp' rest =>
          cases hp.symm.trans hp'
          exact ih rest
      | _ hp' => cases hp.symm.trans hp'

/-- **Enough passes are allowed.**  With more passes than turns are left, `fight` comes to what as
many passes as it takes come to. -/
theorem fought_fight (hc : e.Consistent) (ha : e.phase = .active) {passes : Nat}
    (hlt : e.turnsLeft maxRounds < passes) (lines : List String) :
    Fought maxRounds lines e (fight maxRounds passes lines e) := by
  induction passes generalizing e lines with
  | zero => exact absurd hlt (Nat.not_lt_zero _)
  | succ passes ih =>
      have hpass := passes_pass hc ha maxRounds lines
      rw [fight]
      rcases h : pass maxRounds lines e with ⟨err | ⟨_ | _, lines'⟩, e'⟩
      · exact .refused h
      · -- one pass is used up, and at least one turn is
        rw [h] at hpass
        obtain ⟨hc', ha', -, -, hleft⟩ := hpass.of_next hc ha
        exact .next h (ih hc' ha' (by omega) lines')
      · exact .last h

/-- Passes are refused where whoever has the turn at the beginning is stuck, and then leave no
trace, or where the rounds that can be counted run out before those to be fought: in every later
pass whoever has the turn has just got their action back. -/
theorem Fought.error_cases (h : Fought maxRounds lines e o) (hc : e.Consistent)
    (ha : e.phase = .active) {err : EncounterError} (ho : o.1 = .error err) :
    ((e.round ≤ maxRounds ∧ e.bothSidesAlive = true ∧ e.Stuck) ∧ o.2 = e) ∨
      (err = .exhausted .rounds ∧ Count.greatest ≤ maxRounds ∧ o.2.round = Count.greatest) := by
  induction h with
  | refused hp =>
      cases ho
      have hpass := hp ▸ passes_pass hc ha maxRounds _
      cases hpass with
      | refused err hr hb hs => exact .inl ⟨⟨hr, hb, hs⟩, rfl⟩
      | outrun hr _ htakes hlast =>
          refine .inr ⟨rfl, ?_, hlast⟩
          rw [← hlast, (htakes.steady hc.nodup).round]
          exact hr
  | last hp => cases ho
  | next hp rest ih =>
      obtain ⟨hc', ha', hready', -, -⟩ := (hp ▸ passes_pass hc ha maxRounds _).of_next hc ha
      exact .inr ((ih hc' ha' ho).resolve_left fun h => hready'.not_stuck h.1.2.2)

/-- A fight in which whoever has the turn has their action is fought without refusal, if the rounds
to be fought can be counted and one more. -/
theorem Fought.of_ready (h : Fought maxRounds lines e o) (hc : e.Consistent)
    (ha : e.phase = .active) (hready : e.Ready) (hm : maxRounds < Count.greatest) :
    ∃ told, o.1 = .ok told := by
  cases ho : o.1 with
  | ok told => exact ⟨told, rfl⟩
  | error err =>
      rcases h.error_cases hc ha ho with ⟨⟨-, -, hs⟩, -⟩ | ⟨-, hle, -⟩
      · exact absurd hs hready.not_stuck
      · exact absurd hm (Nat.not_lt.mpr hle)

/-- Passes are refused only where the first one is, if the rounds to be fought can be counted and
one more. -/
theorem Fought.error_iff (h : Fought maxRounds lines e o) (hc : e.Consistent)
    (ha : e.phase = .active) (hm : maxRounds < Count.greatest) :
    (∃ err, o.1 = .error err) ↔
      e.round ≤ maxRounds ∧ e.bothSidesAlive = true ∧ e.Stuck := by
  constructor
  · rintro ⟨err, ho⟩
    rcases h.error_cases hc ha ho with ⟨hstuck, -⟩ | ⟨-, hle, -⟩
    · exact hstuck
    · exact absurd hm (Nat.not_lt.mpr hle)
  · rintro ⟨hr, hb, hs⟩
    obtain ⟨err, herr⟩ : ∃ err, pass maxRounds lines e = (.error err, e) :=
      pass_of_stuck ⟨hr, hb⟩ hs
    rw [h.unique (.refused herr)]
    exact ⟨err, rfl⟩

/-- The passes end in the round after the last one at most. -/
theorem Fought.round_le (h : Fought maxRounds lines e o) (hc : e.Consistent)
    (ha : e.phase = .active) : o.2.round ≤ max e.round (maxRounds + 1) := by
  induction h with
  | refused hp =>
      have hpass := hp ▸ passes_pass hc ha maxRounds _
      cases hpass with
      | refused err hr hb hs => exact Nat.le_max_left _ _
      | outrun _ _ htakes =>
          rw [(htakes.steady hc.nodup).round]
          exact Nat.le_max_left _ _
  | last hp =>
      have hpass := hp ▸ passes_pass hc ha maxRounds _
      cases hpass with
      | decided => exact Nat.le_max_left _ _
      | won _ _ htakes | stalled _ _ htakes =>
          rw [(htakes.steady hc.nodup).round]
          exact Nat.le_max_left _ _
  | next hp rest ih =>
      obtain ⟨hc', ha', -, hround, -⟩ := (hp ▸ passes_pass hc ha maxRounds _).of_next hc ha
      have hle := ih hc' ha'
      omega

/-! ### The whole skirmish -/

/-- What the passes of a skirmish come to is what it comes to itself: it is refused with them, or
the fight is closed. -/
def conclude (maxRounds : Nat) :
    Outcome (List String) → Except SkirmishError SkirmishReport × Encounter
  | (.error err, e) => (.error (.refused err), e)
  | (.ok lines, e) => (.ok (e.closeSkirmish maxRounds lines).1, (e.closeSkirmish maxRounds lines).2)

/-- What a skirmish comes to, with as many passes as it takes: the fight cannot begin, or it is
suspended or over, or it is fought. -/
inductive Skirmished (maxRounds : Nat) (e : Encounter) :
    Except SkirmishError SkirmishReport × Encounter → Prop
  | unopened {err : EncounterError} {e' : Encounter} (h : e.openSkirmish = (.error err, e')) :
      Skirmished maxRounds e (.error (.refused err), e')
  | wrongPhase {opening : List String} {e' : Encounter} (h : e.openSkirmish = (.ok opening, e'))
      (hp : e'.phase ≠ .active) : Skirmished maxRounds e (.error (.wrongPhase e'.phase), e')
  | fought {opening : List String} {e' : Encounter} {o : Outcome (List String)}
      (h : e.openSkirmish = (.ok opening, e')) (hp : e'.phase = .active)
      (hf : Fought maxRounds (opening ++ [roundLine e'.round]) e' o) :
      Skirmished maxRounds e (conclude maxRounds o)

/-- A skirmish finds an empty table, or it begins the fight, or the fight has begun. -/
theorem openSkirmish_cases (e : Encounter) :
    (e.phase = .inactive ∧ e.combatants = [] ∧ e.openSkirmish = (.error .noCombatants, e)) ∨
      (e.phase = .inactive ∧ e.combatants ≠ [] ∧
        ∃ opening, e.openSkirmish = (.ok opening, e.begun)) ∨
      (e.phase ≠ .inactive ∧ e.openSkirmish = (.ok [], e)) := by
  rw [openSkirmish]
  by_cases hp : e.phase = .inactive
  · rw [if_pos hp]
    by_cases hne : e.combatants = []
    · rw [start_of_empty hp hne]
      exact .inl ⟨hp, hne, rfl⟩
    · rw [start_of_inactive hp hne]
      exact .inr (.inl ⟨hp, hne, _, rfl⟩)
  · rw [if_neg hp]
    exact .inr (.inr ⟨hp, rfl⟩)

/-- When a fight begins, everybody has their action. -/
theorem ready_begun (e : Encounter) : e.begun.Ready := by
  intro c hc
  have hm : c ∈ List.zipWith readyWith (rollInitiative e.combatants e.roller).1 e.combatants :=
    mem_of_find? (find?_of_current? hc)
  obtain ⟨n, hn, rfl⟩ := List.getElem_of_mem hm
  rw [List.getElem_zipWith]
  rfl

/-- When a fight has just begun, it is fought without refusal, if the rounds can be counted. -/
theorem Fought.of_begun (h : Fought maxRounds lines e.begun o) (hc : e.Consistent)
    (hne : e.combatants ≠ []) (hm : maxRounds < Count.greatest) : ∃ told, o.1 = .ok told :=
  h.of_ready (consistent_begun hc hne) rfl (ready_begun e) hm

theorem openSkirmish_error {err : EncounterError} (h : e.openSkirmish = (.error err, e')) :
    e.phase = .inactive ∧ e.combatants = [] ∧ e' = e := by
  rcases e.openSkirmish_cases with ⟨hp, he, ho⟩ | ⟨-, -, opening, ho⟩ | ⟨-, ho⟩
  · cases h.symm.trans ho
    exact ⟨hp, he, rfl⟩
  · cases h.symm.trans ho
  · cases h.symm.trans ho

theorem openSkirmish_ok {opening : List String} (h : e.openSkirmish = (.ok opening, e')) :
    (e.phase = .inactive ∧ e.combatants ≠ [] ∧ e' = e.begun) ∨ (e.phase ≠ .inactive ∧ e' = e) := by
  rcases e.openSkirmish_cases with ⟨-, -, ho⟩ | ⟨hp, hne, opening', ho⟩ | ⟨hp, ho⟩
  · cases h.symm.trans ho
  · cases h.symm.trans ho
    exact .inl ⟨hp, hne, rfl⟩
  · cases h.symm.trans ho
    exact .inr ⟨hp, rfl⟩

theorem openSkirmish_of_not_active {opening : List String}
    (h : e.openSkirmish = (.ok opening, e')) (hp : e'.phase ≠ .active) :
    e.phase ≠ .inactive ∧ e' = e := by
  rcases openSkirmish_ok h with ⟨-, -, rfl⟩ | hbegun
  · exact absurd rfl hp
  · exact hbegun

theorem consistent_openSkirmish (hc : e.Consistent) {opening : List String}
    (h : e.openSkirmish = (.ok opening, e')) : e'.Consistent := by
  rcases openSkirmish_ok h with ⟨-, hne, rfl⟩ | ⟨-, rfl⟩
  · exact consistent_begun hc hne
  · exact hc

theorem skirmished_skirmish (hc : e.Consistent) (maxRounds : Nat) :
    Skirmished maxRounds e (e.skirmish maxRounds) := by
  unfold skirmish
  rcases h : e.openSkirmish with ⟨err | opening, e'⟩
  · exact .unopened h
  · dsimp only
    by_cases hp : e'.phase = .active
    · rw [if_neg (not_not.mpr hp)]
      exact .fought h hp (fought_fight (consistent_openSkirmish hc h) hp
        (turnsLeft_lt_passesLeft e' maxRounds) _)
    · rw [if_pos hp]
      exact .wrongPhase h hp

/-- A skirmish that takes place is fought from an active fight, and then the fight is closed. -/
theorem skirmish_ok {report : SkirmishReport} (h : (e.skirmish maxRounds).1 = .ok report) :
    ∃ opening e₁ told e₂, e.openSkirmish = (.ok opening, e₁) ∧ e₁.phase = .active ∧
      fight maxRounds (e₁.passesLeft maxRounds) (opening ++ [roundLine e₁.round]) e₁ =
        (.ok told, e₂) ∧
      report = (e₂.closeSkirmish maxRounds told).1 ∧
      (e.skirmish maxRounds).2 = { e₂ with phase := .ended } := by
  unfold skirmish at h ⊢
  rcases hopen : e.openSkirmish with ⟨err | opening, e₁⟩
  · rw [hopen] at h
    cases h
  · rw [hopen] at h
    dsimp only at h ⊢
    by_cases hp : e₁.phase = .active
    · rw [if_neg (not_not.mpr hp)] at h ⊢
      rcases hfight : fight maxRounds (e₁.passesLeft maxRounds) (opening ++ [roundLine e₁.round]) e₁
        with ⟨err | told, e₂⟩
      · rw [hfight] at h
        cases h
      · rw [hfight] at h
        exact ⟨opening, e₁, told, e₂, rfl, hp, hfight, (Except.ok.inj h).symm, rfl⟩
    · rw [if_pos hp] at h
      cases h

/-- Between its beginning and its end it comes to what as many passes as it takes come to. -/
theorem skirmish_fought (hc : e.Consistent) {report : SkirmishReport}
    (h : (e.skirmish maxRounds).1 = .ok report) :
    ∃ opening e₁ told e₂, e.openSkirmish = (.ok opening, e₁) ∧ e₁.Consistent ∧
      e₁.phase = .active ∧
      Fought maxRounds (opening ++ [roundLine e₁.round]) e₁ (.ok told, e₂) ∧
      report = (e₂.closeSkirmish maxRounds told).1 ∧
      (e.skirmish maxRounds).2 = { e₂ with phase := .ended } := by
  obtain ⟨opening, e₁, told, e₂, hopen, ha, hfight, hreport, hfinal⟩ := skirmish_ok h
  have hc₁ := consistent_openSkirmish hc hopen
  have hf := fought_fight hc₁ ha (turnsLeft_lt_passesLeft e₁ maxRounds)
    (opening ++ [roundLine e₁.round])
  exact ⟨opening, e₁, told, e₂, hopen, hc₁, ha, hfight ▸ hf, hreport, hfinal⟩

theorem Skirmished.unique {r r' : Except SkirmishError SkirmishReport × Encounter}
    (h : Skirmished maxRounds e r) (h' : Skirmished maxRounds e r') : r = r' := by
  cases h with
  | unopened h => cases h' with | _ h' => cases h.symm.trans h' <;> rfl
  | wrongPhase h hp =>
      cases h' with
      | unopened h' => cases h.symm.trans h'
      | wrongPhase h' _ => cases h.symm.trans h'; rfl
      | fought h' hp' _ => cases h.symm.trans h'; exact absurd hp' hp
  | fought h hp hf =>
      cases h' with
      | unopened h' => cases h.symm.trans h'
      | wrongPhase h' hp' => cases h.symm.trans h'; exact absurd hp hp'
      | fought h' _ hf' => cases h.symm.trans h'; rw [hf.unique hf']

variable {r : Except SkirmishError SkirmishReport × Encounter}

theorem isError_conclude :
    (∃ err, (conclude maxRounds o).1 = .error err) ↔ ∃ err, o.1 = .error err := by
  rcases o with ⟨err | told, e'⟩
  · exact ⟨fun _ => ⟨_, rfl⟩, fun _ => ⟨_, rfl⟩⟩
  · constructor
    · rintro ⟨err, h⟩
      cases h
    · rintro ⟨err, h⟩
      cases h

theorem conclude_error {err : SkirmishError} (h : (conclude maxRounds o).1 = .error err) :
    ∃ err', err = .refused err' ∧ o.1 = .error err' ∧ (conclude maxRounds o).2 = o.2 := by
  rcases o with ⟨err' | told, e'⟩
  · cases h
    exact ⟨err', rfl, rfl, rfl⟩
  · cases h

theorem round_conclude : (conclude maxRounds o).2.round = o.2.round := by
  rcases o with ⟨err | told, e'⟩ <;> rfl

/-- The three reasons for which a skirmish is refused while there are rounds to count. -/
theorem Skirmished.error_iff (h : Skirmished maxRounds e r) (hc : e.Consistent)
    (hm : maxRounds < Count.greatest) :
    (∃ err, r.1 = .error err) ↔
      (e.phase = .inactive ∧ e.combatants = []) ∨ (e.phase = .paused ∨ e.phase = .ended) ∨
        (e.phase = .active ∧ e.round ≤ maxRounds ∧ e.bothSidesAlive = true ∧ e.Stuck) := by
  cases h with
  | unopened h =>
      obtain ⟨hp, he, -⟩ := openSkirmish_error h
      exact ⟨fun _ => .inl ⟨hp, he⟩, fun _ => ⟨_, rfl⟩⟩
  | wrongPhase h hna =>
      obtain ⟨hp, he⟩ := openSkirmish_of_not_active h hna
      rw [he] at hna
      refine ⟨fun _ => .inr (.inl ?_), fun _ => ⟨_, rfl⟩⟩
      cases hphase : e.phase with
      | inactive => exact absurd hphase hp
      | initiative => exact absurd hphase hc.not_initiative
      | active => exact absurd hphase hna
      | paused => exact .inl rfl
      | ended => exact .inr rfl
  | fought h ha hf =>
      rw [isError_conclude]
      rcases openSkirmish_ok h with ⟨hp, hne, rfl⟩ | ⟨hp, rfl⟩
      · obtain ⟨told, htold⟩ := hf.of_begun hc hne hm
        constructor
        · rintro ⟨err, herr⟩
          exact nomatch herr.symm.trans htold
        · rw [hp]
          rintro (⟨-, he⟩ | hp | ⟨hp, -⟩)
          · exact absurd he hne
          · exact hp.elim (fun h => nomatch h) (fun h => nomatch h)
          · exact nomatch hp
      · rw [hf.error_iff hc ha hm, ha]
        simp

/-- A skirmish that fails leaves no trace, or it has run out of rounds. -/
theorem Skirmished.error_cases (h : Skirmished maxRounds e r) (hc : e.Consistent)
    {err : SkirmishError} (hr : r.1 = .error err) :
    r.2 = e ∨ (err = .refused (.exhausted .rounds) ∧ Count.greatest ≤ maxRounds ∧
      r.2.round = Count.greatest) := by
  cases h with
  | unopened h => exact .inl (openSkirmish_error h).2.2
  | wrongPhase h hna => exact .inl (openSkirmish_of_not_active h hna).2
  | fought h ha hf =>
      obtain ⟨err', rfl, herr, hstate⟩ := conclude_error hr
      rw [hstate]
      rcases openSkirmish_ok h with ⟨-, hne, rfl⟩ | ⟨-, rfl⟩
      · rcases hf.error_cases (consistent_begun hc hne) ha herr with ⟨⟨-, -, hs⟩, -⟩ | ⟨rfl, hout⟩
        · exact absurd hs (ready_begun e).not_stuck
        · exact .inr ⟨rfl, hout⟩
      · rcases hf.error_cases hc ha herr with ⟨-, hsame⟩ | ⟨rfl, hout⟩
        · exact .inl hsame
        · exact .inr ⟨rfl, hout⟩

theorem Skirmished.ended (h : Skirmished maxRounds e r) {report : SkirmishReport}
    (hr : r.1 = .ok report) : r.2.phase = .ended := by
  cases h with
  | unopened h => cases hr
  | wrongPhase h hna => cases hr
  | @fought _ _ o h ha hf =>
      rcases o with ⟨err | told, e'⟩
      · cases hr
      · rfl

theorem Skirmished.round_le (h : Skirmished maxRounds e r) (hc : e.Consistent) :
    r.2.round ≤ max e.round (maxRounds + 1) := by
  cases h with
  | unopened h =>
      obtain ⟨-, -, rfl⟩ := openSkirmish_error h
      exact Nat.le_max_left _ _
  | wrongPhase h hna =>
      rw [(openSkirmish_of_not_active h hna).2]
      exact Nat.le_max_left _ _
  | fought h ha hf =>
      rw [round_conclude]
      rcases openSkirmish_ok h with ⟨-, hne, rfl⟩ | ⟨-, rfl⟩
      · have hle := hf.round_le (consistent_begun hc hne) ha
        have hone : e.begun.round = 1 := rfl
        omega
      · exact hf.round_le hc ha

/-! ### A skirmish is a history -/

theorem reachable_andThen {α β : Type} {o : Outcome α} {next : α → Encounter → Outcome β}
    (h : Reachable o.2) (hnext : ∀ a, Reachable (next a o.2).2) : Reachable (o.andThen next).2 := by
  rcases o with ⟨err | a, e'⟩
  · exact h
  · exact hnext a

theorem reachable_takeSkirmishTurn (h : Reachable e) : Reachable e.takeSkirmishTurn.2 := by
  unfold takeSkirmishTurn
  cases e.plannedAttack? with
  | none => exact h
  | some planned =>
      obtain ⟨attacker, target⟩ := planned
      have hattack := h.perform (.attack attacker target false false)
      rw [perform, Outcome.map_snd] at hattack
      exact reachable_andThen hattack fun _ => hattack

theorem reachable_pass (h : Reachable e) (maxRounds : Nat) (lines : List String) :
    Reachable (pass maxRounds lines e).2 := by
  unfold pass
  split
  · exact h
  · have hturn := reachable_takeSkirmishTurn h
    refine reachable_andThen hturn fun told => ?_
    have hnext := hturn.perform .nextTurn
    rw [perform, Outcome.map_snd] at hnext
    dsimp only
    split
    · exact hturn
    · refine reachable_andThen hnext fun advance => ?_
      cases advance with
      | turn info => exact hnext
      | noneLiving round => exact hnext

theorem Fought.reachable (h : Fought maxRounds lines e o) (he : Reachable e) : Reachable o.2 := by
  induction h with
  | @refused lines _ _ _ h | @last lines _ _ _ h =>
      have hpass := reachable_pass he maxRounds lines
      rw [h] at hpass
      exact hpass
  | @next lines _ _ _ _ h _ ih =>
      have hpass := reachable_pass he maxRounds lines
      rw [h] at hpass
      exact ih hpass

theorem reachable_openSkirmish (h : Reachable e) : Reachable e.openSkirmish.2 := by
  rcases e.openSkirmish_cases with ⟨-, -, ho⟩ | ⟨hp, hne, opening, ho⟩ | ⟨-, ho⟩ <;> rw [ho]
  · exact h
  · have hstart := h.perform .start
    rw [perform, Outcome.map_snd, start_of_inactive hp hne] at hstart
    exact hstart
  · exact h

theorem Skirmished.reachable (h : Skirmished maxRounds e r) (he : Reachable e) :
    Reachable r.2 := by
  have hopen := reachable_openSkirmish he
  cases h with
  | unopened h =>
      rw [h] at hopen
      exact hopen
  | wrongPhase h hna =>
      rw [h] at hopen
      exact hopen
  | @fought _ _ o h ha hf =>
      rw [h] at hopen
      have hfought := hf.reachable hopen
      rcases o with ⟨err | told, e'⟩
      · exact hfought
      · exact hfought.perform .finish

/-- **A skirmish comes to an end, and fails cleanly.**  In every reachable state it comes to what
as many passes as it takes come to.  If the rounds to be fought can be counted and one more, it is
refused exactly when the fight has not begun and nobody is at the table, or it is suspended or over,
or whoever has the turn is stuck in a round that is still fought; and refused, it leaves no trace.
Otherwise the fight is over.  It ends in the round after the last one at most. -/
theorem skirmish_total (h : Reachable e) (maxRounds : Nat) :
    (∀ result, Skirmished maxRounds e result ↔ result = e.skirmish maxRounds) ∧
      (maxRounds < Count.greatest →
        ((∃ err, (e.skirmish maxRounds).1 = .error err) ↔
          (e.phase = .inactive ∧ e.combatants = []) ∨ (e.phase = .paused ∨ e.phase = .ended) ∨
            (e.phase = .active ∧ e.round ≤ maxRounds ∧ e.bothSidesAlive = true ∧ e.Stuck)) ∧
        (∀ err, (e.skirmish maxRounds).1 = .error err → (e.skirmish maxRounds).2 = e)) ∧
      (∀ report, (e.skirmish maxRounds).1 = .ok report →
        (e.skirmish maxRounds).2.phase = .ended) ∧
      (e.skirmish maxRounds).2.round ≤ max e.round (maxRounds + 1) ∧
      Reachable (e.skirmish maxRounds).2 := by
  have hc := h.consistent
  have hs := skirmished_skirmish hc maxRounds
  refine ⟨fun result => ⟨fun hr => hr.unique hs, fun hr => hr ▸ hs⟩,
    fun hm => ⟨hs.error_iff hc hm, fun err herr => ?_⟩, fun report hr => hs.ended hr,
    hs.round_le hc, hs.reachable h⟩
  refine (hs.error_cases hc herr).resolve_right fun hout => ?_
  exact Nat.not_lt.mpr hout.2.1 hm

/-- A fight of two that has not begun is fought to its end. -/
theorem skirmish_total_duel :
    let e := ((withDice .standard (.ofFaces [10, 5])).performAll
      [.add { StatBlock.basic "Ann" 10 10 with isPlayer := true }, .add (.basic "Bob" 10 10)]).2
    (¬ ∃ err, (e.skirmish 3).1 = .error err) ∧ (e.skirmish 3).2.round ≤ 4 := by
  intro e
  obtain ⟨-, hrefused, -, hround, -⟩ := skirmish_total ((Reachable.idle _ _).performAll _) 3
  refine ⟨fun h => ?_, hround⟩
  rcases (hrefused (by decide)).1.mp h with ⟨-, he⟩ | (hp | hp) | ⟨hp, -⟩
  · cases he
  · cases hp
  · cases hp
  · cases hp

end Encounter

end Tabletop
