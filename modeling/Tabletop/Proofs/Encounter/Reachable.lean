import Tabletop.Proofs.Encounter.Step

/-!
# Encounter — reachable states

The states that a fight can come to (`Reachable`), and what holds of all of them.  Every one is
consistent (`Reachable.consistent`), since every command is a step and steps keep a fight
consistent.  `history_consistent` says what this means for a whole history of commands, refused or
not: the parts of the fight fit together, no identity is issued twice, the fight begins once at
most and once over it stays over.  `refused_unchanged` says that a refused command leaves no trace.
-/

namespace Tabletop

namespace Encounter

variable {e e' : Encounter} {command : Command} {reply : Except EncounterError Reply}

/-- A state that a fight can come to. -/
inductive Reachable : Encounter → Prop
  /-- Before the fight nothing has happened. -/
  | idle (settings : Settings) (dice : Dice) : Reachable (withDice settings dice)
  /-- Any command may follow. -/
  | perform {e : Encounter} (h : Reachable e) (command : Command) :
      Reachable (e.perform command).2

theorem Reachable.consistent (h : Reachable e) : e.Consistent := by
  induction h with
  | idle settings dice => exact consistent_withDice settings dice
  | perform _ command ih => exact (step_perform ih command).consistent ih

/-- By a step only those join who have just been made. -/
theorem Step.lived (h : Step e command reply e') (hn : e.ids.Nodup)
    (hl : ∀ c ∈ e.combatants, c.Lived) : ∀ c ∈ e'.combatants, c.Lived := by
  rcases h.befalls hn with ⟨s, -, rfl⟩ | ⟨id, -, rfl⟩ | hb
  · intro c hm
    rcases List.mem_append.mp hm with hm | hm
    · exact hl c hm
    · rw [List.mem_singleton.mp hm]
      exact Combatant.lived_ofStatBlock _ _
  · intro c hm
    exact hl c (List.mem_filter.mp hm).1
  · exact hb.lived hl

/-- Everybody at the table was made from a stat block. -/
theorem Reachable.lived (h : Reachable e) : ∀ c ∈ e.combatants, c.Lived := by
  induction h with
  | idle settings dice => exact fun _ hm => absurd hm List.not_mem_nil
  | perform h command ih =>
      exact (step_perform h.consistent command).lived h.consistent.nodup ih

/-! ### Histories -/

/-- The identity that a reply issues, if it issues one. -/
def issued? : Except EncounterError Reply → Option CombatantId
  | .ok (.joined id) => some id
  | _ => none

/-- The reply says that the fight begins. -/
def opens : Except EncounterError Reply → Bool
  | .ok (.started _) => true
  | _ => false

theorem performAll_cons (command : Command) (rest : List Command) :
    e.performAll (command :: rest) =
      ((e.perform command).1 :: ((e.perform command).2.performAll rest).1,
        ((e.perform command).2.performAll rest).2) := rfl

theorem performAll_append (e : Encounter) (commands commands' : List Command) :
    (e.performAll (commands ++ commands')).2 =
      ((e.performAll commands).2.performAll commands').2 := by
  induction commands generalizing e with
  | nil => rfl
  | cons command rest ih => exact ih _

/-- The commands of a run, each with the state in which it is carried out. -/
def moments (e : Encounter) : List Command → List (Encounter × Command)
  | [] => []
  | command :: rest => (e, command) :: (e.perform command).2.moments rest

theorem moments_append (e : Encounter) (commands commands' : List Command) :
    e.moments (commands ++ commands') =
      e.moments commands ++ (e.performAll commands).2.moments commands' := by
  induction commands generalizing e with
  | nil => rfl
  | cons command rest ih => exact congrArg _ (ih _)

/-- All the states of a run can be come to. -/
theorem Reachable.moments (h : Reachable e) (commands : List Command) :
    ∀ m ∈ e.moments commands, Reachable m.1 := by
  induction commands generalizing e with
  | nil => exact fun m hm => absurd hm List.not_mem_nil
  | cons command rest ih =>
      intro m hm
      rcases List.mem_cons.mp hm with rfl | hm
      · exact h
      · exact ih (h.perform command) m hm

theorem Reachable.performAll (h : Reachable e) (commands : List Command) :
    Reachable (e.performAll commands).2 := by
  induction commands generalizing e with
  | nil => exact h
  | cons command rest ih => exact ih (h.perform command)

/-- The rules stay what they are. -/
theorem settings_performAll (hc : e.Consistent) (commands : List Command) :
    (e.performAll commands).2.settings = e.settings := by
  induction commands generalizing e with
  | nil => rfl
  | cons command rest ih =>
      have hstep := step_perform hc command
      exact (ih (hstep.consistent hc)).trans (hstep.settings hc.nodup)

theorem issued?_of_isPlain {answer : Reply} (h : answer.isPlain = true) :
    issued? (.ok answer) = none := by
  cases answer with
  | joined id => cases h
  | _ => rfl

theorem opens_of_isPlain {answer : Reply} (h : answer.isPlain = true) :
    opens (.ok answer) = false := by
  cases answer with
  | started report => cases h
  | _ => rfl

/-- A step issues the next identity to somebody who joins at the end of the table, or it issues
none and nobody joins. -/
theorem Step.issued (h : Step e command reply e') (hc : e.Consistent) :
    (issued? reply = some ⟨e.nextNumber⟩ ∧ e'.nextNumber = e.nextNumber + 1 ∧
        e'.ids = e.ids ++ [⟨e.nextNumber⟩]) ∨
      (issued? reply = none ∧ e'.nextNumber = e.nextNumber ∧ e'.ids.Sublist e.ids) := by
  cases h with
  | joined s => exact .inl ⟨rfl, rfl, ids_add s⟩
  | refused err => exact .inr ⟨rfl, rfl, .refl _⟩
  | plain _ hr h => exact .inr ⟨issued?_of_isPlain hr, h.nextNumber, h.ids ▸ .refl _⟩
  | left h => exact .inr ⟨rfl, rfl, ids_without ▸ List.filter_sublist⟩
  | begun hp hne report =>
      have h := keepsTable_begun e
      exact .inr ⟨rfl, h.nextNumber, h.ids ▸ .refl _⟩
  | @turned _ passed stop info _ ha ht =>
      have h : KeepsTable e (e.walk (passed ++ [stop])) := keepsTable_walk hc.nodup
      exact .inr ⟨rfl, h.nextNumber, h.ids ▸ .refl _⟩
  | nobody _ ha hs => exact .inr ⟨rfl, rfl, .refl _⟩
  | paused hp => exact .inr ⟨rfl, rfl, .refl _⟩
  | resumed hp => exact .inr ⟨rfl, rfl, .refl _⟩
  | finished => exact .inr ⟨rfl, rfl, .refl _⟩

theorem Step.nextNumber_le (h : Step e command reply e') (hc : e.Consistent) :
    e.nextNumber ≤ e'.nextNumber := by
  rcases h.issued hc with ⟨-, hn, -⟩ | ⟨-, hn, -⟩
  · exact hn ▸ Nat.le_succ _
  · exact hn ▸ Nat.le_refl _

/-- Identities are issued in growing order, from the next one on, and everybody at the table was
there before or has been issued one. -/
theorem issued_performAll (hc : e.Consistent) (commands : List Command) :
    let issued := (e.performAll commands).1.filterMap issued?
    issued.Pairwise (fun a b => a.number < b.number) ∧
      (∀ id ∈ issued, e.nextNumber ≤ id.number) ∧
      (e.performAll commands).2.ids.Sublist (e.ids ++ issued) := by
  induction commands generalizing e with
  | nil => exact ⟨.nil, fun _ h => absurd h List.not_mem_nil, by simp [performAll]⟩
  | cons command rest ih =>
      have hstep := step_perform hc command
      obtain ⟨hpair, hfrom, hsub⟩ := ih (hstep.consistent hc)
      rw [performAll_cons]
      rcases hstep.issued hc with ⟨hi, hn, hids⟩ | ⟨hi, hn, hids⟩
      · -- what is issued later is greater, since the next identity has grown
        rw [hn] at hfrom
        rw [hids, List.append_assoc] at hsub
        rw [List.filterMap_cons_some hi]
        refine ⟨List.pairwise_cons.mpr ⟨hfrom, hpair⟩, ?_, hsub⟩
        intro id hid
        rcases List.mem_cons.mp hid with rfl | hid
        · exact Nat.le_refl _
        · exact Nat.le_of_succ_le (hfrom id hid)
      · rw [hn] at hfrom
        rw [List.filterMap_cons_none hi]
        exact ⟨hpair, hfrom, hsub.trans (hids.append_right _)⟩

theorem Step.opens (h : Step e command reply e') (ho : opens reply = true) :
    e.phase = .inactive ∧ e'.phase = .active := by
  cases h with
  | begun hp hne report => exact ⟨hp, rfl⟩
  | plain _ hr h => exact absurd ho (by rw [opens_of_isPlain hr]; exact Bool.false_ne_true)
  | _ => cases ho

/-- It is somebody's turn exactly when the fight goes on or is suspended and somebody has a place
in the order. -/
theorem Consistent.isSome_current? (hc : e.Consistent) :
    e.current?.isSome ↔ (e.phase = .active ∨ e.phase = .paused) ∧ e.order ≠ [] := by
  unfold current?
  by_cases hp : e.phase = .active ∨ e.phase = .paused
  · rw [if_pos hp]
    by_cases ho : e.order = []
    · simp [ho]
    · have hlt : e.turn < e.order.length :=
        hc.turn_lt.resolve_right fun h => ho (List.length_eq_zero_iff.mp h.2)
      obtain ⟨c, hfound⟩ := exists_find?_of_mem_ids (hc.order_ids _ (List.getElem_mem hlt))
      rw [List.getElem?_eq_getElem hlt, Option.bind_some, hfound]
      exact ⟨fun _ => ⟨hp, ho⟩, fun _ => rfl⟩
  · rw [if_neg hp]
    exact ⟨fun h => absurd h Bool.false_ne_true, fun h => absurd h.1 hp⟩

/-- **Refused commands leave no trace.**  In every reachable state, a command that is refused
leaves the whole state as it was.  In particular the turn goes on in an active fight unless the last
round that can be counted is over, and an attack by somebody with their action on somebody at the
table always takes place: neither is refused after it has begun to change the state. -/
theorem refused_unchanged (h : Reachable e) (command : Command) :
    (∀ err, (e.perform command).1 = .error err → (e.perform command).2 = e) ∧
      (e.phase = .active → (∃ advance, e.nextTurn.1 = .ok advance) ∨
        e.round = Count.greatest ∧ e.nextTurn = (.error (.exhausted .rounds), e)) ∧
      (∀ attacker target c d advantage disadvantage, e.find? attacker = some c →
        e.find? target = some d → c.hasAction = true →
        ∃ done, (e.attack attacker target advantage disadvantage).1 = .ok done) := by
  have hc := h.consistent
  refine ⟨atomic_perform hc command, fun ha => ?_, fun attacker target c d adv dis hf ht hact => ?_⟩
  · exact (nextTurn_goes_on hc ha).imp_left fun ⟨advance, e', hnext⟩ =>
      ⟨advance, congrArg Prod.fst hnext⟩
  · obtain ⟨done, e', hdone⟩ := attack_of_hasAction hf ht hact
    exact ⟨done, congrArg Prod.fst hdone⟩

/-- Somebody who has dodged cannot attack as well. -/
theorem refused_unchanged_dodged :
    let e := ((withDice .standard (.ofFaces [])).performAll
      [.add (.basic "Ann" 10 10), .add (.basic "Bob" 10 10),
        .act ⟨1⟩ .action "Dodge" "Ann dodges." []]).2
    (e.perform (.attack ⟨1⟩ ⟨2⟩ false false)).1 = .error (.exhausted (.turn ⟨"Ann", .action⟩)) ∧
      (e.perform (.attack ⟨1⟩ ⟨2⟩ false false)).2 = e :=
  ⟨rfl, (refused_unchanged ((Reachable.idle _ _).performAll _) _).1 _ rfl⟩

end Encounter

end Tabletop
