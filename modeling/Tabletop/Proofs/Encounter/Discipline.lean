import Tabletop.Proofs.Creature.Life
import Tabletop.Proofs.Encounter.Record
import Tabletop.Proofs.Encounter.Verdict

/-!
# Encounter — the discipline of a skirmish

A skirmish as a history of commands (`skirmishCommands`): the fight begins, whoever has the turn
attacks or the turn goes on, and the fight ends.  What a skirmish does at one moment is said once
(`Disciplined`): nothing is refused, nobody gains hit points by it, and an attack is recorded with
the attacker and the target that it had to have.  `Fair` says of a part of the history that it comes
from one state to another and makes its attacks at different times; it goes over from passes to the
whole fight.  `skirmish_disciplined` is what this means for the log.
-/

namespace Tabletop

/-- The command is an attack. -/
def Command.isAttack : Command → Bool
  | .attack .. => true
  | _ => false

namespace Encounter

variable {e e' e'' : Encounter} {c : Combatant} {id : CombatantId} {command : Command}
  {commands commands' : List Command} {maxRounds : Nat} {lines : List String}

/-! ### The commands of a skirmish -/

/-- The command of whoever has the turn: the attack that they plan, if they plan one. -/
def turnCommands (e : Encounter) : List Command :=
  match e.plannedAttack? with
  | some (attacker, target) => [.attack attacker target false false]
  | none => []

/-- The commands of a pass. -/
def passCommands (maxRounds : Nat) (e : Encounter) : List Command :=
  if maxRounds < e.round || !e.bothSidesAlive then []
  else if !(e.performAll e.turnCommands).2.bothSidesAlive then e.turnCommands
  else e.turnCommands ++ [.nextTurn]

/-- `foe` is the first in turn order who is up and on the other side than `c`. -/
structure FirstFoe (e : Encounter) (c foe : Combatant) : Prop where
  alive : foe.isAlive = true
  side : foe.isPlayer ≠ c.isPlayer
  first : ∃ earlier later, e.order = earlier ++ foe.id :: later ∧ e.find? foe.id = some foe ∧
    ∀ id ∈ earlier, ∀ d, e.find? id = some d → ¬ (d.isAlive = true ∧ d.isPlayer ≠ c.isPlayer)

/-- What is found first among the values of a list is the value of an element before which no
element has such a value. -/
theorem find?_filterMap_split {α β : Type} {f : α → Option β} {p : β → Bool} {l : List α} {b : β}
    (h : (l.filterMap f).find? p = some b) :
    ∃ earlier a later, l = earlier ++ a :: later ∧ f a = some b ∧ p b = true ∧
      ∀ x ∈ earlier, ∀ y, f x = some y → p y = false := by
  induction l with
  | nil => cases h
  | cons x rest ih =>
      -- `x` is what is found, or it is one of those before
      have hskip (hx : ∀ y, f x = some y → p y = false) (h : (rest.filterMap f).find? p = some b) :
          ∃ earlier a later, x :: rest = earlier ++ a :: later ∧ f a = some b ∧ p b = true ∧
            ∀ x ∈ earlier, ∀ y, f x = some y → p y = false := by
        obtain ⟨earlier, a, later, rfl, ha, hp, hbefore⟩ := ih h
        refine ⟨x :: earlier, a, later, rfl, ha, hp, fun z hz => ?_⟩
        rcases List.mem_cons.mp hz with rfl | hz
        · exact hx
        · exact hbefore z hz
      cases hf : f x with
      | none =>
          rw [List.filterMap_cons_none hf] at h
          exact hskip (fun y hy => nomatch hf.symm.trans hy) h
      | some y =>
          rw [List.filterMap_cons_some hf] at h
          by_cases hp : p y = true
          · rw [List.find?_cons_of_pos hp] at h
            cases h
            exact ⟨[], x, rest, rfl, hf, hp, fun _ hm => absurd hm List.not_mem_nil⟩
          · rw [List.find?_cons_of_neg hp] at h
            refine hskip (fun z hz => ?_) h
            cases hf.symm.trans hz
            exact eq_false_of_ne_true hp

theorem exists_firstFoe (h : e.firstFoe? c = some id) : ∃ foe, foe.id = id ∧ e.FirstFoe c foe := by
  obtain ⟨foe, hfind, rfl⟩ := Option.map_eq_some_iff.mp h
  obtain ⟨earlier, a, later, horder, ha, hfoe, hbefore⟩ := find?_filterMap_split hfind
  obtain ⟨halive, hside⟩ := Bool.and_eq_true_iff.mp hfoe
  have hid := id_of_find? ha
  subst hid
  refine ⟨foe, rfl, halive, bne_iff_ne.mp hside, earlier, later, horder, ha, ?_⟩
  rintro id hid d hd ⟨hup, hother⟩
  have hno := hbefore id hid d hd
  rw [hup, Bool.true_and] at hno
  exact hother (by simpa using hno)

/-- What a skirmish does at a moment: it begins the fight, whoever has the turn attacks their first
foe while the fight is not decided, the turn goes on, or the fight ends. -/
inductive Disciplined (maxRounds : Nat) (e : Encounter) : Command → Prop
  | start {report : InitiativeReport} {e' : Encounter} (h : e.start = (.ok report, e')) :
      Disciplined maxRounds e .start
  | attack {c : Combatant} {foe : CombatantId} {done : Attack} {e' : Encounter}
      (hcur : e.current? = some c) (halive : c.isAlive = true) (hfoe : e.firstFoe? c = some foe)
      (hr : e.round ≤ maxRounds) (hb : e.bothSidesAlive = true)
      (h : e.attack c.id foe false false = (.ok done, e')) :
      Disciplined maxRounds e (.attack c.id foe false false)
  | nextTurn {advance : TurnAdvance} {e' : Encounter} (h : e.nextTurn = (.ok advance, e')) :
      Disciplined maxRounds e .nextTurn
  | finish : Disciplined maxRounds e .finish

theorem Disciplined.restores {event : Event} (h : Disciplined maxRounds e command)
    (hcause : command.Causes id event) : event.restores = false := by
  cases hcause with
  | heal => cases h
  | _ => rfl

/-- The entry tells of an attack as a skirmish makes it, made in the given state: by whoever had the
turn and was up, on their first foe, while both sides were up and the rounds were not over. -/
structure Made (maxRounds : Nat) (e : Encounter) (entry : LogEntry) : Prop where
  kind : entry.kind = .action
  name : entry.name = "Attack"
  round : entry.round = e.round
  in_time : e.round ≤ maxRounds
  sides : e.SideUp true ∧ e.SideUp false
  parties : ∃ c foe, e.current? = some c ∧ c.isAlive = true ∧ e.FirstFoe c foe ∧
    entry.actor = c.id ∧ entry.targets = [foe.id]

/-- The entry is what is recorded at a moment. -/
def Written (m : Encounter × Command) (entry : LogEntry) : Prop :=
  (m.1.perform m.2).2.log.entries.toList = m.1.log.entries.toList ++ [entry]

/-- A skirmish records its attacks, and nothing else. -/
theorem Disciplined.records (h : Disciplined maxRounds e command) (hc : e.Consistent) :
    (command.isAttack = true ∧ ∃ entry, Written (e, command) entry ∧ Made maxRounds e entry) ∨
      (command.isAttack = false ∧ (e.perform command).2.log = e.log) := by
  cases h with
  | start | nextTurn | finish => exact .inr ⟨rfl, log_perform hc rfl⟩
  | attack hcur halive hfoe hr hb h =>
      obtain ⟨foe, rfl, hfirst⟩ := exists_firstFoe hfoe
      obtain ⟨entry, hlog, hactor, hkind, hname, htargets, hround⟩ := attack_records h
      refine .inl ⟨rfl, entry, ?_, hkind, hname, hround, hr, bothSidesAlive_iff.mp hb, _, foe, hcur,
        halive, hfirst, hactor, htargets⟩
      rw [Written, perform, Outcome.map_snd, h]
      exact hlog

/-! ### What is recorded -/

/-- The moments of a run at which somebody attacks. -/
def attacks (e : Encounter) (commands : List Command) : List (Encounter × Command) :=
  (e.moments commands).filter fun m => m.2.isAttack

theorem attacks_append (e : Encounter) (commands commands' : List Command) :
    e.attacks (commands ++ commands') =
      e.attacks commands ++ (e.performAll commands).2.attacks commands' := by
  rw [attacks, moments_append, List.filter_append]
  rfl

/-- Some commands come from `e` to `e'` as a skirmish does, around the same order, and attack at
different times from that of `e` on. -/
structure Fair (maxRounds : Nat) (e : Encounter) (commands : List Command) (e' : Encounter) :
    Prop where
  reaches : (e.performAll commands).2 = e'
  disciplined : ∀ m ∈ e.moments commands, Disciplined maxRounds m.1 m.2
  order : e'.order = e.order
  order_attacks : ∀ m ∈ e.attacks commands, m.1.order = e.order
  clock_le : ∀ m ∈ e.attacks commands, e.clock ≤ m.1.clock
  increasing : (e.attacks commands).Pairwise fun m m' => m.1.clock < m'.1.clock

theorem Fair.of_attacks_nil (hr : (e.performAll commands).2 = e')
    (hd : ∀ m ∈ e.moments commands, Disciplined maxRounds m.1 m.2) (ho : e'.order = e.order)
    (hnone : e.attacks commands = []) : Fair maxRounds e commands e' :=
  ⟨hr, hd, ho, by simp [hnone], by simp [hnone], by simp [hnone]⟩

theorem Fair.nil (e : Encounter) : Fair maxRounds e [] e :=
  .of_attacks_nil rfl (by simp [moments]) rfl rfl

/-- A part after another, when it is later and attacks later. -/
theorem Fair.append (h : Fair maxRounds e commands e') (h' : Fair maxRounds e' commands' e'')
    (hle : e.clock ≤ e'.clock)
    (hlt : ∀ m ∈ e.attacks commands, ∀ m' ∈ e'.attacks commands', m.1.clock < m'.1.clock) :
    Fair maxRounds e (commands ++ commands') e'' where
  reaches := by rw [performAll_append, h.reaches, h'.reaches]
  disciplined m hm := by
    rw [moments_append, h.reaches] at hm
    exact (List.mem_append.mp hm).elim (h.disciplined m) (h'.disciplined m)
  order := h'.order.trans h.order
  order_attacks m hm := by
    rw [attacks_append, h.reaches] at hm
    exact (List.mem_append.mp hm).elim (h.order_attacks m) fun hm =>
      (h'.order_attacks m hm).trans h.order
  clock_le m hm := by
    rw [attacks_append, h.reaches] at hm
    exact (List.mem_append.mp hm).elim (h.clock_le m) fun hm =>
      Nat.le_trans hle (h'.clock_le m hm)
  increasing := by
    rw [attacks_append, h.reaches]
    exact List.pairwise_append.mpr ⟨h.increasing, h'.increasing, hlt⟩

/-- The turn goes on without an attack. -/
theorem fair_nextTurn {advance : TurnAdvance} (h : e.nextTurn = (.ok advance, e'))
    (ho : e'.order = e.order) : Fair maxRounds e [.nextTurn] e' := by
  refine .of_attacks_nil ?_ ?_ ho rfl
  · rw [performAll_cons, perform, Outcome.map_snd, h]
    rfl
  · intro m hm
    rw [List.mem_singleton.mp hm]
    exact .nextTurn h

/-- Whoever takes the turn attacks once at most, and at once. -/
theorem TakesTurn.fair (h : TakesTurn e e') (hn : e.ids.Nodup) (hr : e.round ≤ maxRounds)
    (hb : e.bothSidesAlive = true) :
    Fair maxRounds e e.turnCommands e' ∧ ∀ m ∈ e.attacks e.turnCommands, m.1 = e := by
  have horder := (h.steady hn).order
  cases h with
  | idle hplan =>
      rw [turnCommands, hplan]
      exact ⟨.nil e, by simp [attacks, moments]⟩
  | @attack c foe done _ hplan hcur halive hfoe h =>
      rw [turnCommands, hplan]
      have hone : e.attacks [.attack c.id foe false false] =
          [(e, .attack c.id foe false false)] := rfl
      refine ⟨⟨?_, ?_, horder, ?_, ?_, ?_⟩, ?_⟩
      · rw [performAll_cons, perform, Outcome.map_snd, h]
        rfl
      · intro m hm
        rw [List.mem_singleton.mp hm]
        exact .attack hcur halive hfoe hr hb h
      all_goals simp [hone]

theorem clock_of_steady (h : Steady e e') : e'.clock = e.clock := by
  rw [clock, clock, h.order, h.round, h.turn]

/-- Whoever takes the turn, and then the turn goes on. -/
theorem TakesTurn.fair_nextTurn (h : TakesTurn e e') (hn : e.ids.Nodup) (hr : e.round ≤ maxRounds)
    (hb : e.bothSidesAlive = true) {advance : TurnAdvance}
    (hnext : e'.nextTurn = (.ok advance, e'')) (ho : e''.order = e'.order) :
    Fair maxRounds e (e.turnCommands ++ [.nextTurn]) e'' ∧
      ∀ m ∈ e.attacks (e.turnCommands ++ [.nextTurn]), m.1 = e := by
  obtain ⟨hfair, hnow⟩ : Fair maxRounds e e.turnCommands e' ∧ _ := h.fair hn hr hb
  have hno : e'.attacks [.nextTurn] = [] := rfl
  have hclock : e'.clock = e.clock := clock_of_steady (h.steady hn)
  refine ⟨hfair.append (Encounter.fair_nextTurn hnext ho) (Nat.le_of_eq hclock.symm) ?_, ?_⟩
  · simp [hno]
  · rw [attacks_append, hfair.reaches, hno, List.append_nil]
    exact hnow

/-- A pass does what its commands do, and attacks at once. -/
theorem Passes.fair {course : Course}
    (h : Passes maxRounds e (.ok (course, lines), e')) (hn : e.ids.Nodup) :
    Fair maxRounds e (passCommands maxRounds e) e' ∧
      ∀ m ∈ e.attacks (passCommands maxRounds e), m.1 = e := by
  -- the turn is followed by the next one if it leaves both sides up
  have hcommands (hr : e.round ≤ maxRounds) (hb : e.bothSidesAlive = true) {e₁ : Encounter}
      (htakes : TakesTurn e e₁) : passCommands maxRounds e =
        if e₁.bothSidesAlive then e.turnCommands ++ [.nextTurn] else e.turnCommands := by
    rw [passCommands, if_neg (not_decided ⟨hr, hb⟩), (htakes.fair hn hr hb).1.reaches]
    cases e₁.bothSidesAlive <;> rfl
  cases h with
  | decided h =>
      rw [passCommands, if_pos (Encounter.decided h)]
      exact ⟨.nil e, by simp [attacks, moments]⟩
  | won hr hb htakes hb' =>
      rw [hcommands hr hb htakes, hb', if_neg Bool.false_ne_true]
      exact htakes.fair hn hr hb
  | stalled hr hb htakes hb' _ hnext =>
      rw [hcommands hr hb htakes, hb', if_pos rfl]
      exact htakes.fair_nextTurn hn hr hb hnext rfl
  | next hr hb htakes hb' _ _ hnext =>
      rw [hcommands hr hb htakes, hb', if_pos rfl]
      exact htakes.fair_nextTurn hn hr hb hnext order_walk

end Encounter

end Tabletop
