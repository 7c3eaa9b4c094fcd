import Tabletop.Proofs.Encounter.Reachable
import Tabletop.Proofs.Encounter.Record

/-!
# Encounter — the log as a chronicle

The log of a fight is only written at its end, an entry for every deed and none for anything else
(`entries_perform`).  Its entries are numbered by their places (`ActionLog.Numbered`), so that a
number finds the entry at that place and no other, and they bear the rounds in which the deeds were
done, which never fall (`pairwise_moments`).  For a whole run this is `log_append_only`.
-/

namespace Tabletop

namespace ActionLog

variable {log : ActionLog} {entry : LogEntry}

/-- Entries are numbered from 1 by the places at which they stand. -/
def Numbered (log : ActionLog) : Prop :=
  ∀ (i : Nat) (entry : LogEntry), log.entries.toList[i]? = some entry → entry.id = ⟨i + 1⟩

/-- In a numbered log a number finds the entry at its place, if there is one. -/
theorem Numbered.get? (h : log.Numbered) (i : Nat) :
    log.get? ⟨i + 1⟩ = log.entries.toList[i]? := by
  cases hi : log.entries.toList[i]? with
  | none =>
      rw [ActionLog.get?, List.find?_eq_none]
      intro entry hm
      obtain ⟨j, hj⟩ := List.mem_iff_getElem?.mp hm
      have hlt : j < i := by
        by_contra hge
        rw [List.getElem?_eq_none_iff] at hi
        have hnone := List.getElem?_eq_none (Nat.le_trans hi (Nat.le_of_not_lt hge))
        exact nomatch hj.symm.trans hnone
      simp only [h j entry hj, beq_iff_eq, ActionId.mk.injEq]
      omega
  | some entry =>
      obtain ⟨hlt, hentry⟩ := List.getElem?_eq_some_iff.mp hi
      rw [ActionLog.get?, List.find?_eq_some_iff_getElem]
      refine ⟨by simp [h i entry hi], i, hlt, hentry, fun j hj => ?_⟩
      -- entries at earlier places have smaller numbers
      have hid := h j _ (List.getElem?_eq_getElem (Nat.lt_trans hj hlt))
      simp only [hid, Bool.not_eq_true', beq_eq_false_iff_ne, ne_eq, ActionId.mk.injEq]
      omega

theorem Numbered.concat (h : log.Numbered) {log' : ActionLog}
    (hlog : log'.entries.toList = log.entries.toList ++ [entry]) (hid : entry.id = log.nextId) :
    log'.Numbered := by
  intro i other hi
  rw [hlog] at hi
  rcases Nat.lt_or_ge i log.entries.toList.length with hlt | hge
  · rw [List.getElem?_append_left hlt] at hi
    exact h i other hi
  · rw [List.getElem?_append_right hge, List.getElem?_singleton] at hi
    split at hi
    · next hzero =>
        have hi' : i = log.size := by
          rw [Array.length_toList] at hge hzero
          exact Nat.le_antisymm (Nat.sub_eq_zero_iff_le.mp hzero) hge
        rw [← Option.some.inj hi, hid, hi', nextId]
    · cases hi

/-- The last entries are the end of the log, as many as are asked for, or all if there are fewer. -/
theorem recent_suffix (log : ActionLog) (limit : Nat) :
    log.recent limit <:+ log.entries.toList ∧
      (log.recent limit).length = min limit log.entries.toList.length := by
  refine ⟨List.drop_suffix _ _, ?_⟩
  rw [recent, List.length_drop, size, Array.length_toList]
  omega

end ActionLog

namespace Encounter

variable {e e' : Encounter} {command : Command} {reply : Except EncounterError Reply}

/-- At a moment of a run a deed is done: somebody acts, and is not refused. -/
def records (m : Encounter × Command) : Bool := m.2.isDeed && (m.1.perform m.2).1.isOk

/-! ### Entries -/

/-- A command writes one entry if a deed is done by it, and none otherwise. -/
theorem entries_perform (hc : e.Consistent) (command : Command) :
    (records (e, command) = true ∧ ∃ deed,
        (e.perform command).2.log.entries.toList = e.log.entries.toList ++ [e.entryOf deed]) ∨
      (records (e, command) = false ∧ (e.perform command).2.log = e.log) := by
  cases hd : command.isDeed with
  | true =>
      rcases done_or_refused hc hd with ⟨reply, deed, hreply, hdone⟩ | ⟨err, hreply, hsame⟩
      · refine .inl ⟨?_, deed, hdone.entries⟩
        simp only [records, hd, hreply]
        rfl
      · refine .inr ⟨?_, congrArg log hsame⟩
        simp only [records, hd, hreply]
        rfl
  | false =>
      refine .inr ⟨?_, log_perform hc hd⟩
      simp only [records, hd, Bool.false_and]

/-- Nothing is taken from the log. -/
theorem prefix_perform (hc : e.Consistent) (command : Command) :
    e.log.entries.toList <+: (e.perform command).2.log.entries.toList ∧
      (e.perform command).2.log.entries.toList.length =
        e.log.entries.toList.length + (records (e, command)).toNat := by
  rcases entries_perform hc command with ⟨hr, deed, hlog⟩ | ⟨hr, hlog⟩
  · rw [hr, hlog]
    exact ⟨List.prefix_append _ _, List.length_append⟩
  · rw [hr, hlog]
    exact ⟨List.prefix_refl _, rfl⟩

theorem numbered_perform (hc : e.Consistent) (h : e.log.Numbered) (command : Command) :
    (e.perform command).2.log.Numbered := by
  rcases entries_perform hc command with ⟨-, deed, hlog⟩ | ⟨-, hlog⟩
  · exact h.concat hlog rfl
  · exact hlog.symm ▸ h

theorem Reachable.numbered (h : Reachable e) : e.log.Numbered := by
  induction h with
  | idle settings dice => exact fun i entry hi => nomatch hi
  | perform h command ih => exact numbered_perform h.consistent ih command

/-! ### Rounds -/

/-- The round never falls. -/
theorem Step.round_le (h : Step e command reply e') (hc : e.Consistent) : e.round ≤ e'.round := by
  cases h with
  | plain _ _ h => exact Nat.le_of_eq h.round.symm
  | begun hp hne report =>
      rw [(hc.inactive hp).1]
      exact Nat.zero_le _
  | turned _ ha ht =>
      rw [round_walk]
      exact Nat.le_add_right _ _
  | _ => exact Nat.le_refl _

theorem round_le_moments (hc : e.Consistent) (commands : List Command) :
    ∀ m ∈ e.moments commands, e.round ≤ m.1.round := by
  induction commands generalizing e with
  | nil => exact fun _ hm => absurd hm List.not_mem_nil
  | cons command rest ih =>
      have hstep := step_perform hc command
      intro m hm
      rcases List.mem_cons.mp hm with rfl | hm
      · exact Nat.le_refl _
      · exact Nat.le_trans (hstep.round_le hc) (ih (hstep.consistent hc) m hm)

theorem pairwise_moments (hc : e.Consistent) (commands : List Command) :
    (e.moments commands).Pairwise fun m m' => m.1.round ≤ m'.1.round := by
  induction commands generalizing e with
  | nil => exact .nil
  | cons command rest ih =>
      have hstep := step_perform hc command
      have hlater := round_le_moments (hstep.consistent hc) rest
      exact .cons (fun m hm => Nat.le_trans (hstep.round_le hc) (hlater m hm))
        (ih (hstep.consistent hc))

/-- A run stamps its entries with the rounds of the moments at which the deeds are done. -/
theorem rounds_performAll (hc : e.Consistent) (commands : List Command) :
    (e.performAll commands).2.log.entries.toList.map (·.round) =
      e.log.entries.toList.map (·.round) ++
        ((e.moments commands).filter records).map (·.1.round) := by
  induction commands generalizing e with
  | nil => exact (List.append_nil _).symm
  | cons command rest ih =>
      rw [performAll_cons, moments, ih ((step_perform hc command).consistent hc)]
      rcases entries_perform hc command with ⟨hr, deed, hlog⟩ | ⟨hr, hlog⟩
      · rw [hlog, List.filter_cons_of_pos hr, List.map_append, List.append_assoc]
        rfl
      · rw [hlog, List.filter_cons_of_neg (Bool.eq_false_iff.mp hr)]

/-- **The log is only appended to.**  At every point of every run, whatever command comes next
leaves the entries of the log as they are and adds one if it is an attack, a spell, another action
or a move that is not refused, and none otherwise.  The entry at place `i` has the number `i + 1`,
and that number finds this entry.  The entries bear the rounds in which their deeds were done, one
after the other, and these never fall.  The last entries that are asked for are the end of the
log. -/
theorem log_append_only (settings : Settings) (dice : Dice) (commands : List Command) :
    let start := withDice settings dice
    let now := (start.performAll commands).2
    let entries := now.log.entries.toList
    (∀ next : Command,
        let later := (now.perform next).2.log.entries.toList
        entries <+: later ∧ later.length = entries.length + (records (now, next)).toNat) ∧
      (∀ (i : Nat) (entry : LogEntry), entries[i]? = some entry → entry.id = ⟨i + 1⟩) ∧
      (∀ i : Nat, now.log.get? ⟨i + 1⟩ = entries[i]?) ∧
      entries.map (·.round) = ((start.moments commands).filter records).map (·.1.round) ∧
      (entries.map (·.round)).Pairwise (· ≤ ·) ∧
      ∀ limit, now.log.recent limit <:+ entries ∧
        (now.log.recent limit).length = min limit entries.length := by
  intro start now entries
  have hreach : Reachable now := (Reachable.idle settings dice).performAll commands
  have hstart := consistent_withDice settings dice
  have hrounds : entries.map (·.round) =
      ((start.moments commands).filter records).map (·.1.round) := rounds_performAll hstart commands
  refine ⟨prefix_perform hreach.consistent, hreach.numbered, hreach.numbered.get?, hrounds, ?_,
    now.log.recent_suffix⟩
  rw [hrounds, List.pairwise_map]
  exact (pairwise_moments hstart commands).sublist List.filter_sublist

end Encounter

end Tabletop
