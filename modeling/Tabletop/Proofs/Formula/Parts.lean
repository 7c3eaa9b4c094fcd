import Tabletop.Formula.Parser
import Tabletop.Proofs.Text.Numeral

/-!
# Formula — the parts of a dice group

What each scanner of a dice group finds, said without the scanner.  `Run` and `RunBehind` are the
longest runs of digits at the two ends of a text, `FirstDice` is the leftmost `d` before a digit,
and `KeepSuffix` and `SignedRun` are what may stand behind the sides.  Every scanner answers with
such a part exactly when there is one (`run_iff`, `findDice?_eq_some_iff`,
`keepSuffix?_eq_some_iff`, `modifierSuffix?_eq_some_iff`, `isSignedDigits_iff`).
-/

namespace Tabletop.Formula

open Text (isDecimalDigit Sign)

variable {c : Char} {cs ds ds' rest rest' : List Char}
  {run before before' after after' front front' count : List Char} {lowest negative : Bool}

/-! ### Runs of digits -/

/-- The characters begin with a digit. -/
def DigitAhead (cs : List Char) : Prop := ∃ d ∈ cs.head?, isDecimalDigit d = true

/-- The characters end in a digit. -/
def DigitBehind (cs : List Char) : Prop := ∃ d ∈ cs.getLast?, isDecimalDigit d = true

/-- The longest run of digits that the characters begin with, and what follows it. -/
structure Run (cs ds rest : List Char) : Prop where
  /-- The run and what follows are all. -/
  eq_append : cs = ds ++ rest
  /-- The run is of digits. -/
  digits : ∀ d ∈ ds, isDecimalDigit d = true
  /-- No further digit follows. -/
  longest : ¬ DigitAhead rest

/-- The longest run of digits that the characters end in, and what stands before it. -/
structure RunBehind (cs front ds : List Char) : Prop where
  /-- What stands before and the run are all. -/
  eq_append : cs = front ++ ds
  /-- The run is of digits. -/
  digits : ∀ d ∈ ds, isDecimalDigit d = true
  /-- No further digit stands before it. -/
  longest : ¬ DigitBehind front

@[simp] theorem not_digitAhead_nil : ¬ DigitAhead [] := nofun

@[simp] theorem not_digitBehind_nil : ¬ DigitBehind [] := nofun

@[simp] theorem digitAhead_cons : DigitAhead (c :: cs) ↔ isDecimalDigit c = true := by
  simp [DigitAhead]

@[simp] theorem digitBehind_concat : DigitBehind (cs ++ [c]) ↔ isDecimalDigit c = true := by
  simp [DigitBehind]

theorem startsWithDigit_iff : startsWithDigit cs = true ↔ DigitAhead cs := by
  cases cs <;> simp [startsWithDigit]

theorem run_splitDigits (cs : List Char) : Run cs (splitDigits cs).1 (splitDigits cs).2 where
  eq_append := List.takeWhile_append_dropWhile.symm
  digits := List.all_eq_true.mp List.all_takeWhile
  longest := by
    rintro ⟨d, hd, hdigit⟩
    have hnot := List.head?_dropWhile_not isDecimalDigit cs
    rw [splitDigits, Option.mem_def] at hd
    rw [hd] at hnot
    exact Bool.false_ne_true (hnot.symm.trans hdigit)

/-- A text has one longest run of digits. -/
theorem run_iff : Run cs ds rest ↔ splitDigits cs = (ds, rest) := by
  constructor
  · rintro ⟨rfl, hdigits, hlongest⟩
    have hstop : rest.takeWhile isDecimalDigit = [] ∧ rest.dropWhile isDecimalDigit = rest := by
      cases rest with
      | nil => exact ⟨rfl, rfl⟩
      | cons c rest =>
          rw [digitAhead_cons] at hlongest
          exact ⟨List.takeWhile_cons_of_neg hlongest, List.dropWhile_cons_of_neg hlongest⟩
    rw [splitDigits, List.takeWhile_append_of_pos hdigits, List.dropWhile_append_of_pos hdigits,
      hstop.1, hstop.2, List.append_nil]
  · intro h
    have hrun := run_splitDigits cs
    rwa [h] at hrun

/-- A run that begins with a digit is not empty. -/
theorem Run.ne_nil_iff (h : Run cs ds rest) : ds ≠ [] ↔ DigitAhead cs := by
  obtain ⟨rfl, hdigits, hlongest⟩ := h
  cases ds with
  | nil => simpa using hlongest
  | cons d ds => simpa using hdigits d List.mem_cons_self

theorem digitAhead_reverse : DigitAhead cs.reverse ↔ DigitBehind cs := by
  rw [DigitAhead, DigitBehind, List.head?_reverse]

/-- A run at the end is one at the start of the reversed text. -/
theorem RunBehind.reverse (h : RunBehind cs front ds) :
    Run cs.reverse ds.reverse front.reverse where
  eq_append := by rw [h.eq_append, List.reverse_append]
  digits d hd := h.digits d (List.mem_reverse.mp hd)
  longest hahead := h.longest (digitAhead_reverse.mp hahead)

theorem RunBehind.unique (h : RunBehind cs front ds) (h' : RunBehind cs front' ds') : ds = ds' := by
  have hsplit := (run_iff.mp h.reverse).symm.trans (run_iff.mp h'.reverse)
  exact List.reverse_inj.mp (Prod.mk.inj hsplit).1

/-- What ends in no digit may be put before a run, here `c` and anything before that. -/
theorem RunBehind.append_left (h : RunBehind cs front ds) (left : List Char)
    (hc : ¬ isDecimalDigit c = true) :
    RunBehind (left ++ c :: cs) (left ++ c :: front) ds where
  eq_append := by rw [h.eq_append, List.append_assoc, List.cons_append]
  digits := h.digits
  longest := by
    rcases List.eq_nil_or_concat front with rfl | ⟨front, d, rfl⟩
    · rwa [digitBehind_concat]
    · have hlongest := h.longest
      rw [List.concat_eq_append] at hlongest ⊢
      rw [digitBehind_concat] at hlongest
      rwa [← List.cons_append, ← List.append_assoc, digitBehind_concat]

/-! ### The first dice group -/

/-- The leftmost `d` that a digit follows: what stands before it, and after it. -/
structure FirstDice (cs before after : List Char) : Prop where
  /-- The `d` parts the text. -/
  eq_append : cs = before ++ 'd' :: after
  /-- A digit follows it. -/
  digit : DigitAhead after
  /-- No such `d` stands further left. -/
  leftmost : ∀ p q, cs = p ++ 'd' :: q → DigitAhead q → before.length ≤ p.length

theorem FirstDice.unique (h : FirstDice cs before after) (h' : FirstDice cs before' after') :
    before = before' ∧ after = after' := by
  have hlength : before.length = before'.length :=
    Nat.le_antisymm (h.leftmost _ _ h'.eq_append h'.digit) (h'.leftmost _ _ h.eq_append h.digit)
  obtain ⟨hbefore, hafter⟩ := List.append_inj (h.eq_append.symm.trans h'.eq_append) hlength
  exact ⟨hbefore, List.tail_eq_of_cons_eq hafter⟩

theorem FirstDice.cons (h : FirstDice cs before after) (hc : ¬ (c = 'd' ∧ DigitAhead cs)) :
    FirstDice (c :: cs) (c :: before) after where
  eq_append := congrArg (c :: ·) h.eq_append
  digit := h.digit
  leftmost p q hsplit hq := by
    cases p with
    | nil =>
        obtain ⟨rfl, rfl⟩ := List.cons.inj hsplit
        exact absurd ⟨rfl, hq⟩ hc
    | cons x p => exact Nat.succ_le_succ (h.leftmost p q (List.cons.inj hsplit).2 hq)

/-- The scan finds the leftmost group, and its run is what the digits read so far and those it
goes past end in. -/
theorem firstDice_of_findDice? (hrun : ∀ d ∈ run, isDecimalDigit d = true)
    (h : findDice? run cs = some (count, after)) :
    ∃ before front, FirstDice cs before after ∧ RunBehind (run.reverse ++ before) front count := by
  induction cs generalizing run with
  | nil => cases h
  | cons c cs ih =>
      rw [findDice?] at h
      split at h
      · next hc =>
          cases h
          have hdigit : DigitAhead after := startsWithDigit_iff.mp hc.2
          refine ⟨[], [], ⟨congrArg (· :: after) hc.1, hdigit, fun _ _ _ _ => Nat.zero_le _⟩, ?_⟩
          exact ⟨List.append_nil _, fun d hd => hrun d (List.mem_reverse.mp hd),
            not_digitBehind_nil⟩
      · next hc =>
          rw [startsWithDigit_iff] at hc
          split at h
          · next hdigit =>
              obtain ⟨before, front, hfirst, hbehind⟩ :=
                ih (List.forall_mem_cons.mpr ⟨hdigit, hrun⟩) h
              rw [List.reverse_cons, List.append_assoc] at hbehind
              exact ⟨c :: before, front, hfirst.cons hc, hbehind⟩
          · next hdigit =>
              obtain ⟨before, front, hfirst, hbehind⟩ := ih (List.forall_mem_nil _) h
              exact ⟨c :: before, _, hfirst.cons hc, hbehind.append_left run.reverse hdigit⟩

/-- The scan misses no group. -/
theorem findDice?_append (run before : List Char) (h : DigitAhead after) :
    findDice? run (before ++ 'd' :: after) ≠ none := by
  induction before generalizing run with
  | nil =>
      rw [List.nil_append, findDice?, if_pos ⟨rfl, startsWithDigit_iff.mpr h⟩]
      exact Option.some_ne_none _
  | cons c before ih =>
      rw [List.cons_append, findDice?]
      split
      · exact Option.some_ne_none _
      · split
        · exact ih (c :: run)
        · exact ih []

/-- The scan finds exactly the leftmost group. -/
theorem findDice?_eq_some_iff : findDice? [] cs = some (count, after) ↔
    ∃ before front, FirstDice cs before after ∧ RunBehind before front count := by
  constructor
  · exact firstDice_of_findDice? (List.forall_mem_nil _)
  · rintro ⟨before, front, hfirst, hbehind⟩
    have hsome : findDice? [] cs ≠ none := by
      rw [hfirst.eq_append]
      exact findDice?_append [] before hfirst.digit
    obtain ⟨⟨count', after'⟩, hfound⟩ := Option.ne_none_iff_exists'.mp hsome
    obtain ⟨before', front', hfirst', hbehind'⟩ :=
      firstDice_of_findDice? (List.forall_mem_nil _) hfound
    obtain ⟨rfl, rfl⟩ := hfirst.unique hfirst'
    rw [hfound, hbehind.unique hbehind']

/-! ### Behind the sides -/

/-- The letters of a keep rule, and whether they keep the lowest dice. -/
inductive KeepLetters : List Char → Bool → Prop
  | kh : KeepLetters ['k', 'h'] false
  | kl : KeepLetters ['k', 'l'] true
  | k : KeepLetters ['k'] false
  | h : KeepLetters ['h'] false
  | l : KeepLetters ['l'] true

/-- The letters of a keep rule with digits directly behind them: whether they keep the lowest dice,
the longest run of those digits, and what follows it. -/
inductive KeepSuffix : List Char → Bool → List Char → List Char → Prop
  | intro {letters cs ds rest : List Char} {lowest : Bool} (hletters : KeepLetters letters lowest)
      (hrun : Run cs ds rest) (hne : ds ≠ []) : KeepSuffix (letters ++ cs) lowest ds rest

/-- A sign with digits directly behind it: whether it is negative, the longest run of those digits,
and what follows it. -/
inductive SignedRun : List Char → Bool → List Char → List Char → Prop
  | intro {c : Char} {cs ds rest : List Char} {negative : Bool} (hsign : Sign [c] negative)
      (hrun : Run cs ds rest) (hne : ds ≠ []) : SignedRun (c :: cs) negative ds rest

theorem SignedRun.digits (h : SignedRun cs negative ds rest) :
    ∀ d ∈ ds, isDecimalDigit d = true := by
  obtain ⟨-, hrun, -⟩ := h
  exact hrun.digits

theorem SignedRun.rest_unique {negative' : Bool} (h : SignedRun cs negative ds rest)
    (h' : SignedRun cs negative' ds' rest') : rest = rest' := by
  obtain ⟨-, hrun, -⟩ := h
  obtain ⟨-, hrun', -⟩ := h'
  exact (Prod.mk.inj ((run_iff.mp hrun).symm.trans (run_iff.mp hrun'))).2

/-- A digit is no letter, so `k` before one is the whole of the letters. -/
theorem keepSuffix?_letters {letters : List Char} (hletters : KeepLetters letters lowest)
    (h : DigitAhead cs) :
    keepSuffix? (letters ++ cs) = some ((lowest, (splitDigits cs).1), (splitDigits cs).2) := by
  have hstarts : startsWithDigit cs = true := startsWithDigit_iff.mpr h
  cases hletters with
  | kh => exact if_pos hstarts
  | kl => exact if_pos hstarts
  | h => exact if_pos hstarts
  | l => exact if_pos hstarts
  | k =>
      obtain ⟨d, rest, rfl⟩ : ∃ d rest, cs = d :: rest := by
        cases cs with
        | nil => exact absurd h not_digitAhead_nil
        | cons d rest => exact ⟨d, rest, rfl⟩
      have hdigit : isDecimalDigit d = true := digitAhead_cons.mp h
      rw [List.singleton_append]
      unfold keepSuffix?
      split
      · next heq => cases heq; exact absurd hdigit (by decide)
      · next heq => cases heq; exact absurd hdigit (by decide)
      · next heq => cases heq; exact if_pos hstarts
      · next heq => cases heq
      · next heq => cases heq
      · next hno _ _ => exact absurd rfl (hno (d :: rest))

/-- What `keepSuffix?` answers behind each kind of letters is a suffix with those letters. -/
theorem keepSuffix_of_letters {letters : List Char} {lowest' : Bool}
    (hletters : KeepLetters letters lowest')
    (h : (if startsWithDigit cs then some ((lowest', (splitDigits cs).1), (splitDigits cs).2)
      else none) = some ((lowest, ds), rest)) : KeepSuffix (letters ++ cs) lowest ds rest := by
  split at h
  · next hstarts =>
      cases h
      have hrun := run_splitDigits cs
      exact .intro hletters hrun (hrun.ne_nil_iff.mpr (startsWithDigit_iff.mp hstarts))
  · cases h

theorem keepSuffix?_eq_some_iff :
    keepSuffix? cs = some ((lowest, ds), rest) ↔ KeepSuffix cs lowest ds rest := by
  constructor
  · intro h
    unfold keepSuffix? at h
    split at h
    · exact keepSuffix_of_letters .kh h
    · exact keepSuffix_of_letters .kl h
    · exact keepSuffix_of_letters .k h
    · exact keepSuffix_of_letters .h h
    · exact keepSuffix_of_letters .l h
    · cases h
  · rintro ⟨hletters, hrun, hne⟩
    rw [keepSuffix?_letters hletters (hrun.ne_nil_iff.mp hne), run_iff.mp hrun]

theorem sign_singleton_iff : Sign [c] negative ↔ isSign c = true ∧ (c == '-') = negative := by
  constructor
  · intro h
    cases h with
    | plus => exact ⟨rfl, rfl⟩
    | minus => exact ⟨rfl, rfl⟩
  · rintro ⟨hsign, rfl⟩
    rw [isSign, Bool.or_eq_true, beq_iff_eq, beq_iff_eq] at hsign
    rcases hsign with rfl | rfl
    · exact .plus
    · exact .minus

/-- Behind a sign, the digits are a modifier unless a `d` follows them. -/
theorem modifierSuffix?_eq_some_iff : modifierSuffix? cs = some (negative, ds) ↔
    ∃ rest, SignedRun cs negative ds rest ∧ rest.head? ≠ some 'd' := by
  cases cs with
  | nil => exact iff_of_false nofun nofun
  | cons c cs =>
      rw [modifierSuffix?, Option.ite_none_right_eq_some, Bool.and_eq_true, Bool.and_eq_true,
        startsWithDigit_iff, bne_iff_ne]
      constructor
      · rintro ⟨⟨⟨hsign, hahead⟩, hgroup⟩, hanswer⟩
        cases hanswer
        have hrun := run_splitDigits cs
        exact ⟨_, .intro (sign_singleton_iff.mpr ⟨hsign, rfl⟩) hrun
          (hrun.ne_nil_iff.mpr hahead), hgroup⟩
      · rintro ⟨rest, ⟨hsign, hrun, hne⟩, hgroup⟩
        obtain ⟨hmark, rfl⟩ := sign_singleton_iff.mp hsign
        rw [run_iff.mp hrun]
        exact ⟨⟨⟨hmark, hrun.ne_nil_iff.mp hne⟩, hgroup⟩, rfl⟩

/-! ### A signed number alone -/

/-- An optional sign and digits, and nothing else. -/
inductive SignedDigits : List Char → Prop
  | intro {sign ds : List Char} {negative : Bool} (hsign : Sign sign negative) (hne : ds ≠ [])
      (hds : ∀ d ∈ ds, isDecimalDigit d = true) : SignedDigits (sign ++ ds)

theorem isSign_of_isDecimalDigit (h : isDecimalDigit c = true) : isSign c = false := by
  rw [isSign, Bool.or_eq_false_iff, beq_eq_false_iff_ne, beq_eq_false_iff_ne]
  exact (Text.ne_sign_of_isDecimalDigit h).symm

/-- Behind a sign, or without one, only the digits are looked at. -/
theorem isSignedDigits_append {sign : List Char} (hsign : Sign sign negative)
    (hds : ∀ d ∈ ds, isDecimalDigit d = true) :
    isSignedDigits (sign ++ ds) = (!ds.isEmpty && ds.all isDecimalDigit) := by
  cases hsign with
  | plus => rfl
  | minus => rfl
  | absent =>
      cases ds with
      | nil => rfl
      | cons d ds =>
          rw [List.nil_append, isSignedDigits,
            isSign_of_isDecimalDigit (hds d List.mem_cons_self)]
          rfl

theorem isSignedDigits_iff : isSignedDigits cs = true ↔ SignedDigits cs := by
  constructor
  · intro h
    cases cs with
    | nil => cases h
    | cons c cs =>
        simp only [isSignedDigits, Bool.and_eq_true, Bool.not_eq_true', List.isEmpty_eq_false_iff,
          List.all_eq_true] at h
        split at h
        · next hsign => exact .intro (sign_singleton_iff.mpr ⟨hsign, rfl⟩) h.1 h.2
        · exact .intro .absent h.1 h.2
  · rintro ⟨hsign, hne, hds⟩
    rw [isSignedDigits_append hsign hds, List.isEmpty_eq_false_iff.mpr hne,
      List.all_eq_true.mpr hds]
    rfl

end Tabletop.Formula
