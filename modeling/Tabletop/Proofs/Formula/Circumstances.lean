import Mathlib.Algebra.Group.Nat.Even
import Mathlib.Data.List.Chain
import Mathlib.Data.List.Induction
import Tabletop.Proofs.Formula.Canonical

/-!
# Formula — circumstances

What the mode keywords of a text come to.  By their kinds (`Mode.ofKinds`) circumstances of one kind
give that mode, and the two kinds together cancel, whatever their number and order.  But
circumstances are combined one after the other, and what has cancelled is forgotten: a third one
counts again.  So it depends on how a row of them ends (`Mode.EndsIn`), on the longest end in which
each is of another kind than the one before it.  If that is even it has cancelled, and if it is odd
its last circumstance is left (`EndsIn.combineAll`).

`keywords_cancel_iff`: a text is read in the mode that the kinds of its keywords give, unless there
are both kinds and that end is odd (`not_cancelled_by_third`).
-/

namespace Tabletop

namespace Mode

variable {modes front run : List Mode} {m m' s : Mode}

/-- The mode that circumstances give by their kinds: that of the only kind, and none of both. -/
def ofKinds (modes : List Mode) : Mode :=
  ofFlags (decide (.advantage ∈ modes)) (decide (.disadvantage ∈ modes))

/-- Of a row of circumstances, without those that make no difference, `run` is the longest end in
which each is of another kind than the one before it, and `front` is what stands before it. -/
structure EndsIn (modes front run : List Mode) : Prop where
  /-- What stands before it and the end are all. -/
  eq_append : modes.filter (· ≠ .normal) = front ++ run
  /-- The kinds alternate. -/
  alternates : run.IsChain (· ≠ ·)
  /-- The one before it is of the kind with which it begins. -/
  longest : ∀ m ∈ front.getLast?, m ∈ run.head?

/-- What a row that alternates comes to. -/
def leftOver (run : List Mode) : Mode :=
  if Even run.length then .normal else run.getLast?.getD .normal

/-! ### Two circumstances -/

theorem combine_self (m : Mode) : combine m m = m := by cases m <;> rfl

theorem combine_of_ne (hm : m ≠ .normal) (hm' : m' ≠ .normal) (h : m ≠ m') :
    combine m m' = .normal := by
  cases m with
  | normal => exact absurd rfl hm
  | advantage =>
      cases m' with
      | normal => exact absurd rfl hm'
      | advantage => exact absurd rfl h
      | disadvantage => rfl
  | disadvantage =>
      cases m' with
      | normal => exact absurd rfl hm'
      | advantage => rfl
      | disadvantage => exact absurd rfl h

/-- The same circumstance twice counts, whatever was there before. -/
theorem combine_combine_self (hm : m ≠ .normal) (s : Mode) : combine (combine s m) m = m := by
  by_cases hs : s = .normal
  · rw [hs, normal_combine, combine_self]
  · by_cases h : s = m
    · rw [h, combine_self, combine_self]
    · rw [combine_of_ne hs hm h, normal_combine]

theorem combineAll_concat (modes : List Mode) (m : Mode) :
    combineAll (modes ++ [m]) = combine (combineAll modes) m :=
  List.foldl_concat combine .normal m modes

theorem combineAll_filter (modes : List Mode) :
    combineAll (modes.filter (· ≠ .normal)) = combineAll modes := by
  have hstep : (fun s m => if decide (m ≠ .normal) = true then combine s m else s) = combine := by
    funext s m
    cases m with
    | normal => exact (combine_normal s).symm
    | advantage | disadvantage => rfl
  rw [combineAll, List.foldl_filter, hstep, combineAll]

/-! ### How a row ends -/

theorem EndsIn.ne_normal (h : EndsIn modes front run) : ∀ m ∈ run, m ≠ .normal := by
  intro m hm
  have hfilter : m ∈ modes.filter (· ≠ .normal) := h.eq_append ▸ List.mem_append_right _ hm
  exact of_decide_eq_true (List.mem_filter.mp hfilter).2

/-- Every row has such an end: one circumstance more goes on with it, or begins it anew. -/
theorem exists_endsIn (modes : List Mode) : ∃ front run, EndsIn modes front run := by
  suffices hrow : ∀ row : List Mode, ∃ front run, row = front ++ run ∧ run.IsChain (· ≠ ·) ∧
      ∀ m ∈ front.getLast?, m ∈ run.head? by
    obtain ⟨front, run, heq, halternates, hlongest⟩ := hrow (modes.filter (· ≠ .normal))
    exact ⟨front, run, heq, halternates, hlongest⟩
  intro row
  induction row using List.reverseRecOn with
  | nil => exact ⟨[], [], rfl, .nil, nofun⟩
  | append_singleton row m ih =>
      obtain ⟨front, run, rfl, halternates, hlongest⟩ := ih
      by_cases hm : m ∈ run.getLast?
      · refine ⟨front ++ run, [m], rfl, .singleton m, fun m' hm' => ?_⟩
        rw [List.getLast?_append, Option.mem_def.mp hm] at hm'
        exact hm'
      · refine ⟨front, run ++ [m], List.append_assoc .., ?_, fun m' hm' => ?_⟩
        · refine List.isChain_append.mpr ⟨halternates, .singleton m, ?_⟩
          rintro m' hm' _ ⟨⟩ rfl
          exact hm hm'
        · rw [List.head?_append, Option.mem_def.mp (hlongest m' hm')]
          rfl

theorem leftOver_cons_cons (m m' : Mode) (h : run ≠ []) :
    leftOver (m :: m' :: run) = leftOver run := by
  obtain ⟨m'', run, rfl⟩ := List.exists_cons_of_ne_nil h
  simp only [leftOver, List.length_cons, List.getLast?_cons_cons, Nat.even_add_one, not_not]

theorem leftOver_eq_normal_iff (h : ∀ m ∈ run, m ≠ .normal) :
    leftOver run = .normal ↔ Even run.length := by
  rw [leftOver]
  split
  · next heven => exact iff_of_true rfl heven
  · next hodd =>
      refine iff_of_false (fun hlast => ?_) hodd
      cases hrun : run.getLast? with
      | none =>
          rw [List.getLast?_eq_none_iff.mp hrun] at hodd
          exact hodd Even.zero
      | some m =>
          rw [hrun, Option.getD_some] at hlast
          exact h m (List.mem_of_getLast? hrun) hlast

/-- In a row that alternates, the second circumstance cancels the first, and the third stands
alone. -/
theorem foldl_alternating : ∀ {m : Mode} {run : List Mode}, (m :: run).IsChain (· ≠ ·) →
    (∀ m' ∈ m :: run, m' ≠ .normal) → run.foldl combine m = leftOver (m :: run)
  | m, [], _, _ => rfl
  | m, [m'], halternates, hne => by
      have hcancel : combine m m' = .normal := combine_of_ne (hne m List.mem_cons_self)
        (hne m' (List.mem_cons_of_mem _ List.mem_cons_self))
        (List.isChain_cons_cons.mp halternates).1
      rw [List.foldl_cons, hcancel]
      exact (if_pos ⟨1, rfl⟩).symm
  | m, m' :: m'' :: run, halternates, hne => by
      obtain ⟨hm, halternates⟩ := List.isChain_cons_cons.mp halternates
      obtain ⟨hm₀, hm'₀, hne⟩ := List.forall_mem_cons.mp hne |>.imp_right List.forall_mem_cons.mp
      have hcancel : combine m m' = .normal := combine_of_ne hm₀ hm'₀ hm
      rw [List.foldl_cons, hcancel, List.foldl_cons, normal_combine,
        leftOver_cons_cons m m' (List.cons_ne_nil m'' run)]
      exact foldl_alternating (List.isChain_cons_cons.mp halternates).2 hne

/-- What a row of circumstances comes to, by its end. -/
theorem EndsIn.combineAll (h : EndsIn modes front run) : Mode.combineAll modes = leftOver run := by
  rw [← combineAll_filter, h.eq_append]
  cases hrun : run with
  | nil =>
      have hfront : front = [] := by
        refine List.getLast?_eq_none_iff.mp (Option.eq_none_iff_forall_not_mem.mpr fun m hm => ?_)
        exact nomatch hrun ▸ h.longest m hm
      rw [hfront]
      rfl
  | cons m rest =>
      have hne : ∀ m' ∈ m :: rest, m' ≠ .normal := hrun ▸ h.ne_normal
      -- the one before `run` is of the kind of `m`, so `m` counts
      have hm : combine (Mode.combineAll front) m = m := by
        rcases List.eq_nil_or_concat front with rfl | ⟨front, m', rfl⟩
        · exact normal_combine m
        · have hsame : m' ∈ run.head? := h.longest m' (by simp)
          rw [hrun] at hsame
          obtain rfl := Option.some.inj hsame
          rw [List.concat_eq_append, combineAll_concat]
          exact combine_combine_self (hne m List.mem_cons_self) _
      rw [Mode.combineAll, List.foldl_append, List.foldl_cons]
      exact (congrArg (rest.foldl combine) hm).trans (foldl_alternating (hrun ▸ h.alternates) hne)

/-! ### Circumstances by their kinds -/

/-- One circumstance more, as long as it brings no second kind. -/
theorem combine_ofFlags {a d : Bool} {m : Mode}
    (h : ((a || decide (.advantage = m)) && (d || decide (.disadvantage = m))) = false) :
    combine (ofFlags a d) m =
      ofFlags (a || decide (.advantage = m)) (d || decide (.disadvantage = m)) := by
  cases m <;> revert a d <;> decide

theorem ofKinds_concat (modes : List Mode) (m : Mode) :
    ofKinds (modes ++ [m]) =
      ofFlags (decide (.advantage ∈ modes) || decide (.advantage = m))
        (decide (.disadvantage ∈ modes) || decide (.disadvantage = m)) := by
  simp only [ofKinds, List.mem_append, List.mem_singleton, Bool.decide_or]

theorem combineAll_eq_ofKinds (h : ¬ (.advantage ∈ modes ∧ .disadvantage ∈ modes)) :
    combineAll modes = ofKinds modes := by
  induction modes using List.reverseRecOn with
  | nil => rfl
  | append_singleton modes m ih =>
      have hmodes : combineAll modes = ofKinds modes :=
        ih fun hboth => h (hboth.imp (List.mem_append_left _) (List.mem_append_left _))
      rw [combineAll_concat, hmodes, ofKinds_concat]
      refine combine_ofFlags (Bool.eq_false_iff.mpr fun hboth => h ?_)
      simpa only [List.mem_append, List.mem_singleton, Bool.and_eq_true, Bool.or_eq_true,
        decide_eq_true_iff] using hboth

/-- The kinds decide, unless there are both and the end is odd. -/
theorem EndsIn.combineAll_eq_ofKinds_iff (h : EndsIn modes front run) :
    Mode.combineAll modes = ofKinds modes ↔
      (.advantage ∈ modes → .disadvantage ∈ modes → Even run.length) := by
  by_cases hboth : .advantage ∈ modes ∧ .disadvantage ∈ modes
  · obtain ⟨ha, hd⟩ := hboth
    have hkinds : ofKinds modes = .normal := by
      rw [ofKinds, decide_eq_true ha, decide_eq_true hd]
      rfl
    rw [hkinds, h.combineAll, leftOver_eq_normal_iff h.ne_normal]
    exact ⟨fun heven _ _ => heven, fun heven => heven ha hd⟩
  · exact iff_of_true (combineAll_eq_ofKinds hboth) fun ha hd => absurd ⟨ha, hd⟩ hboth

end Mode

namespace Formula

variable {f : Formula} {text : String} {modes : List Mode} {rest : List Char}

/-- A text is read in the mode that its keywords come to. -/
theorem mode_of_parse (h : parse text = .ok f)
    (hstripped : Stripped (Text.lowercase text.toList) modes rest) :
    f.mode = Mode.combineAll modes := by
  rw [parse_eq_ok_iff_readCore hstripped, readCore_eq_ok_iff] at h
  exact h.limits.1

/-- **When circumstances cancel.**  A row of circumstances comes to what the longest end leaves over
in which the kinds alternate.  That is the mode which the kinds give, whatever their number and
order, exactly unless there are both kinds and this end is odd.  So it is with the mode of a text
that is a formula, and the keywords in it. -/
theorem keywords_cancel_iff (modes : List Mode) (text : String) :
    (∃ front run, Mode.EndsIn modes front run ∧ Mode.combineAll modes = Mode.leftOver run ∧
      (Mode.combineAll modes = Mode.ofKinds modes ↔
        (.advantage ∈ modes → .disadvantage ∈ modes → Even run.length))) ∧
      ∃ words rest front run, Stripped (Text.lowercase text.toList) words rest ∧
        Mode.EndsIn words front run ∧
        ∀ f, parse text = .ok f → (f.mode = Mode.ofKinds words ↔
          (.advantage ∈ words → .disadvantage ∈ words → Even run.length)) := by
  constructor
  · obtain ⟨front, run, hends⟩ := Mode.exists_endsIn modes
    exact ⟨front, run, hends, hends.combineAll, hends.combineAll_eq_ofKinds_iff⟩
  · have hstripped := stripped_extractKeywords (Text.lowercase text.toList)
    obtain ⟨front, run, hends⟩ :=
      Mode.exists_endsIn (extractKeywords 0 (Text.lowercase text.toList)).1
    refine ⟨_, _, front, run, hstripped, hends, fun f h => ?_⟩
    rw [mode_of_parse h hstripped]
    exact hends.combineAll_eq_ofKinds_iff

/-- Four keywords, of which the last two cancel. -/
theorem keywords_cancel_iff_pair :
    parse "adv 1d20 dis dis adv" = .ok ⟨1, 20, 0, none, .normal⟩ ∧
      ∃ words rest front run,
        Stripped (Text.lowercase "adv 1d20 dis dis adv".toList) words rest ∧
        Mode.EndsIn words front run ∧
        (.normal = Mode.ofKinds words ↔
          (.advantage ∈ words → .disadvantage ∈ words → Even run.length)) := by
  have hparse : parse "adv 1d20 dis dis adv" = .ok ⟨1, 20, 0, none, .normal⟩ := by decide
  obtain ⟨-, words, rest, front, run, hstripped, hends, hmode⟩ :=
    keywords_cancel_iff [] "adv 1d20 dis dis adv"
  exact ⟨hparse, words, rest, front, run, hstripped, hends, hmode _ hparse⟩

/-- Two keywords of one kind and one of the other do not cancel in every order: the first two do,
and the third counts again. -/
theorem not_cancelled_by_third :
    let modes : List Mode := [.advantage, .disadvantage, .advantage]
    (∃ rest, Stripped (Text.lowercase "1d20 adv dis adv".toList) modes rest) ∧
      parse "1d20 adv dis adv" = .ok ⟨1, 20, 0, none, .advantage⟩ ∧
      Mode.ofKinds modes = .normal ∧ Mode.combineAll modes = .advantage ∧
      Mode.combineAll [.advantage, .advantage, .disadvantage] = .normal :=
  ⟨⟨"1d20   ".toList, extractKeywords_eq_iff.mp (by decide)⟩, by decide, rfl, rfl, rfl⟩

end Formula

end Tabletop
