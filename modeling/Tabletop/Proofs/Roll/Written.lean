import Tabletop.Proofs.Formula.Canonical
import Tabletop.Roll.Roller

/-!
# Roll — written formulas

A formula can be rolled as it is, or written down and rolled as a text.  What is read back from its
canonical text is the formula itself; only a formula without dice may have said something about
them, and that is lost (`eq_of_parse_render`).  What is lost has no part in a roll
(`rollWith_ofModifier`), and the canonical text has no blanks at its ends that would be cut off
(`trim_render`).

`roll_render`: wherever the canonical text is read at all, both ways give the same roll and leave
the same roller.
-/

namespace Tabletop

namespace Text

variable {cs : List Char}

theorem dropWhile_isBlank_eq_self (h : ∀ c ∈ cs.head?, isBlank c = false) :
    cs.dropWhile isBlank = cs := by
  cases cs with
  | nil => rfl
  | cons c cs => exact List.dropWhile_cons_of_neg (Bool.eq_false_iff.mp (h c rfl))

/-- Nothing is trimmed off a text that neither begins nor ends with a blank. -/
theorem trim_eq_self (hfirst : ∀ c ∈ cs.head?, isBlank c = false)
    (hlast : ∀ c ∈ cs.getLast?, isBlank c = false) : trim cs = cs := by
  rw [← List.head?_reverse] at hlast
  rw [trim, dropWhile_isBlank_eq_self hfirst, dropWhile_isBlank_eq_self hlast, List.reverse_reverse]

end Text

namespace Formula

open Text (Numeral)

variable {f g : Formula} {ds rest : List Char} {mode : Mode} {keep keep' : Option KeepRule}
  {n m : Nat} {v w : Int}

/-! ### What is read back -/

theorem Throws.eq_of_numeral (h : Throws ds n) (hds : Numeral ds m) : n = m := by
  cases h with
  | one => exact absurd rfl hds.ne_nil
  | numeral h => exact h.unique hds

/-- A keep rule is read back from what spells it, in front of a modifier. -/
theorem Keeps.eq_of_spellKeep
    (h : Keeps (spellKeep keep ++ (spellModifier v).toList) keep' rest) :
    keep' = keep ∧ rest = (spellModifier v).toList := by
  rcases spellKeep_cases keep with ⟨rfl, htext⟩ | ⟨c, lowest, n, hletters, -, htext, rfl⟩
  · rw [htext, List.nil_append] at h
    cases h with
    | rule hsuffix => exact absurd hsuffix (not_keepSuffix_spellModifier v _ _ _)
    | absent => exact ⟨rfl, rfl⟩
  · have hspelled := keepSuffix?_eq_some_iff.mpr (keepSuffix_spelled hletters n v)
    rw [htext] at h
    cases h with
    | rule hsuffix hds =>
        obtain ⟨⟨rfl, rfl⟩, rfl⟩ :=
          Option.some.inj ((keepSuffix?_eq_some_iff.mpr hsuffix).symm.trans hspelled)
        rw [hds.unique (Text.numeral_toString n)]
        exact ⟨rfl, rfl⟩
    | absent hno => exact absurd (keepSuffix_spelled hletters n v) (hno _ _ _)

/-- A modifier is read back from what spells it. -/
theorem Modifies.eq_of_spellModifier (h : Modifies (spellModifier v).toList w) : w = v := by
  rcases spellModifier_cases v with ⟨rfl, htext⟩ | ⟨c, negative, hsign, htext, hvalue⟩
  · rw [htext] at h
    cases h with
    | amount hrun => cases hrun
    | group => rfl
    | absent => rfl
  · have hspelled := signedRun_spelled hsign v.natAbs
    rw [htext] at h
    cases h with
    | amount hrun hgroup hds =>
        obtain ⟨rfl, rfl⟩ := Option.some.inj
          ((modifierSuffix?_eq_some_iff.mpr ⟨_, hrun, hgroup⟩).symm.trans
            (modifierSuffix?_eq_some_iff.mpr ⟨_, hspelled, nofun⟩))
        rw [hds.unique (Text.numeral_toString _), ← hvalue]
    | group hrun => exact absurd (hrun.rest_unique hspelled) (List.cons_ne_nil _ _)
    | absent hno => exact absurd hspelled (hno _ _ _)

/-- With dice, only the formula itself is read back from its core. -/
theorem eq_of_derives_core (h : f.count ≠ 0) (hg : Derives mode f.core g) :
    g = { f with mode } := by
  have hcount := Text.numeral_toString f.count
  have hsides := Text.numeral_toString f.sides
  have hcore := core_of_count_ne h
  generalize f.core = cs at hcore hg
  cases hg with
  | modifier hsign hds =>
      have hshape := SignedDigits.intro hsign hds.ne_nil hds.isDecimalDigit
      rw [hcore] at hshape
      exact absurd (List.mem_append_right _ List.mem_cons_self) hshape.not_mem
  | dice _ hfirst hbefore hn _ hrun hm _ _ hkeep hmodifier =>
      rw [hcore] at hfirst
      obtain ⟨rfl, rfl⟩ := hfirst.unique
        (firstDice_append (not_mem_toString f.count) (digitAhead_toString f.sides).append)
      obtain rfl := hbefore.unique
        ⟨(List.nil_append _).symm, hcount.isDecimalDigit, not_digitBehind_nil⟩
      obtain ⟨rfl, rfl⟩ := Prod.mk.inj ((run_iff.mp hrun).symm.trans (run_iff.mp
        ⟨rfl, hsides.isDecimalDigit, not_digitAhead_spellKeep f.keep f.modifier⟩))
      obtain ⟨rfl, rfl⟩ := hkeep.eq_of_spellKeep
      rw [hn.eq_of_numeral hcount, hm.unique hsides, hmodifier.eq_of_spellModifier]

/-- What is read back from the canonical text is the formula, or, if it has no dice, its modifier
and its mode. -/
theorem eq_of_parse_render (h : parse f.render = .ok g) :
    g = f ∨ f.count = 0 ∧ g = ofModifier f.modifier f.mode := by
  have hg := parse_render_iff.mp h
  by_cases hcount : f.count = 0
  · exact .inr ⟨hcount, ((derives_modifier_iff hcount).mp hg).2⟩
  · exact .inl (eq_of_derives_core hcount hg)

/-! ### The ends of the canonical text -/

theorem core_ne_nil (f : Formula) : f.core ≠ [] := by
  by_cases h : f.count = 0
  · obtain ⟨sign, negative, -, htext, -⟩ := Text.toList_toString_int f.modifier
    rw [core_of_isModifierOnly h, htext]
    exact List.append_ne_nil_of_right_ne_nil _ (Text.numeral_toString _).ne_nil
  · rw [core_of_count_ne h]
    exact List.append_ne_nil_of_right_ne_nil _ (List.cons_ne_nil _ _)

/-- The canonical text begins and ends with no blank. -/
theorem trim_render (f : Formula) : Text.trim f.render.toList = f.render.toList := by
  have hcore : ∀ c ∈ f.core, Text.isBlank c = false :=
    forall_mem_core (fun _ h => h.visible) (by decide) f
  have hmode : ∀ c ∈ (spellMode f.mode).toList.getLast?, Text.isBlank c = false := by
    refine (Option.any_eq_false Text.isBlank _).mp ?_
    cases f.mode <;> rfl
  obtain ⟨c, cs, hcs⟩ := List.exists_cons_of_ne_nil f.core_ne_nil
  rw [toList_render]
  refine Text.trim_eq_self (fun c' hc' => ?_) fun c' hc' => ?_
  · rw [hcs, List.cons_append, List.head?_cons, Option.mem_some_iff] at hc'
    exact hc' ▸ hcore c (hcs ▸ List.mem_cons_self)
  · rw [List.getLast?_append, Option.mem_def, Option.or_eq_some_iff] at hc'
    rcases hc' with hlast | ⟨-, hlast⟩
    · exact hmode c' hlast
    · exact hcore c' (List.mem_of_getLast? hlast)

/-! ### The same roll -/

/-- What a formula without dice says about them has no part in a roll. -/
theorem rollWith_ofModifier (h : f.count = 0) (text : String) (label : Option String)
    (dice : Dice) :
    (ofModifier f.modifier f.mode).rollWith text label dice = f.rollWith text label dice := by
  have hnone : f.isModifierOnly = true := beq_iff_eq.mpr h
  have hthrow : f.throw dice = (⟨[], [], [], .normal⟩, dice) := if_pos hnone
  have hthrow' : (ofModifier f.modifier f.mode).throw dice = (⟨[], [], [], .normal⟩, dice) := rfl
  have hface (face : Nat) : (f.isSingleD20 && ([] : List Nat) == [face]) = false :=
    Bool.and_false _
  have hface' (face : Nat) :
      ((ofModifier f.modifier f.mode).isSingleD20 && ([] : List Nat) == [face]) = false :=
    Bool.and_false _
  simp only [rollWith, record, hthrow, hthrow', hface, hface']
  rfl

end Formula

namespace Roller

variable {f g : Formula}

/-- **A formula and its text roll the same.**  Where the canonical text of a formula is read, rolling
the text and rolling the formula give the same roll, and leave the same dice and the same history. -/
theorem roll_render (h : Formula.parse f.render = .ok g) (r : Roller) (label : Option String) :
    r.roll f.render label = r.rollFormula f label := by
  have hsame : g.rollWith f.render label r.dice = f.rollWith f.render label r.dice := by
    rcases Formula.eq_of_parse_render h with rfl | ⟨hcount, rfl⟩
    · rfl
    · exact Formula.rollWith_ofModifier hcount _ _ _
  calc r.roll f.render label
    _ = r.remember (g.rollWith (String.ofList (Text.trim f.render.toList)) label r.dice) := by
      rw [roll, h]
    _ = r.remember (g.rollWith f.render label r.dice) := by
      rw [f.trim_render, String.ofList_toList]
    _ = r.rollFormula f label := by rw [hsame, rollFormula]

/-- A formula without dice, of which the text keeps the modifier and the mode only. -/
theorem roll_render_modifier :
    let f : Formula := ⟨0, 6, -3, some (.highest 1), .advantage⟩
    let r : Roller := ⟨.ofFaces [4, 2], #[Roll.failed "d" none "no dice group found"]⟩
    Formula.parse f.render = .ok ⟨0, 0, -3, none, .advantage⟩ ∧
      r.roll f.render (some "Curse") = r.rollFormula f (some "Curse") := by
  intro f r
  have hparse : Formula.parse f.render = .ok ⟨0, 0, -3, none, .advantage⟩ := by decide
  exact ⟨hparse, roll_render hparse r _⟩

end Roller

end Tabletop
