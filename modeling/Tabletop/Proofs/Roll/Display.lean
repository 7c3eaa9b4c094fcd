import Tabletop.Proofs.Roll.Total

/-!
# Roll — the text of the dice

What a reader sees of a roll.  The faces are marked in the order thrown, and a face that was dropped
is taken off the list of dropped ones when it is met (`Roll.mark`), so that of several equal faces
as many are marked as were dropped (`perm_mark`).  The text with its parentheses, brackets and signs
is read by `readDice?`, and what it reads are the marked faces and the modifier
(`readDice?_diceText`).

`diceText_shows`: the text of a roll without an error shows each die once, with the dropped ones in
parentheses, and what it shows adds up to the total.
-/

namespace Tabletop

namespace Roll

variable {faces dropped kept : List Nat} {marks : List (Nat × Bool)} {r : Roll} {x : Char}

/-! ### Marked faces -/

/-- The faces that are marked. -/
def marked (marks : List (Nat × Bool)) : List Nat := (marks.filter (·.2)).map (·.1)

/-- The faces that are not marked. -/
def plain (marks : List (Nat × Bool)) : List Nat := (marks.filter fun m => !m.2).map (·.1)

theorem faces_mark (dropped faces : List Nat) : (mark dropped faces).map (·.1) = faces := by
  induction faces generalizing dropped with
  | nil => rfl
  | cons face faces ih =>
      rw [mark]
      split
      · rw [List.map_cons, ih]
      · rw [List.map_cons, ih]

/-- Where faces are divided into some that count and some that are dropped, the marked faces are the
dropped ones and the others those that count.  By induction on the faces: each of them is taken off
the part in which it is found. -/
theorem perm_mark (h : (kept ++ dropped).Perm faces) :
    (marked (mark dropped faces)).Perm dropped ∧ (plain (mark dropped faces)).Perm kept := by
  induction faces generalizing dropped kept with
  | nil =>
      obtain ⟨rfl, rfl⟩ := List.append_eq_nil_iff.mp h.eq_nil
      exact ⟨.nil, .nil⟩
  | cons face faces ih =>
      rw [mark]
      by_cases hm : face ∈ dropped
      · rw [if_pos hm]
        have herase : dropped.Perm (face :: dropped.erase face) := List.perm_cons_erase hm
        have hrest : (kept ++ dropped.erase face).Perm faces :=
          (List.perm_middle.symm.trans ((herase.symm.append_left kept).trans h)).cons_inv
        obtain ⟨hmarked, hplain⟩ := ih hrest
        exact ⟨(hmarked.cons face).trans herase.symm, hplain⟩
      · rw [if_neg hm]
        have hk : face ∈ kept :=
          (List.mem_append.mp (h.mem_iff.mpr List.mem_cons_self)).resolve_right hm
        have herase : kept.Perm (face :: kept.erase face) := List.perm_cons_erase hk
        have hrest : (kept.erase face ++ dropped).Perm faces :=
          ((herase.symm.append_right dropped).trans h).cons_inv
        obtain ⟨hmarked, hplain⟩ := ih hrest
        exact ⟨hmarked, (hplain.cons face).trans herase.symm⟩

/-! ### Reading the text -/

/-- A face, marked if it stands in parentheses. -/
def readMark? : List Char → Option (Nat × Bool)
  | '(' :: cs =>
    if cs.getLast? = some ')' then (Text.readNat? cs.dropLast).map fun face => (face, true)
    else none
  | cs => (Text.readNat? cs).map fun face => (face, false)

/-- A modifier behind dice; there need not be one. -/
def readModifier? (cs : List Char) : Option Int := if cs = [] then some 0 else Text.readInt? cs

/-- Faces, divided by commas, up to the bracket that closes the row, and the modifier behind it. -/
def readRow? (cs : List Char) : Option (List (Nat × Bool) × Int) :=
  match cs.dropWhile (· ≠ ']') with
  | [] => none
  | _ :: behind => do
    let marks ← ((cs.takeWhile (· ≠ ']')).splitOn ',').mapM readMark?
    let modifier ← readModifier? behind
    return (marks, modifier)

/-- The faces and the modifier that a text shows: a row of faces in brackets with the modifier
behind it, or a modifier alone.  Blanks do not matter. -/
def readDice? (text : String) : Option (List (Nat × Bool) × Int) :=
  match text.toList.filter (· ≠ ' ') with
  | '[' :: cs => readRow? cs
  | cs => (Text.readInt? cs).map fun modifier => ([], modifier)

example : readDice? "[17, (4)] - 5" = some ([(17, false), (4, true)], -5) := by decide

/-! ### What is written -/

theorem not_mem_digits (hx : Text.isAsciiDigit x = false) (n : Nat) : x ∉ (toString n).toList := by
  intro hm
  rw [(Text.numeral_toString n).isAsciiDigit x hm] at hx
  exact Bool.false_ne_true hx.symm

theorem readNat?_digits (n : Nat) : Text.readNat? (toString n).toList = some n :=
  Text.readNat?_eq_some_iff.mpr (Text.numeral_toString n)

theorem toList_markText_dropped (face : Nat) :
    (markText (face, true)).toList = '(' :: ((toString face).toList ++ [')']) := by
  have htext : markText (face, true) = "(" ++ toString face ++ ")" := rfl
  rw [htext, String.toList_append, String.toList_append]
  rfl

theorem readMark?_markText (m : Nat × Bool) : readMark? (markText m).toList = some m := by
  obtain ⟨face, _ | _⟩ := m
  · have hopen : '(' ∉ (toString face).toList := not_mem_digits (by decide) face
    rw [markText]
    unfold readMark?
    split
    · next cs h =>
        rw [h] at hopen
        exact absurd List.mem_cons_self hopen
    · rw [readNat?_digits, Option.map_some]
  · rw [toList_markText_dropped, readMark?, List.getLast?_concat, if_pos rfl, List.dropLast_concat,
      readNat?_digits, Option.map_some]

/-- A face is written in digits and parentheses. -/
theorem not_mem_markText (hx : Text.isAsciiDigit x = false) (hopen : x ≠ '(') (hclose : x ≠ ')')
    (m : Nat × Bool) : x ∉ (markText m).toList := by
  obtain ⟨face, _ | _⟩ := m
  · exact not_mem_digits hx face
  · rw [toList_markText_dropped]
    intro hm
    rcases List.mem_cons.mp hm with hm | hm
    · exact hopen hm
    · rcases List.mem_append.mp hm with hm | hm
      · exact not_mem_digits hx face hm
      · exact hclose (List.mem_singleton.mp hm)

/-- The texts of marked faces. -/
def markTexts (marks : List (Nat × Bool)) : List (List Char) :=
  (marks.map markText).map String.toList

theorem not_mem_of_mem_markTexts {part : List Char} (hx : Text.isAsciiDigit x = false)
    (hopen : x ≠ '(') (hclose : x ≠ ')') (hpart : part ∈ markTexts marks) : x ∉ part := by
  obtain ⟨text, htext, rfl⟩ := List.mem_map.mp hpart
  obtain ⟨m, -, rfl⟩ := List.mem_map.mp htext
  exact not_mem_markText hx hopen hclose m

theorem mapM_readMark? (marks : List (Nat × Bool)) :
    (markTexts marks).mapM readMark? = some marks := by
  unfold markTexts
  induction marks with
  | nil => rfl
  | cons m marks ih =>
      rw [List.map_cons, List.map_cons, List.mapM_cons, readMark?_markText, ih]
      rfl

theorem toList_modifierText (v : Int) :
    v = 0 ∧ (modifierText v).toList = [] ∨
      ∃ c negative, Text.Sign [c] negative ∧
        (modifierText v).toList = ' ' :: c :: ' ' :: (toString v.natAbs).toList ∧
        v = Text.signed negative v.natAbs := by
  by_cases hv : v = 0
  · subst hv
    exact .inl ⟨rfl, rfl⟩
  · rw [modifierText, if_neg hv]
    cases v with
    | ofNat n =>
        have hpos : 0 < Int.ofNat n := lt_of_le_of_ne (Int.natCast_nonneg n) (Ne.symm hv)
        rw [if_pos hpos]
        exact .inr ⟨'+', false, .plus, String.toList_append, rfl⟩
    | negSucc n => exact .inr ⟨'-', true, .minus, String.toList_append, rfl⟩

theorem not_mem_toString_int (hx : Text.isAsciiDigit x = false) (hplus : x ≠ '+')
    (hminus : x ≠ '-') (v : Int) : x ∉ (toString v).toList := by
  obtain ⟨sign, negative, hsign, htext, -⟩ := Text.toList_toString_int v
  rw [htext]
  intro hm
  rcases List.mem_append.mp hm with hm | hm
  · cases hsign with
    | absent => exact List.not_mem_nil hm
    | plus => exact hplus (List.mem_singleton.mp hm)
    | minus => exact hminus (List.mem_singleton.mp hm)
  · exact not_mem_digits hx _ hm

/-! ### What is read -/

theorem forall_ne_of_not_mem {cs : List Char} (h : x ∉ cs) : ∀ c ∈ cs, decide (c ≠ x) = true :=
  fun _ hc => decide_eq_true (ne_of_mem_of_not_mem hc h)

theorem filter_of_not_mem {cs : List Char} (h : x ∉ cs) : cs.filter (· ≠ x) = cs :=
  List.filter_eq_self.mpr (forall_ne_of_not_mem h)

theorem filter_intercalate {α : Type} (p : α → Bool) (sep : List α) (parts : List (List α)) :
    (sep.intercalate parts).filter p = (sep.filter p).intercalate (parts.map (List.filter p)) := by
  induction parts with
  | nil => rfl
  | cons part parts ih =>
      cases parts with
      | nil => simp
      | cons second rest =>
          rw [List.intercalate_cons_cons, List.map_cons, List.map_cons, List.intercalate_cons_cons,
            List.filter_append, List.filter_append, ih, List.map_cons]

/-- A character of no face is only dropped between the faces. -/
theorem filter_intercalate_markTexts (hx : Text.isAsciiDigit x = false) (hopen : x ≠ '(')
    (hclose : x ≠ ')') (sep : List Char) (marks : List (Nat × Bool)) :
    (sep.intercalate (markTexts marks)).filter (· ≠ x) =
      (sep.filter (· ≠ x)).intercalate (markTexts marks) := by
  have hparts : ∀ part ∈ markTexts marks, part.filter (· ≠ x) = id part := fun _ hpart =>
    filter_of_not_mem (not_mem_of_mem_markTexts hx hopen hclose hpart)
  rw [filter_intercalate, List.map_congr_left hparts, List.map_id]

theorem readRow?_append {row : List Char} (hrow : ']' ∉ row) (behind : List Char) :
    readRow? (row ++ ']' :: behind) = do
      let marks ← (row.splitOn ',').mapM readMark?
      let modifier ← readModifier? behind
      return (marks, modifier) := by
  have hopen := forall_ne_of_not_mem hrow
  rw [readRow?, List.dropWhile_append_of_pos hopen, List.takeWhile_append_of_pos hopen,
    List.dropWhile_cons_of_neg (by decide), List.takeWhile_cons_of_neg (by decide),
    List.append_nil]

theorem readModifier?_modifierText (v : Int) :
    readModifier? ((modifierText v).toList.filter (· ≠ ' ')) = some v := by
  rcases toList_modifierText v with ⟨rfl, htext⟩ | ⟨c, negative, hsign, htext, hv⟩
  · rw [htext]
    rfl
  · have hc : c ≠ ' ' := by
      rintro rfl
      cases hsign
    have hvisible : (modifierText v).toList.filter (· ≠ ' ') =
        c :: (toString v.natAbs).toList := by
      rw [htext, List.filter_cons_of_neg (by decide),
        List.filter_cons_of_pos (p := (· ≠ ' ')) (decide_eq_true hc),
        List.filter_cons_of_neg (by decide), filter_of_not_mem (not_mem_digits (by decide) _)]
    rw [hvisible, readModifier?, if_neg (List.cons_ne_nil _ _)]
    exact Text.readInt?_eq_some_iff.mpr
      ⟨[c], negative, _, _, hsign, Text.numeral_toString _, rfl, hv⟩

/-- Without dice the text is the modifier. -/
theorem diceText_of_faces_eq_nil (h : r.faces = []) : r.diceText = toString r.modifier := by
  rw [diceText, h]
  rfl

/-- The text of some dice, without its blanks. -/
theorem filter_diceText (hfaces : r.faces ≠ []) :
    r.diceText.toList.filter (· ≠ ' ') =
      '[' :: ([','].intercalate (markTexts (mark r.dropped r.faces)) ++
        ']' :: (modifierText r.modifier).toList.filter (· ≠ ' ')) := by
  have hempty : ¬r.faces.isEmpty = true := mt List.isEmpty_iff.mp hfaces
  rw [diceText, if_neg hempty, String.toList_append, String.toList_append, String.toList_append,
    String.toList_intercalate, List.filter_append, List.filter_append, List.filter_append,
    ← markTexts, filter_intercalate_markTexts (by decide) (by decide) (by decide),
    List.append_assoc, List.append_assoc]
  rfl

/-- **What the text of the dice is read as**: the marked faces and the modifier. -/
theorem readDice?_diceText (r : Roll) :
    readDice? r.diceText = some (mark r.dropped r.faces, r.modifier) := by
  by_cases hfaces : r.faces = []
  · -- nothing in an integer is taken for a bracket
    have hopen : '[' ∉ (toString r.modifier).toList :=
      not_mem_toString_int (by decide) (by decide) (by decide) _
    have hblank : ' ' ∉ (toString r.modifier).toList :=
      not_mem_toString_int (by decide) (by decide) (by decide) _
    rw [diceText_of_faces_eq_nil hfaces, readDice?, filter_of_not_mem hblank]
    split
    · next cs h =>
        rw [h] at hopen
        exact absurd List.mem_cons_self hopen
    · rw [Text.readInt?_toString, hfaces]
      rfl
  · -- no face contains a bracket or a comma: the row ends at its bracket, its parts are the faces
    have hrow : ']' ∉ [','].intercalate (markTexts (mark r.dropped r.faces)) := by
      have hfilter := filter_intercalate_markTexts (x := ']') (by decide) (by decide) (by decide)
        [','] (mark r.dropped r.faces)
      intro hm
      exact of_decide_eq_true (List.filter_eq_self.mp hfilter _ hm) rfl
    have hcomma : ∀ part ∈ markTexts (mark r.dropped r.faces), ',' ∉ part := fun _ =>
      not_mem_of_mem_markTexts (by decide) (by decide) (by decide)
    have hsome : markTexts (mark r.dropped r.faces) ≠ [] := by
      intro hnone
      rw [← faces_mark r.dropped r.faces] at hfaces
      exact hfaces (List.map_eq_nil_iff.mpr (List.map_eq_nil_iff.mp (List.map_eq_nil_iff.mp hnone)))
    rw [readDice?, filter_diceText hfaces]
    change readRow? _ = _
    rw [readRow?_append hrow, List.splitOn_intercalate _ hcomma hsome, mapM_readMark?,
      readModifier?_modifierText]
    rfl

/-! ### What a roll shows -/

/-- The text of a roll's dice shows marked faces and the modifier, and these are the roll. -/
structure Shows (r : Roll) (marks : List (Nat × Bool)) : Prop where
  /-- The faces and the modifier stand in the text. -/
  read : readDice? r.diceText = some (marks, r.modifier)
  /-- Each die is shown once, in the order thrown. -/
  faces : marks.map (·.1) = r.faces
  /-- The dice in parentheses are those that were dropped. -/
  marked : (marked marks).Perm r.dropped
  /-- The others are those that count. -/
  plain : (plain marks).Perm r.kept
  /-- The others and the modifier add up to the total. -/
  total : ((Roll.plain marks).sum : Int) + r.modifier = r.total
  /-- Without dice there is the modifier alone. -/
  bare : r.faces = [] → r.diceText = toString r.modifier ∧ r.modifier = r.total

/-- A roll whose dice either count or are dropped, and whose total is the sum of those that count
and the modifier, shows just that. -/
theorem shows_mark (hdice : (r.kept ++ r.dropped).Perm r.faces)
    (htotal : r.total = r.kept.sum + r.modifier) : r.Shows (mark r.dropped r.faces) := by
  obtain ⟨hmarked, hplain⟩ := perm_mark hdice
  exact {
    read := readDice?_diceText r
    faces := faces_mark r.dropped r.faces
    marked := hmarked
    plain := hplain
    total := by rw [hplain.sum_nat, htotal]
    bare := by
      intro hfaces
      rw [hfaces] at hdice
      have hkept : r.kept = [] := (List.append_eq_nil_iff.mp hdice.eq_nil).1
      rw [htotal, hkept, List.sum_nil, Int.natCast_zero, Int.zero_add]
      exact ⟨diceText_of_faces_eq_nil hfaces, rfl⟩ }

end Roll

namespace Roller

variable {roll : Roll}

/-- The rolls that a roller gives for a text, and for a formula within the limits on dice. -/
inductive Gives : Roll → Prop
  | text (r : Roller) (text : String) (label : Option String) : Gives (r.roll text label).1
  | formula (r : Roller) {f : Formula} (hcount : f.count ≤ Formula.maxCount)
      (hsides : f.sides ≤ Formula.maxSides) (label : Option String) :
      Gives (r.rollFormula f label).1

/-- A roll that is given without an error is on record for a formula within the limits. -/
theorem Gives.record (h : Gives roll) (hok : roll.error = none) :
    ∃ (f : Formula) (text : String) (label : Option String) (dice : Dice),
      f.count ≤ Formula.maxCount ∧ f.sides ≤ Formula.maxSides ∧
        roll = f.record text label (f.throw dice).1 := by
  cases h with
  | text r text label =>
      cases hparse : Formula.parse text with
      | ok f =>
          obtain ⟨hcount, hsides, -⟩ := Formula.limits_of_parse hparse
          exact ⟨f, _, label, r.dice, hcount, hsides,
            congrArg Prod.fst (roll_of_parse hparse r label)⟩
      | error e =>
          rw [Roller.roll, hparse] at hok
          exact absurd hok (Option.some_ne_none _)
  | @formula r f hcount hsides label => exact ⟨f, f.render, label, r.dice, hcount, hsides, rfl⟩

/-- **The text of the dice shows the roll.**  A reader of it finds each die once, in the order
thrown, the dropped ones in parentheses and those that count without; these and the modifier behind
them add up to the total.  Where no dice were thrown, the text is the modifier. -/
theorem diceText_shows (h : Gives roll) (hok : roll.error = none) :
    ∃ marks, roll.Shows marks := by
  obtain ⟨f, text, label, dice, hcount, hsides, rfl⟩ := h.record hok
  rw [Formula.record_eq_ite] at hok ⊢
  split_ifs at hok ⊢ with hfits
  · refine ⟨_, Roll.shows_mark (f.divides_throw dice).partition ?_⟩
    rw [Formula.sumOf_kept_throw hcount hsides]
  · exact nomatch hok

/-- Of three equal faces two are dropped, and the first two are marked. -/
theorem diceText_shows_equal_faces :
    let roll := ((ofDice (.ofFaces [3, 5, 3, 3])).roll "4d6k2-1" none).1
    roll.error = none ∧ roll.diceText = "[(3), 5, (3), 3] - 1" ∧ roll.total = 7 ∧
      ∃ marks, roll.Shows marks := by
  intro roll
  let f : Formula := ⟨4, 6, -1, some (.highest 2), .normal⟩
  have hparse : Formula.parse "4d6k2-1" = .ok f := by decide
  have hrow : (KeepRule.highest 2).sort [3, 5, 3, 3] = [5, 3, 3, 3] :=
    KeepRule.sort_eq_of_perm (by decide) (by decide)
  have hroll : roll = f.record "4d6k2-1" none ⟨[3, 5, 3, 3], [5, 3], [3, 3], .normal⟩ :=
    (congrArg Prod.fst (roll_of_parse hparse _ none)).trans
      (congrArg (fun row : List Nat =>
        f.record "4d6k2-1" none ⟨[3, 5, 3, 3], row.take 2, row.drop 2, .normal⟩) hrow)
  have hok : roll.error = none := congrArg Roll.error hroll
  exact ⟨hok, (congrArg Roll.diceText hroll).trans (by decide), congrArg Roll.total hroll,
    diceText_shows (.text _ _ _) hok⟩

end Roller

end Tabletop
