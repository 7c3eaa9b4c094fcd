import Tabletop.Proofs.Formula.Grammar

/-!
# Formula — the canonical text

Which formulas are read back from the text that `Formula.render` writes.  That text is a core, of
dice, keep rule and modifier or of a modifier alone, and the keyword of the mode behind it.  No
keyword begins inside the core, and it holds neither capitals nor blanks, so the text is read as
whatever the grammar derives from the core in the mode (`parse_render_iff`).

`canonical_read_back`: exactly the canonical formulas (`IsCanonical`) are read back, and the
canonical text of whatever has been read is read again, as a formula with the same text.
-/

namespace Tabletop.Formula

open Text (Numeral Sign signed isAsciiDigit isDecimalDigit)

variable {f g : Formula} {c : Char} {cs ds out rest : List Char} {mode : Mode} {modes : List Mode}
  {keep : Option KeepRule} {lowest : Bool} {n : Nat} {v : Int}

/-- The numbers of a formula are counts and amounts. -/
structure Fits (f : Formula) : Prop where
  count : f.count ≤ Count.greatest
  sides : f.sides ≤ Count.greatest
  modifier : Amount.Fits f.modifier
  keep : ∀ rule ∈ f.keep, rule.count ≤ Count.greatest

/-- The canonical text tells all of the formula: its dice are within the limits on written formulas
and its modifier has an opposite, or it has no dice and says nothing about them. -/
def IsCanonical (f : Formula) : Prop :=
  (1 ≤ f.count ∧ f.count ≤ maxCount ∧ 1 ≤ f.sides ∧ f.sides ≤ maxSides ∧
      Amount.least < f.modifier) ∨
    (f.count = 0 ∧ f.sides = 0 ∧ f.keep = none)

/-- The keep rule of a formula as it is spelled. -/
def spellKeep (keep : Option KeepRule) : List Char := ((keep.map KeepRule.spell).getD "").toList

/-- The canonical text without the keyword of the mode. -/
def core (f : Formula) : List Char :=
  if f.isModifierOnly then (toString f.modifier).toList
  else (toString f.count).toList ++ 'd' :: ((toString f.sides).toList ++
    (spellKeep f.keep ++ (spellModifier f.modifier).toList))

theorem toList_render (f : Formula) : f.render.toList = f.core ++ (spellMode f.mode).toList := by
  have hdice : f.spellDice =
      toString f.count ++ "d" ++ toString f.sides ++ (f.keep.map KeepRule.spell).getD "" := rfl
  rw [render, core, String.toList_append]
  split
  · rfl
  · rw [hdice]
    simp only [String.toList_append, spellKeep, List.append_assoc, List.cons_append]
    rfl

theorem core_of_isModifierOnly (h : f.count = 0) : f.core = (toString f.modifier).toList :=
  if_pos (beq_iff_eq.mpr h)

theorem core_of_count_ne (h : f.count ≠ 0) : f.core =
    (toString f.count).toList ++ 'd' :: ((toString f.sides).toList ++
      (spellKeep f.keep ++ (spellModifier f.modifier).toList)) :=
  if_neg fun h0 => h (beq_iff_eq.mp h0)

/-! ### What has been read -/

@[simp] theorem count_keepRule (lowest : Bool) (n : Nat) : (keepRule lowest n).count = n := by
  cases lowest <;> rfl

theorem Keeps.le_greatest (h : Keeps cs keep rest) :
    ∀ rule ∈ keep, rule.count ≤ Count.greatest := by
  cases h with
  | absent => exact fun _ hrule => nomatch hrule
  | rule _ _ hn =>
      rintro _ ⟨⟩
      rwa [count_keepRule]

/-- The sign and the digits of a number are read apart, so that the least amount is none. -/
theorem least_lt_signed (h : (n : Int) ≤ Amount.greatest) (negative : Bool) :
    Amount.least < signed negative n ∧ signed negative n ≤ Amount.greatest := by
  unfold Amount.greatest at h
  unfold Amount.least Amount.greatest
  cases negative with
  | false => exact ⟨by rw [signed, if_neg Bool.false_ne_true]; omega, h⟩
  | true => constructor <;> rw [signed, if_pos rfl] <;> omega

theorem Modifies.fits (h : Modifies cs v) : Amount.least < v ∧ v ≤ Amount.greatest := by
  cases h with
  | group | absent => decide
  | amount _ _ _ hn => exact least_lt_signed hn _

/-- What the grammar derives fits, and it is canonical if it throws dice. -/
theorem Derives.limits (h : Derives mode cs f) :
    f.mode = mode ∧ f.Fits ∧ (f.count ≠ 0 → f.IsCanonical) := by
  cases h with
  | modifier _ _ hfits =>
      exact ⟨rfl, ⟨Nat.zero_le _, Nat.zero_le _, hfits, fun _ hrule => nomatch hrule⟩,
        fun h => absurd rfl h⟩
  | dice _ _ _ _ hmaxCount _ _ hmaxSides hthrow hkeep hmodifier =>
      obtain ⟨hleast, hgreatest⟩ := hmodifier.fits
      refine ⟨rfl, ⟨?_, ?_, ⟨Int.le_of_lt hleast, hgreatest⟩, hkeep.le_greatest⟩, fun h => ?_⟩
      · exact Nat.le_trans hmaxCount (by decide)
      · exact Nat.le_trans hmaxSides (by decide)
      · have hpos := Nat.pos_of_ne_zero h
        exact .inl ⟨hpos, hmaxCount, hthrow hpos, hmaxSides, hleast⟩

/-! ### The characters of the core -/

theorem DigitAhead.append (h : DigitAhead ds) : DigitAhead (ds ++ rest) := by
  obtain ⟨d, hd, hdigit⟩ := h
  refine ⟨d, ?_, hdigit⟩
  rw [Option.mem_def] at hd ⊢
  rw [List.head?_append, hd, Option.some_or]

theorem digitAhead_toString (n : Nat) : DigitAhead (toString n).toList := by
  have hnumeral := Text.numeral_toString n
  obtain ⟨d, ds, hds⟩ := List.exists_cons_of_ne_nil hnumeral.ne_nil
  rw [hds] at hnumeral ⊢
  exact digitAhead_cons.mpr (hnumeral.isDecimalDigit d List.mem_cons_self)

/-- A character that reading leaves alone: it is small, it is not blank, and no keyword begins with
it. -/
structure Plain (c : Char) : Prop where
  ascii : c.toNat < 0x80
  small : c.toLower = c
  visible : Text.isBlank c = false
  keyless : c ≠ 'a' ∧ c ≠ 'd'

theorem plain_of_isAsciiDigit (h : isAsciiDigit c = true) : Plain c := by
  simp only [isAsciiDigit, Bool.and_eq_true, decide_eq_true_eq] at h
  have hlow : 0x30 ≤ c.toNat := h.1
  have hhigh : c.toNat ≤ 0x39 := h.2
  refine ⟨by omega, ?_, ?_, ?_, ?_⟩
  · exact dif_neg fun hupper => absurd (Nat.le_trans hupper.1 h.2) (by decide)
  · simp [Text.isBlank, Text.blankRanges]
    omega
  · rintro rfl
    exact absurd h.2 (by decide)
  · rintro rfl
    exact absurd h.2 (by decide)

theorem plain_toString (n : Nat) : ∀ c ∈ (toString n).toList, Plain c := fun c hc =>
  plain_of_isAsciiDigit ((Text.numeral_toString n).isAsciiDigit c hc)

theorem plain_letter (h : c = 'k' ∨ c = 'l') : Plain c := by
  rcases h with rfl | rfl
  · exact ⟨by decide, by decide, by decide, by decide⟩
  · exact ⟨by decide, by decide, by decide, by decide⟩

theorem plain_sign {sign : List Char} {negative : Bool} (h : Sign sign negative) :
    ∀ c ∈ sign, Plain c := by
  cases h with
  | absent => exact fun _ hc => nomatch hc
  | plus => exact List.forall_mem_singleton.mpr ⟨by decide, by decide, by decide, by decide⟩
  | minus => exact List.forall_mem_singleton.mpr ⟨by decide, by decide, by decide, by decide⟩

theorem plain_toString_int (v : Int) : ∀ c ∈ (toString v).toList, Plain c := by
  obtain ⟨sign, negative, hsign, htext, -⟩ := Text.toList_toString_int v
  rw [htext]
  exact List.forall_mem_append.mpr ⟨plain_sign hsign, plain_toString _⟩

/-- Behind dice a modifier is spelled with its sign, and zero is not spelled. -/
theorem spellModifier_cases (v : Int) : v = 0 ∧ (spellModifier v).toList = [] ∨
    ∃ c negative, Sign [c] negative ∧ (spellModifier v).toList = c :: (toString v.natAbs).toList ∧
      v = signed negative v.natAbs := by
  by_cases hv : v = 0
  · subst hv
    exact .inl ⟨rfl, rfl⟩
  · rw [spellModifier, if_neg hv, Amount.signed]
    cases v with
    | ofNat n => exact .inr ⟨'+', false, .plus, String.toList_append, rfl⟩
    | negSucc n => exact .inr ⟨'-', true, .minus, String.toList_append, rfl⟩

/-- A keep rule is spelled with one letter. -/
theorem spellKeep_cases (keep : Option KeepRule) : keep = none ∧ spellKeep keep = [] ∨
    ∃ c lowest n, KeepLetters [c] lowest ∧ (c = 'k' ∨ c = 'l') ∧
      spellKeep keep = c :: (toString n).toList ∧ keep = some (keepRule lowest n) := by
  match keep with
  | none => exact .inl ⟨rfl, rfl⟩
  | some (.highest n) => exact .inr ⟨'k', false, n, .k, .inl rfl, String.toList_append, rfl⟩
  | some (.lowest n) => exact .inr ⟨'l', true, n, .l, .inr rfl, String.toList_append, rfl⟩

/-- The core is plain but for the `d` of its dice, which a digit follows. -/
theorem core_shape (f : Formula) : (∀ c ∈ f.core, Plain c) ∨
    ∃ front back, f.core = front ++ 'd' :: back ∧ (∀ c ∈ front, Plain c) ∧
      (∀ c ∈ back, Plain c) ∧ DigitAhead back := by
  by_cases h : f.count = 0
  · rw [core_of_isModifierOnly h]
    exact .inl (plain_toString_int _)
  · have hkeep : ∀ c ∈ spellKeep f.keep, Plain c := by
      rcases spellKeep_cases f.keep with ⟨-, htext⟩ | ⟨c, _, n, -, hc, htext, -⟩
      · rw [htext]
        exact fun _ hc => nomatch hc
      · rw [htext]
        exact List.forall_mem_cons.mpr ⟨plain_letter hc, plain_toString n⟩
    have hmodifier : ∀ c ∈ (spellModifier f.modifier).toList, Plain c := by
      rcases spellModifier_cases f.modifier with ⟨-, htext⟩ | ⟨c, _, hsign, htext, -⟩
      · rw [htext]
        exact fun _ hc => nomatch hc
      · rw [htext]
        exact List.forall_mem_append.mpr ⟨plain_sign hsign, plain_toString _⟩
    refine .inr ⟨_, _, core_of_count_ne h, plain_toString _, ?_, ?_⟩
    · exact List.forall_mem_append.mpr ⟨plain_toString _,
        List.forall_mem_append.mpr ⟨hkeep, hmodifier⟩⟩
    · exact (digitAhead_toString _).append

theorem keywords_begin : ∀ k ∈ keywords, ['a'] <+: k.1 ∨ ['d', 'i'] <+: k.1 := by decide

theorem Plain.not_prefix (h : Plain c) : ∀ k ∈ keywords, ¬ k.1 <+: c :: cs := by
  intro k hk hstarts
  rcases keywords_begin k hk with hbegin | hbegin
  · exact h.keyless.1 (List.cons_prefix_cons.mp (hbegin.trans hstarts)).1.symm
  · exact h.keyless.2 (List.cons_prefix_cons.mp (hbegin.trans hstarts)).1.symm

/-- A `d` before a digit begins no keyword. -/
theorem not_prefix_of_digitAhead (h : DigitAhead cs) : ∀ k ∈ keywords, ¬ k.1 <+: 'd' :: cs := by
  intro k hk hstarts
  rcases keywords_begin k hk with hbegin | hbegin
  · exact absurd (List.cons_prefix_cons.mp (hbegin.trans hstarts)).1 (by decide)
  · obtain ⟨rest, rfl⟩ := (List.cons_prefix_cons.mp (hbegin.trans hstarts)).2
    exact absurd (digitAhead_cons.mp h) (by decide)

theorem stripped_append (h : ∀ c ∈ ds, Plain c) (hrest : Stripped rest modes out) :
    Stripped (ds ++ rest) modes (ds ++ out) := by
  induction ds with
  | nil => exact hrest
  | cons c ds ih =>
      obtain ⟨hc, hds⟩ := List.forall_mem_cons.mp h
      exact .other hc.not_prefix (ih hds)

/-- No keyword begins in the core, whatever follows it. -/
theorem stripped_core (f : Formula) (hrest : Stripped rest modes out) :
    Stripped (f.core ++ rest) modes (f.core ++ out) := by
  rcases core_shape f with h | ⟨front, back, hcore, hfront, hback, hdigit⟩
  · exact stripped_append h hrest
  · rw [hcore]
    simp only [List.append_assoc, List.cons_append]
    exact stripped_append hfront
      (.other (not_prefix_of_digitAhead hdigit.append) (stripped_append hback hrest))

/-- The keyword of a mode, and the blank before it. -/
theorem stripped_spellMode (mode : Mode) : ∃ modes blanks,
    Stripped (spellMode mode).toList modes blanks ∧ Mode.combineAll modes = mode ∧
      Text.squeeze blanks = [] := by
  cases mode with
  | normal => exact ⟨[], [], .nil, rfl, rfl⟩
  | advantage => exact ⟨[.advantage], [' '], extractKeywords_eq_iff.mp (by decide), rfl, by decide⟩
  | disadvantage =>
      exact ⟨[.disadvantage], [' '], extractKeywords_eq_iff.mp (by decide), rfl, by decide⟩

theorem forall_mem_core {P : Char → Prop} (hplain : ∀ c, Plain c → P c) (hd : P 'd')
    (f : Formula) : ∀ c ∈ f.core, P c := by
  rcases core_shape f with h | ⟨front, back, hcore, hfront, hback, -⟩
  · exact fun c hc => hplain c (h c hc)
  · rw [hcore]
    exact List.forall_mem_append.mpr ⟨fun c hc => hplain c (hfront c hc),
      List.forall_mem_cons.mpr ⟨hd, fun c hc => hplain c (hback c hc)⟩⟩

theorem squeeze_core (f : Formula) : Text.squeeze f.core = f.core :=
  Text.squeeze_of_no_blank (forall_mem_core (fun _ h => h.visible) (by decide) f)

/-- The canonical text is in small letters of ASCII. -/
theorem lowercase_render (f : Formula) : Text.lowercase f.render.toList = f.render.toList := by
  have hcore : ∀ c ∈ f.core, c.toNat < 0x80 ∧ c.toLower = c :=
    forall_mem_core (fun _ h => ⟨h.ascii, h.small⟩) (by decide) f
  have hkeyword : (spellMode f.mode).toList.all
      (fun c => decide (c.toNat < 0x80 ∧ c.toLower = c)) = true := by
    cases f.mode <;> decide
  have hmode : ∀ c ∈ (spellMode f.mode).toList, c.toNat < 0x80 ∧ c.toLower = c := fun c hc =>
    of_decide_eq_true (List.all_eq_true.mp hkeyword c hc)
  have htext : ∀ c ∈ f.render.toList, c.toNat < 0x80 ∧ c.toLower = c := by
    rw [toList_render]
    exact List.forall_mem_append.mpr ⟨hcore, hmode⟩
  rw [Text.lowercase_ascii fun c hc => (htext c hc).1,
    List.map_congr_left fun c hc => (htext c hc).2, List.map_id']

/-! ### The canonical text is read -/

theorem parse_eq_ok_iff_readCore {text : String}
    (h : Stripped (Text.lowercase text.toList) modes rest) :
    parse text = .ok f ↔ readCore (Mode.combineAll modes) (Text.squeeze rest) = .ok f := by
  have hread : read text.toList = readCore (Mode.combineAll modes) (Text.squeeze rest) := by
    rw [read, h.extractKeywords]
  rw [parse, hread]
  cases readCore (Mode.combineAll modes) (Text.squeeze rest) with
  | error fault => constructor <;> intro h <;> cases h
  | ok g => rw [Except.ok.injEq, Except.ok.injEq]

/-- The canonical text is read as what the grammar derives from its core, in its mode. -/
theorem parse_render_iff : parse f.render = .ok g ↔ Derives f.mode f.core g := by
  obtain ⟨modes, blanks, hmode, hcombine, hblank⟩ := stripped_spellMode f.mode
  have hstripped : Stripped (Text.lowercase f.render.toList) modes (f.core ++ blanks) := by
    rw [lowercase_render, toList_render]
    exact stripped_core f hmode
  have hsqueeze : Text.squeeze (f.core ++ blanks) = f.core := by
    rw [Text.squeeze, List.filter_append]
    exact (congrArg₂ _ (squeeze_core f) hblank).trans (List.append_nil _)
  rw [parse_eq_ok_iff_readCore hstripped, hcombine, hsqueeze, readCore_eq_ok_iff]

theorem signedDigits_core (h : f.count = 0) : SignedDigits f.core := by
  obtain ⟨sign, negative, hsign, htext, -⟩ := Text.toList_toString_int f.modifier
  have hds := Text.numeral_toString f.modifier.natAbs
  rw [core_of_isModifierOnly h, htext]
  exact .intro hsign hds.ne_nil hds.isDecimalDigit

/-- Without dice the core spells the modifier alone, if it is an amount. -/
theorem derives_modifier_iff (h : f.count = 0) :
    Derives mode f.core g ↔ Amount.Fits f.modifier ∧ g = ofModifier f.modifier mode := by
  rw [derives_iff_of_signedDigits (signedDigits_core h), core_of_isModifierOnly h]
  simp only [Text.readAmount?_toString_iff]
  constructor
  · rintro ⟨_, ⟨hfits, rfl⟩, rfl⟩
    exact ⟨hfits, rfl⟩
  · rintro ⟨hfits, rfl⟩
    exact ⟨_, ⟨hfits, rfl⟩, rfl⟩

/-- Without dice the canonical text is a signed number. -/
theorem derives_modifier (h : f.count = 0) (hfits : Amount.Fits f.modifier) :
    Derives mode f.core g ↔ g = ofModifier f.modifier mode :=
  (derives_modifier_iff h).trans (and_iff_right hfits)

theorem not_digitAhead_spellModifier (v : Int) : ¬ DigitAhead (spellModifier v).toList := by
  rcases spellModifier_cases v with ⟨-, htext⟩ | ⟨c, negative, hsign, htext, -⟩
  · rw [htext]
    exact not_digitAhead_nil
  · rw [htext, digitAhead_cons]
    cases hsign <;> decide

/-- A sign is no letter of a keep rule. -/
theorem not_keepSuffix_spellModifier (v : Int) (lowest : Bool) (ds rest : List Char) :
    ¬ KeepSuffix (spellModifier v).toList lowest ds rest := by
  intro h
  have hsome := keepSuffix?_eq_some_iff.mpr h
  rcases spellModifier_cases v with ⟨-, htext⟩ | ⟨c, negative, hsign, htext, -⟩
  · rw [htext] at hsome
    cases hsome
  · rw [htext] at hsome
    cases hsign <;> cases hsome

/-- The number behind the letter of a keep rule ends where the modifier begins. -/
theorem keepSuffix_spelled (hletters : KeepLetters [c] lowest) (n : Nat) (v : Int) :
    KeepSuffix ([c] ++ ((toString n).toList ++ (spellModifier v).toList)) lowest
      (toString n).toList (spellModifier v).toList :=
  have hn := Text.numeral_toString n
  .intro hletters ⟨rfl, hn.isDecimalDigit, not_digitAhead_spellModifier v⟩ hn.ne_nil

theorem keeps_spellKeep (h : ∀ rule ∈ keep, rule.count ≤ Count.greatest) (v : Int) :
    Keeps (spellKeep keep ++ (spellModifier v).toList) keep (spellModifier v).toList := by
  rcases spellKeep_cases keep with ⟨rfl, htext⟩ | ⟨c, lowest, n, hletters, -, htext, rfl⟩
  · rw [htext]
    exact .absent (not_keepSuffix_spellModifier v)
  · have hmax : n ≤ Count.greatest := count_keepRule lowest n ▸ h _ rfl
    rw [htext]
    exact .rule (keepSuffix_spelled hletters n v) (Text.numeral_toString n) hmax

/-- The number behind the sign of a modifier is the rest of the text. -/
theorem signedRun_spelled {negative : Bool} (hsign : Sign [c] negative) (n : Nat) :
    SignedRun (c :: (toString n).toList) negative (toString n).toList [] :=
  have hn := Text.numeral_toString n
  .intro hsign ⟨(List.append_nil _).symm, hn.isDecimalDigit, not_digitAhead_nil⟩ hn.ne_nil

theorem modifies_spellModifier (hleast : Amount.least < v) (hgreatest : v ≤ Amount.greatest) :
    Modifies (spellModifier v).toList v := by
  rcases spellModifier_cases v with ⟨rfl, htext⟩ | ⟨c, negative, hsign, htext, hvalue⟩
  · rw [htext]
    refine .absent fun negative ds rest h => ?_
    cases h
  · have hn := Text.numeral_toString v.natAbs
    have hmax : (v.natAbs : Int) ≤ Amount.greatest := by
      unfold Amount.least at hleast
      unfold Amount.greatest at hgreatest ⊢
      omega
    have hmodifies := Modifies.amount (signedRun_spelled hsign v.natAbs) nofun hn hmax
    rwa [← hvalue, ← htext] at hmodifies

theorem SignedDigits.not_mem (h : SignedDigits cs) : 'd' ∉ cs := by
  obtain ⟨hsign, -, hds⟩ := h
  intro hd
  rcases List.mem_append.mp hd with hd | hd
  · cases hsign <;> exact absurd hd (by decide)
  · exact absurd (hds _ hd) (by decide)

theorem not_mem_toString (n : Nat) : 'd' ∉ (toString n).toList := fun hd =>
  absurd ((Text.numeral_toString n).isDecimalDigit _ hd) (by decide)

/-- No further digit stands behind the sides of the dice. -/
theorem not_digitAhead_spellKeep (keep : Option KeepRule) (v : Int) :
    ¬ DigitAhead (spellKeep keep ++ (spellModifier v).toList) := by
  rcases spellKeep_cases keep with ⟨-, htext⟩ | ⟨c, _, _, _, hc, htext, -⟩
  · rw [htext]
    exact not_digitAhead_spellModifier v
  · rw [htext, List.cons_append, digitAhead_cons]
    rcases hc with rfl | rfl <;> decide

/-- A `d` that a digit follows opens the first dice group if none stands before it. -/
theorem firstDice_append {front back : List Char} (hfront : 'd' ∉ front) (hback : DigitAhead back) :
    FirstDice (front ++ 'd' :: back) front back where
  eq_append := rfl
  digit := hback
  leftmost p q hsplit _ := by
    rcases List.append_eq_append_iff.mp hsplit with ⟨between, rfl, -⟩ | ⟨between, rfl, hbetween⟩
    · rw [List.length_append]
      exact Nat.le_add_right _ _
    · cases between with
      | nil => exact Nat.le_of_eq (congrArg _ (List.append_nil p))
      | cons c between =>
          obtain rfl := (List.cons.inj hbetween).1
          exact absurd (List.mem_append_right p List.mem_cons_self) hfront

/-- With dice the core of a canonical formula spells it. -/
theorem derives_core (hfits : f.Fits) (hcanonical : f.IsCanonical) (h : f.count ≠ 0) :
    Derives f.mode f.core f := by
  obtain ⟨-, hmaxCount, hsides, hmaxSides, hleast⟩ := hcanonical.resolve_right fun h0 => h h0.1
  have hcount := Text.numeral_toString f.count
  have hsidesText := Text.numeral_toString f.sides
  rw [core_of_count_ne h]
  refine .dice (fun hshape => ?_)
    (firstDice_append (not_mem_toString f.count) (digitAhead_toString f.sides).append)
    ⟨(List.nil_append _).symm, hcount.isDecimalDigit, not_digitBehind_nil⟩ (.numeral hcount)
    hmaxCount ⟨rfl, hsidesText.isDecimalDigit, not_digitAhead_spellKeep f.keep f.modifier⟩
    hsidesText hmaxSides (fun _ => hsides) (keeps_spellKeep hfits.keep f.modifier)
    (modifies_spellModifier hleast hfits.modifier.2)
  exact hshape.not_mem (List.mem_append_right _ List.mem_cons_self)

theorem eq_ofModifier (hcount : f.count = 0) (hsides : f.sides = 0) (hkeep : f.keep = none) :
    f = ofModifier f.modifier f.mode := by
  obtain ⟨count, sides, modifier, keep, mode⟩ := f
  obtain ⟨⟨⟩, ⟨⟩, ⟨⟩⟩ := And.intro hcount (And.intro hsides hkeep)
  rfl

/-- **Canonical formulas are read back.**  A formula is read back from its canonical text exactly
when its numbers are counts and amounts and it is canonical.  The canonical text of every formula
that has been read is read again, as a formula with that text. -/
theorem canonical_read_back (f : Formula) :
    (parse f.render = .ok f ↔ f.Fits ∧ f.IsCanonical) ∧
      ∀ text, parse text = .ok f → ∃ g, parse f.render = .ok g ∧ g.render = f.render := by
  constructor
  · rw [parse_render_iff]
    constructor
    · intro h
      obtain ⟨-, hfits, hcanonical⟩ := h.limits
      refine ⟨hfits, ?_⟩
      by_cases hcount : f.count = 0
      · have hf := (derives_modifier hcount hfits.modifier).mp h
        exact .inr ⟨hcount, congrArg sides hf, congrArg keep hf⟩
      · exact hcanonical hcount
    · rintro ⟨hfits, hcanonical⟩
      by_cases hcount : f.count = 0
      · obtain ⟨-, hsides, hkeep⟩ := hcanonical.resolve_left fun h0 => by omega
        exact (derives_modifier hcount hfits.modifier).mpr (eq_ofModifier hcount hsides hkeep)
      · exact derives_core hfits hcanonical hcount
  · intro text htext
    rw [parse_eq_ok_iff_readCore (stripped_extractKeywords _), readCore_eq_ok_iff] at htext
    obtain ⟨-, hfits, hcanonical⟩ := htext.limits
    by_cases hcount : f.count = 0
    · refine ⟨ofModifier f.modifier f.mode, ?_, ?_⟩
      · exact parse_render_iff.mpr ((derives_modifier hcount hfits.modifier).mpr rfl)
      · rw [render, render, isModifierOnly_ofModifier, isModifierOnly, beq_iff_eq.mpr hcount]
        rfl
    · exact ⟨f, parse_render_iff.mpr (derives_core hfits (hcanonical hcount) hcount), rfl⟩

/-- What a formula without dice says about its dice is not in its text. -/
example : parse (render ⟨0, 6, 3, some (.highest 1), .advantage⟩) =
    .ok ⟨0, 0, 3, none, .advantage⟩ := by decide

end Tabletop.Formula
