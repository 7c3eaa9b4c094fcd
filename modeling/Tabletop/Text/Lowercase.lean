import Tabletop.Text.CaseTable

/-!
# Tabletop — Text — Lowercase

Small letters for capitals, over the whole character set.  Every character has its small form by
itself, with one exception: a capital sigma becomes the final sigma at the end of a word.
-/

namespace Tabletop.Text

/-- A letter that has a case. -/
def isCased (c : Char) : Bool :=
  casedRanges.any fun (first, last) => first ≤ c.toNat && c.toNat ≤ last

/-- A character that is passed over when one asks whether a word goes on. -/
def isCaseIgnorable (c : Char) : Bool :=
  caseIgnorableRanges.any fun (first, last) => first ≤ c.toNat && c.toNat ≤ last

/-- The small form of a character beyond ASCII. -/
def lowerWide (c : Char) : List Char :=
  if c.toNat = 0x130 then ['i', Char.ofNat 0x307]
  else match capitalRuns.find? (·.holds c.toNat) with
    | some run => [Char.ofNat (c.toNat + run.shift).toNat]
    | none => [c]

/-- The small form of a character that stands by itself. -/
def lowerChar (c : Char) : List Char :=
  if c.toNat < 0x80 then [c.toLower] else lowerWide c

/-- The characters go on with a cased letter. -/
def goesOnCased (cs : List Char) : Bool :=
  ((cs.dropWhile isCaseIgnorable).head?.map isCased).getD false

/-- The small form of the characters `cs` that follow the characters `before`, the latter in
reverse. -/
def lowerAfter (before : List Char) : List Char → List Char
  | [] => []
  | c :: cs =>
    (if c.toNat = 0x3A3 then
      [if goesOnCased before && !goesOnCased cs then Char.ofNat 0x3C2 else Char.ofNat 0x3C3]
    else lowerChar c) ++ lowerAfter (c :: before) cs

/-- The characters with small letters for capitals. -/
def lowercase (cs : List Char) : List Char := lowerAfter [] cs

theorem lowerChar_ascii {c : Char} (h : c.toNat < 0x80) : lowerChar c = [c.toLower] :=
  if_pos h

theorem lowerAfter_ascii {cs : List Char} (h : ∀ c ∈ cs, c.toNat < 0x80) (before : List Char) :
    lowerAfter before cs = cs.map Char.toLower := by
  induction cs generalizing before with
  | nil => rfl
  | cons c cs ih =>
    have hc : c.toNat < 0x80 := h c (by simp)
    have hs : c.toNat ≠ 0x3A3 := by omega
    simp [lowerAfter, hs, lowerChar_ascii hc, ih (fun d hd => h d (by simp [hd]))]

/-- On ASCII text only the 26 capitals change. -/
theorem lowercase_ascii {cs : List Char} (h : ∀ c ∈ cs, c.toNat < 0x80) :
    lowercase cs = cs.map Char.toLower :=
  lowerAfter_ascii h []

end Tabletop.Text
