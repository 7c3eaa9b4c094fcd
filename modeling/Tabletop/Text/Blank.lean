/-!
# Tabletop — Text — Blank

White space, as the standard's property of that name has it: 25 characters.  Blanks are ignored
inside a formula and trimmed off the ends of a name that is looked up.
-/

namespace Tabletop.Text

/-- The first and last code point of each run of white space. -/
def blankRanges : List (Nat × Nat) :=
  [(0x9, 0xD), (0x20, 0x20), (0x85, 0x85), (0xA0, 0xA0), (0x1680, 0x1680), (0x2000, 0x200A),
   (0x2028, 0x2029), (0x202F, 0x202F), (0x205F, 0x205F), (0x3000, 0x3000)]

/-- A white space character. -/
def isBlank (c : Char) : Bool :=
  blankRanges.any fun (first, last) => first ≤ c.toNat && c.toNat ≤ last

/-- The text without the white space at its two ends. -/
def trim (cs : List Char) : List Char :=
  ((cs.dropWhile isBlank).reverse.dropWhile isBlank).reverse

/-- The text without any white space. -/
def squeeze (cs : List Char) : List Char := cs.filter fun c => !isBlank c

theorem isBlank_of_mem_squeeze {c : Char} {cs : List Char} (h : c ∈ squeeze cs) :
    isBlank c = false := by
  simpa [squeeze] using (List.mem_filter.1 h).2

theorem squeeze_of_no_blank {cs : List Char} (h : ∀ c ∈ cs, isBlank c = false) :
    squeeze cs = cs :=
  List.filter_eq_self.2 fun c hc => by simp [h c hc]

end Tabletop.Text
