/-!
# Tabletop — Text — Splitting

A text divided at every occurrence of a separator.  There is one part more than there are
separators, so a text without any is one part, and putting the separators back between the parts
gives the text again (`intercalate_split`).
-/

namespace Tabletop.Text

/-- The parts of a text between separators. -/
def split (separator : Char) : List Char → List (List Char)
  | [] => [[]]
  | c :: cs =>
    if c = separator then [] :: split separator cs
    else (c :: (split separator cs).headD []) :: (split separator cs).tail

theorem split_ne_nil (separator : Char) (cs : List Char) : split separator cs ≠ [] := by
  cases cs with
  | nil => simp [split]
  | cons c cs =>
    unfold split
    split <;> simp

theorem intercalate_split (separator : Char) (cs : List Char) :
    [separator].intercalate (split separator cs) = cs := by
  induction cs with
  | nil => rfl
  | cons c cs ih =>
    obtain ⟨first, rest, h⟩ := List.exists_cons_of_ne_nil (split_ne_nil separator cs)
    rw [h] at ih
    by_cases hc : c = separator
    · subst hc
      simpa [split, h, List.intercalate, List.intersperse] using ih
    · cases rest with
      | nil => simpa [split, h, hc, List.intercalate, List.intersperse] using ih
      | cons second rest => simpa [split, h, hc, List.intercalate, List.intersperse] using ih

end Tabletop.Text
