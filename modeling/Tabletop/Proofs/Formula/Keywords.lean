import Tabletop.Formula.Parser

/-!
# Formula — keywords

Which mode keywords a text holds, and what is left without them.  `Stripped` walks the text from
left to right: at each place it takes out the longest keyword that begins there (`Leads`), or else
goes past one character.  `extractKeywords_eq_iff`: `extractKeywords` finds exactly these keywords
and leaves exactly this rest.
-/

namespace Tabletop.Formula

variable {cs out rest word word' : List Char} {mode mode' : Mode} {modes : List Mode} {n : Nat}

/-- The longest keyword that the characters begin with, and its mode. -/
structure Leads (word : List Char) (mode : Mode) (cs : List Char) : Prop where
  /-- It is a keyword of that mode. -/
  mem : (word, mode) ∈ keywords
  /-- The characters begin with it. -/
  isPrefix : word <+: cs
  /-- They begin with no longer one. -/
  longest : ∀ k ∈ keywords, k.1 <+: cs → k.1.length ≤ word.length

/-- The modes of the keywords that are met from left to right, and the characters between them. -/
inductive Stripped : List Char → List Mode → List Char → Prop
  | nil : Stripped [] [] []
  | keyword {word rest : List Char} {mode : Mode} {modes : List Mode} {out : List Char}
      (h : Leads word mode (word ++ rest)) (hrest : Stripped rest modes out) :
      Stripped (word ++ rest) (mode :: modes) out
  | other {c : Char} {cs : List Char} {modes : List Mode} {out : List Char}
      (h : ∀ k ∈ keywords, ¬ k.1 <+: c :: cs) (hrest : Stripped cs modes out) :
      Stripped (c :: cs) modes (c :: out)

/-! ### The keyword at a place -/

/-- The table puts longer keywords first, so the first that fits is the longest. -/
theorem keywords_sorted : keywords.Pairwise fun a b => b.1.length ≤ a.1.length := by decide

theorem ne_nil_of_mem_keywords : ∀ k ∈ keywords, k.1 ≠ [] := by decide

theorem mode_unique : ∀ k ∈ keywords, ∀ k' ∈ keywords, k.1 = k'.1 → k.2 = k'.2 := by decide

theorem Leads.ne_nil (h : Leads word mode cs) : word ≠ [] := ne_nil_of_mem_keywords _ h.mem

/-- Two keywords at one place are prefixes of the same text, and neither is longer. -/
theorem Leads.unique (h : Leads word mode cs) (h' : Leads word' mode' cs) :
    word = word' ∧ mode = mode' := by
  have hle : word.length ≤ word'.length := h'.longest _ h.mem h.isPrefix
  have hge : word'.length ≤ word.length := h.longest _ h'.mem h'.isPrefix
  have hword : word = word' :=
    (List.prefix_of_prefix_length_le h.isPrefix h'.isPrefix hle).eq_of_length (by omega)
  exact ⟨hword, mode_unique _ h.mem _ h'.mem hword⟩

theorem keywordAt?_eq_none_iff : keywordAt? cs = none ↔ ∀ k ∈ keywords, ¬ k.1 <+: cs := by
  rw [keywordAt?, List.findSome?_eq_none_iff]
  refine forall₂_congr fun ⟨word, mode⟩ _ => ?_
  rw [← List.isPrefixOf_iff_prefix]
  exact ite_eq_right_iff.trans (imp_congr_right fun _ => iff_of_false nofun id)

theorem leads_of_keywordAt? (h : keywordAt? cs = some (mode, n)) :
    ∃ word, Leads word mode cs ∧ word.length = n := by
  obtain ⟨before, ⟨word, m⟩, after, hsplit, hfits, hbefore⟩ := List.findSome?_eq_some_iff.mp h
  dsimp only at hfits
  split at hfits
  · next hword =>
      cases hfits
      refine ⟨word, ⟨?_, List.isPrefixOf_iff_prefix.mp hword, ?_⟩, rfl⟩
      · rw [hsplit]
        exact List.mem_append_right _ List.mem_cons_self
      · -- a longer keyword stands earlier in the table, where none fits
        rintro ⟨word', m'⟩ hk hstarts
        rw [hsplit] at hk
        rcases List.mem_append.mp hk with hk | hk
        · have hnone := hbefore _ hk
          dsimp only at hnone
          rw [if_pos (List.isPrefixOf_iff_prefix.mpr hstarts)] at hnone
          cases hnone
        · rcases List.mem_cons.mp hk with heq | hk
          · exact Nat.le_of_eq (congrArg (fun k => k.1.length) heq)
          · have hsorted := keywords_sorted
            rw [hsplit] at hsorted
            exact List.rel_of_pairwise_cons (List.pairwise_append.mp hsorted).2.1 hk
  · cases hfits

theorem Leads.keywordAt? (h : Leads word mode cs) : keywordAt? cs = some (mode, word.length) := by
  cases hat : Formula.keywordAt? cs with
  | none => exact absurd h.isPrefix (keywordAt?_eq_none_iff.mp hat _ h.mem)
  | some found =>
      obtain ⟨word', h', hlength⟩ := leads_of_keywordAt? hat
      obtain ⟨rfl, hmode⟩ := h.unique h'
      rw [hmode, hlength]

/-! ### All keywords of a text -/

/-- Characters that belong to a counted keyword are passed over. -/
theorem extractKeywords_skip (n : Nat) (cs : List Char) :
    extractKeywords n cs = extractKeywords 0 (cs.drop n) := by
  induction cs generalizing n with
  | nil => cases n <;> rfl
  | cons c cs ih =>
      cases n with
      | zero => rfl
      | succ n => exact ih n

theorem extractKeywords_other {c : Char} (h : ∀ k ∈ keywords, ¬ k.1 <+: c :: cs) :
    extractKeywords 0 (c :: cs) =
      ((extractKeywords 0 cs).1, c :: (extractKeywords 0 cs).2) := by
  rw [extractKeywords, keywordAt?_eq_none_iff.mpr h]

theorem Leads.extractKeywords (h : Leads word mode (word ++ rest)) :
    extractKeywords 0 (word ++ rest) =
      (mode :: (extractKeywords 0 rest).1, (extractKeywords 0 rest).2) := by
  obtain ⟨c, tail, rfl⟩ := List.exists_cons_of_ne_nil h.ne_nil
  rw [List.cons_append] at h ⊢
  have hdrop : (tail ++ rest).drop ((c :: tail).length - 1) = rest := List.drop_left
  rw [Formula.extractKeywords, h.keywordAt?]
  dsimp only
  rw [extractKeywords_skip, hdrop]

/-- By recursion on the text, one keyword or one other character at a time. -/
theorem stripped_extractKeywords (cs : List Char) :
    Stripped cs (extractKeywords 0 cs).1 (extractKeywords 0 cs).2 := by
  match cs with
  | [] => exact .nil
  | c :: cs =>
      cases hat : keywordAt? (c :: cs) with
      | none =>
          have hnone := keywordAt?_eq_none_iff.mp hat
          rw [extractKeywords_other hnone]
          exact .other hnone (stripped_extractKeywords cs)
      | some found =>
          obtain ⟨word, h, -⟩ := leads_of_keywordAt? hat
          obtain ⟨rest, hrest⟩ := h.isPrefix
          have hshorter : rest.length < (c :: cs).length := by
            rw [← hrest, List.length_append]
            have := List.length_pos_iff.mpr h.ne_nil
            omega
          rw [← hrest] at h ⊢
          rw [h.extractKeywords]
          exact .keyword h (stripped_extractKeywords rest)
termination_by cs.length
decreasing_by
  · exact Nat.lt_succ_self cs.length
  · exact hshorter

theorem Stripped.extractKeywords (h : Stripped cs modes out) :
    extractKeywords 0 cs = (modes, out) := by
  induction h with
  | nil => rfl
  | keyword h _ ih => rw [h.extractKeywords, ih]
  | other h _ ih => rw [extractKeywords_other h, ih]

/-- The keywords of a text and what is left without them. -/
theorem extractKeywords_eq_iff : extractKeywords 0 cs = (modes, out) ↔ Stripped cs modes out := by
  constructor
  · intro h
    have hstripped := stripped_extractKeywords cs
    rwa [h] at hstripped
  · exact Stripped.extractKeywords

end Tabletop.Formula
