import Proctor.Text.Blank
import Mathlib.Data.List.Basic

/-!
# The words of a text

Splitting a text at its blanks is described from the other side: which texts hold some given words.
Between two of the words stand blanks, at least one, and any number of blanks may stand before the
first and after the last. The splitter gives back exactly the words that a text holds, so that how
the blanks are chosen does not matter, and joining words with single spaces loses nothing.
-/
namespace Proctor.Text

/-- A text of blanks, which may be empty. -/
def IsGap (text : String) : Prop := ∀ c ∈ text.toList, isBlank c = true

instance (text : String) : Decidable (IsGap text) :=
  decidable_of_iff (text.toList.all isBlank = true) List.all_eq_true

/-- A text with something in it, and with no blank. -/
structure IsWord (text : String) : Prop where
  nonempty : text ≠ ""
  solid : ∀ c ∈ text.toList, isBlank c = false

/-- Some words one after the other, each parted from what follows by a gap that is not empty. -/
inductive Separated : List String → String → Prop
  | none : Separated [] ""
  | one (word : String) : Separated [word] word
  | more {words : List String} {word gap rest : String} (hgap : IsGap gap) (hsome : gap ≠ "")
      (hrest : Separated words rest) : Separated (word :: words) (word ++ gap ++ rest)

/-- A text that has some words one after the other, with a gap before and after them. -/
def Holds (words : List String) (text : String) : Prop :=
  ∃ before middle after, IsGap before ∧ Separated words middle ∧ IsGap after ∧
    text = before ++ middle ++ after

section Scan
variable {gap word begun rest : List Char}

/-- Blanks in front of a word belong to no word. -/
theorem wordsFrom_gap (hgap : ∀ c ∈ gap, isBlank c = true) :
    wordsFrom [] (gap ++ rest) = wordsFrom [] rest := by
  induction gap with
  | nil => rfl
  | cons c gap ih =>
    obtain ⟨hc, hgap⟩ := List.forall_mem_cons.mp hgap
    simp [wordsFrom, hc, ih hgap]

/-- Characters that are not blank go on with the word that has begun. -/
theorem wordsFrom_solid (hword : ∀ c ∈ word, isBlank c = false) :
    wordsFrom begun (word ++ rest) = wordsFrom (word.reverse ++ begun) rest := by
  induction word generalizing begun with
  | nil => rfl
  | cons c word ih =>
    obtain ⟨hc, hword⟩ := List.forall_mem_cons.mp hword
    simp [wordsFrom, hc, ih hword]

/-- A word ends where a gap begins. -/
theorem wordsFrom_end (hbegun : begun ≠ []) (hgap : ∀ c ∈ gap, isBlank c = true)
    (hsome : gap ≠ []) : wordsFrom begun (gap ++ rest) = begun.reverse :: wordsFrom [] rest := by
  cases gap with
  | nil => exact absurd rfl hsome
  | cons c gap =>
    obtain ⟨hc, hgap⟩ := List.forall_mem_cons.mp hgap
    simp [wordsFrom, hc, hbegun, wordsFrom_gap hgap]

/-- A word ends where the text does. -/
theorem wordsFrom_last (hbegun : begun ≠ []) (hgap : ∀ c ∈ gap, isBlank c = true) :
    wordsFrom begun gap = [begun.reverse] := by
  cases gap with
  | nil => simp [wordsFrom, hbegun]
  | cons c gap =>
    have hend : wordsFrom begun (c :: gap ++ []) = begun.reverse :: wordsFrom [] [] :=
      wordsFrom_end hbegun hgap (List.cons_ne_nil c gap)
    rwa [List.append_nil] at hend

end Scan

/-- The scan of words that a gap follows. -/
theorem Separated.wordsFrom_eq {words : List String} {middle : String}
    (h : Separated words middle) (hwords : ∀ word ∈ words, IsWord word) {after : List Char}
    (hafter : ∀ c ∈ after, isBlank c = true) :
    wordsFrom [] (middle.toList ++ after) = words.map String.toList := by
  induction h with
  | none =>
    have hgap : wordsFrom [] (after ++ []) = wordsFrom [] [] := wordsFrom_gap hafter
    rwa [List.append_nil] at hgap
  | one word =>
    obtain ⟨hword, -⟩ := List.forall_mem_cons.mp hwords
    have hbegun : word.toList.reverse ++ [] ≠ [] := by simpa using hword.nonempty
    rw [wordsFrom_solid hword.solid, wordsFrom_last hbegun hafter]
    simp
  | @more words word gap rest hgap hsome _ ih =>
    obtain ⟨hword, hrest⟩ := List.forall_mem_cons.mp hwords
    have hbegun : word.toList.reverse ++ [] ≠ [] := by simpa using hword.nonempty
    have hgap' : gap.toList ≠ [] := by simpa using hsome
    simp only [String.toList_append, List.append_assoc]
    rw [wordsFrom_solid hword.solid, wordsFrom_end hbegun hgap hgap', ih hrest]
    simp

/-- Every text holds the words that a scan finds in it, the first of which may have begun. -/
theorem holds_wordsFrom (begun chars : List Char) :
    Holds ((wordsFrom begun chars).map String.ofList) (String.ofList (begun.reverse ++ chars)) := by
  have hempty : IsGap "" := by simp [IsGap]
  induction chars generalizing begun with
  | nil =>
    by_cases hbegun : begun = []
    · subst hbegun
      exact ⟨"", "", "", hempty, .none, hempty, rfl⟩
    · refine ⟨"", String.ofList begun.reverse, "", hempty, ?_, hempty, by simp⟩
      simpa [wordsFrom, hbegun] using Separated.one (String.ofList begun.reverse)
  | cons c chars ih =>
    by_cases hc : isBlank c = true
    · obtain ⟨before, middle, after, hbefore, hmiddle, hafter, htext⟩ := ih []
      have hgap : IsGap (String.singleton c ++ before) := by simpa [IsGap, hc] using hbefore
      have hchars : chars = before.toList ++ middle.toList ++ after.toList := by
        simpa using congrArg String.toList htext
      by_cases hbegun : begun = []
      · -- the blank belongs to the gap in front
        subst hbegun
        refine ⟨String.singleton c ++ before, middle, after, hgap, ?_, hafter, ?_⟩
        · simpa [wordsFrom, hc] using hmiddle
        · apply String.toList_injective
          simp [hchars]
      · -- the blank ends the word that has begun
        refine ⟨"", String.ofList begun.reverse ++ (String.singleton c ++ before) ++ middle, after,
          hempty, ?_, hafter, ?_⟩
        · simpa [wordsFrom, hc, hbegun] using hmiddle.more hgap (by simp)
        · apply String.toList_injective
          simp [hchars]
    · simpa [wordsFrom, hc] using ih (c :: begun)

/-- What a scan finds are words, as long as the first of them has begun without a blank. -/
theorem isWord_of_mem_wordsFrom {begun chars word : List Char}
    (hbegun : ∀ c ∈ begun, isBlank c = false) (h : word ∈ wordsFrom begun chars) :
    IsWord (String.ofList word) := by
  -- the word that has begun is one wherever it ends
  have hclosed {begun : List Char} (hbegun : ∀ c ∈ begun, isBlank c = false)
      (hsome : begun ≠ []) (hword : word = begun.reverse) : IsWord (String.ofList word) := by
    rw [hword]
    exact ⟨by simpa using hsome, by simpa using hbegun⟩
  have hempty : ∀ c ∈ ([] : List Char), isBlank c = false := by simp
  induction chars generalizing begun with
  | nil =>
    by_cases hsome : begun = []
    · simp [wordsFrom, hsome] at h
    · exact hclosed hbegun hsome (by simpa [wordsFrom, hsome] using h)
  | cons c chars ih =>
    by_cases hc : isBlank c = true
    · by_cases hsome : begun = []
      · exact ih hempty (by simpa [wordsFrom, hc, hsome] using h)
      · obtain hword | hrest : word = begun.reverse ∨ word ∈ wordsFrom [] chars := by
          simpa [wordsFrom, hc, hsome] using h
        · exact hclosed hbegun hsome hword
        · exact ih hempty hrest
    · have hc' : isBlank c = false := Bool.eq_false_iff.mpr hc
      exact ih (List.forall_mem_cons.mpr ⟨hc', hbegun⟩) (by simpa [wordsFrom, hc] using h)

/-- The words of a text are the words that it holds, and it holds no other list of words. -/
theorem words_eq_iff {text : String} {list : List String} :
    words text = list ↔ (∀ word ∈ list, IsWord word) ∧ Holds list text := by
  constructor
  · rintro rfl
    constructor
    · intro word hword
      obtain ⟨chars, hchars, rfl⟩ := List.mem_map.mp hword
      exact isWord_of_mem_wordsFrom (by simp) hchars
    · simpa [words] using holds_wordsFrom [] text.toList
  · rintro ⟨hwords, before, middle, after, hbefore, hmiddle, hafter, rfl⟩
    simp only [words, String.toList_append, List.append_assoc]
    rw [wordsFrom_gap hbefore, hmiddle.wordsFrom_eq hwords hafter]
    simp [Function.comp_def]

/-- Words that are joined with single spaces are held by the text that they make. -/
theorem holds_intercalate (list : List String) : Holds list (String.intercalate " " list) := by
  have hmiddle : Separated list (String.intercalate " " list) := by
    induction list with
    | nil => exact .none
    | cons word rest ih =>
      cases rest with
      | nil => exact .one word
      | cons next rest =>
        rw [String.intercalate_cons_cons]
        exact .more (by decide) (by decide) ih
  exact ⟨"", _, "", by decide, hmiddle, by decide, by simp⟩

end Proctor.Text
