import Mathlib.Data.List.Infix
import ScopeScript.Insert

/-!
# Directives in a text

A directive is found by its beginning alone: whatever follows it, it names the same file and ends
at the same place. In a text where every number sign starts a directive, directives neither
overlap nor arise where texts are joined, so such a text is made of plain characters and of
directives in one way only.
-/

namespace ScopeScript.Insert

/-- What the name in a directive consists of, without its ending. -/
structure IsWord (word : List Char) : Prop where
  ne_nil : word ≠ []
  isWordChar : ∀ c ∈ word, isWordChar c = true

/-- The directive with a name. -/
def directive (word : List Char) : List Char := opening ++ (word ++ closing)

/-- The file of a directive. -/
def fileName (word : List Char) : String := String.ofList word ++ ".txt"

variable {word word' text text' rest : List Char} {c : Char} {file : String}

/-- What follows a beginning. -/
theorem after?_append (beginning rest : List Char) :
    after? beginning (beginning ++ rest) = some rest := by
  induction beginning with
  | nil => rfl
  | cons b bs ih => simpa [after?] using ih

/-- **A directive is found** at the beginning of a text, whatever follows it. -/
theorem directive?_append (hword : IsWord word) (rest : List Char) :
    directive? (directive word ++ rest) = some (fileName word, rest) := by
  have hends : isWordChar '.' = false := by decide +kernel
  have htake : (word ++ (closing ++ rest)).takeWhile isWordChar = word := by
    rw [List.takeWhile_append_of_pos hword.isWordChar]
    simp [closing, hends]
  have hdrop : (word ++ (closing ++ rest)).dropWhile isWordChar = closing ++ rest := by
    rw [List.dropWhile_append_of_pos hword.isWordChar]
    simp [closing, hends]
  have hne : word.isEmpty = false := by simpa using hword.ne_nil
  simp only [directive, List.append_assoc, directive?, after?_append, htake, hdrop, hne]
  rfl

/-- A text begins with one directive at most. -/
theorem directive_append_inj (hword : IsWord word) (hword' : IsWord word')
    (h : directive word ++ text = directive word' ++ text') :
    fileName word = fileName word' ∧ text = text' := by
  have hfound := directive?_append hword text
  rw [h, directive?_append hword' text'] at hfound
  simpa [eq_comm] using hfound

/-- A number sign does not stand in what has none. -/
theorem suffix_of_not_mem (front : List Char) (hc : c ∉ front) (h : c :: rest <:+ front ++ text) :
    c :: rest <:+ text := by
  induction front with
  | nil => exact h
  | cons d front ih =>
    rw [List.mem_cons, not_or] at hc
    obtain heq | h := List.suffix_cons_iff.mp h
    · exact absurd (List.cons.inj heq).1 hc.1
    · exact ih hc.2 h

/-- A directive starts with its only number sign. -/
theorem suffix_directive_append (hword : IsWord word)
    (h : '#' :: rest <:+ directive word ++ text) :
    '#' :: rest = directive word ++ text ∨ '#' :: rest <:+ text := by
  have hsign : isWordChar '#' = false := by decide +kernel
  have hnot : '#' ∉ word := fun hmem => by simp [hword.isWordChar _ hmem] at hsign
  obtain heq | h := List.suffix_cons_iff.mp h
  · exact .inl heq
  · exact .inr (suffix_of_not_mem _ (by simp [closing, hnot]) h)

/-! ## Marked texts -/

/-- Every number sign of the text is the start of a complete directive. -/
def Marked (text : List Char) : Prop :=
  ∀ rest, '#' :: rest <:+ text → ∃ word rest', IsWord word ∧ '#' :: rest = directive word ++ rest'

/-- The text has a directive for the file. -/
def Names (text : List Char) (file : String) : Prop :=
  ∃ word rest, IsWord word ∧ directive word ++ rest <:+ text ∧ fileName word = file

namespace Marked

/-- The empty text is marked. -/
theorem nil : Marked [] := fun rest hrest => by simp at hrest

/-- A plain character in front. -/
theorem char (hc : c ≠ '#') (h : Marked text) : Marked (c :: text) := fun rest hrest =>
  h rest (suffix_of_not_mem [c] (by simpa using hc.symm) hrest)

/-- A directive in front. -/
theorem insert (hword : IsWord word) (h : Marked text) : Marked (directive word ++ text) := by
  intro rest hrest
  obtain heq | hrest := suffix_directive_append hword hrest
  · exact ⟨word, text, hword, heq⟩
  · exact h rest hrest

/-- The end of a marked text is marked. -/
theorem of_suffix (h : Marked text) (hsuffix : text' <:+ text) : Marked text' :=
  fun rest hrest => h rest (hrest.trans hsuffix)

/-- A marked text is made of plain characters and of directives. -/
@[elab_as_elim]
theorem induction {P : ∀ text, Marked text → Prop} (nil : P [] .nil)
    (char : ∀ c text (hc : c ≠ '#') (h : Marked text), P text h → P (c :: text) (h.char hc))
    (insert : ∀ word text (hword : IsWord word) (h : Marked text), P text h →
      P (directive word ++ text) (h.insert hword))
    {text : List Char} (h : Marked text) : P text h := by
  induction hn : text.length using Nat.strongRecOn generalizing text with
  | _ n ih =>
    subst hn
    cases text with
    | nil => exact nil
    | cons c rest =>
      by_cases hc : c = '#'
      · subst hc
        obtain ⟨word, rest', hword, heq⟩ := h rest List.suffix_rfl
        simp only [heq] at h ih ⊢
        have hrest := h.of_suffix (List.suffix_append (directive word) rest')
        refine insert word rest' hword hrest (ih _ ?_ hrest rfl)
        rw [List.length_append]
        exact Nat.lt_add_of_pos_left (by simp [directive, opening])
      · have hrest := h.of_suffix (List.suffix_cons c rest)
        exact char c rest hc hrest (ih _ (by simp) hrest rfl)

/-- Marked texts that are joined are marked: no directive arises where they meet. -/
theorem append (h : Marked text) (h' : Marked text') : Marked (text ++ text') := by
  induction h using induction with
  | nil => exact h'
  | char c text hc _ ih => exact .char hc ih
  | insert word text hword _ ih =>
    rw [List.append_assoc]
    exact .insert hword ih

end Marked

/-- The empty text has no directives. -/
theorem not_names_nil (file : String) : ¬ Names [] file := by
  rintro ⟨word, rest, -, hsuffix, -⟩
  simp [directive, opening] at hsuffix

/-- A plain character in front makes no directive. -/
theorem names_cons (hc : c ≠ '#') : Names (c :: text) file ↔ Names text file := by
  constructor
  · rintro ⟨word, rest, hword, hsuffix, rfl⟩
    refine ⟨word, rest, hword, ?_, rfl⟩
    exact suffix_of_not_mem [c] (by simpa using hc.symm) hsuffix
  · rintro ⟨word, rest, hword, hsuffix, rfl⟩
    exact ⟨word, rest, hword, hsuffix.trans (List.suffix_cons c text), rfl⟩

/-- A directive in front names its file. -/
theorem names_directive_append (hword : IsWord word) :
    Names (directive word ++ text) file ↔ fileName word = file ∨ Names text file := by
  constructor
  · rintro ⟨word', rest, hword', hsuffix, rfl⟩
    obtain heq | hsuffix := suffix_directive_append hword hsuffix
    · exact .inl (directive_append_inj hword hword' heq.symm).1
    · exact .inr ⟨word', rest, hword', hsuffix, rfl⟩
  · rintro (rfl | ⟨word', rest, hword', hsuffix, rfl⟩)
    · exact ⟨word, text, hword, List.suffix_rfl, rfl⟩
    · exact ⟨word', rest, hword', hsuffix.trans (List.suffix_append _ _), rfl⟩

/-- What holds of all files that a text names, taken apart from the start of the text. -/
theorem forall_names_cons (hc : c ≠ '#') {P : String → Prop} :
    (∀ file, Names (c :: text) file → P file) ↔ ∀ file, Names text file → P file := by
  simp only [names_cons hc]

/-- A directive in front, and those behind it. -/
theorem forall_names_directive_append (hword : IsWord word) {P : String → Prop} :
    (∀ file, Names (directive word ++ text) file → P file) ↔
      P (fileName word) ∧ ∀ file, Names text file → P file := by
  simp only [names_directive_append hword, or_imp, forall_and, forall_eq']

/-- What joined texts name is named by one of them. -/
theorem names_append (h : Marked text) :
    Names (text ++ text') file ↔ Names text file ∨ Names text' file := by
  induction h using Marked.induction with
  | nil => simp [not_names_nil]
  | char c text hc _ ih => rw [List.cons_append, names_cons hc, names_cons hc, ih]
  | insert word text hword _ ih =>
    rw [List.append_assoc, names_directive_append hword, names_directive_append hword, ih, or_assoc]

end ScopeScript.Insert
