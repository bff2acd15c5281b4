import Mathlib.Data.Nat.Basic
import ScopeScript.Text.Quoted

/-!
# Reading quoted text

Quoted text tells where it ends and what it quotes. The spelling of a character can be read back
from whatever stands behind it, and no spelling begins with a quote, so the first quote that is not
part of a spelling is the closing one. Characters that are spelled by number are told apart by their
hexadecimal digits, which a brace ends.
-/

namespace ScopeScript

/-- Two texts that begin with a stretch of a class are cut alike where the stretch ends. -/
theorem append_cons_inj {α : Type} {p : α → Bool} {c : α} (hc : p c = false) {s s' r r' : List α}
    (hs : ∀ a ∈ s, p a = true) (hs' : ∀ a ∈ s', p a = true) (h : s ++ c :: r = s' ++ c :: r') :
    s = s' ∧ r = r' := by
  have htake := congrArg (List.takeWhile p) h
  rw [List.takeWhile_append_of_pos hs, List.takeWhile_append_of_pos hs',
    List.takeWhile_cons_of_neg (by simp [hc]), List.takeWhile_cons_of_neg (by simp [hc]),
    List.append_nil, List.append_nil] at htake
  subst htake
  exact ⟨rfl, (List.cons.inj (List.append_cancel_left h)).2⟩

namespace Quoted

/-! ## Hexadecimal digits -/

/-- The value of a hexadecimal digit. -/
def hexDigitValue (c : Char) : Nat := if c.toNat < 0x40 then c.toNat - 0x30 else c.toNat - 0x57

/-- The number that hexadecimal digits spell. -/
def hexValue (ds : List Char) : Nat := ds.foldl (fun n c => 16 * n + hexDigitValue c) 0

/-- Every digit has its value. -/
theorem hexDigitValue_digitChar : ∀ d < 16, hexDigitValue (Nat.digitChar d) = d := by decide

/-- No digit is a brace. -/
theorem digitChar_ne_brace : ∀ d < 16, (Nat.digitChar d != '\x7d') = true := by decide

/-- Digits spell the number that they were made from. -/
theorem hexValue_toDigits (n : Nat) : hexValue (Nat.toDigits 16 n) = n := by
  induction n using Nat.strong_induction_on with
  | _ n ih =>
    rw [Nat.toDigits_eq_if (by decide)]
    split
    · next hlt => simp [hexValue, hexDigitValue_digitChar n hlt]
    · next hle =>
      have hquotient := ih (n / 16) (by omega)
      rw [hexValue] at hquotient
      rw [hexValue, List.foldl_append, hquotient, List.foldl_cons, List.foldl_nil,
        hexDigitValue_digitChar _ (Nat.mod_lt n (by decide)), Nat.div_add_mod]

/-- A number in hexadecimal digits has no brace. -/
theorem ne_brace_of_mem_toDigits (n : Nat) : ∀ c ∈ Nat.toDigits 16 n, (c != '\x7d') = true := by
  induction n using Nat.strong_induction_on with
  | _ n ih =>
    rw [Nat.toDigits_eq_if (by decide)]
    split
    · next hlt => exact List.forall_mem_singleton.mpr (digitChar_ne_brace n hlt)
    · next hle =>
      refine List.forall_mem_append.mpr ⟨ih (n / 16) (by omega), List.forall_mem_singleton.mpr ?_⟩
      exact digitChar_ne_brace _ (Nat.mod_lt n (by decide))

/-! ## Spellings -/

/-- The character at the front of a text of spellings, and what follows its spelling. -/
def unescape? : List Char → Option (Char × List Char)
  | '\\' :: '0' :: r => some ('\x00', r)
  | '\\' :: 't' :: r => some ('\t', r)
  | '\\' :: 'r' :: r => some ('\r', r)
  | '\\' :: 'n' :: r => some ('\n', r)
  | '\\' :: '\\' :: r => some ('\\', r)
  | '\\' :: '\x22' :: r => some ('\x22', r)
  | '\\' :: 'u' :: '\x7b' :: r =>
    some (.ofNat (hexValue (r.takeWhile (· != '\x7d'))), (r.dropWhile (· != '\x7d')).tail)
  | c :: r => some (c, r)
  | [] => none

/-- **A spelling can be read back**, whatever follows it. -/
theorem unescape?_escape (c : Char) (r : List Char) : unescape? (escape c ++ r) = some (c, r) := by
  unfold escape
  split
  · rfl
  · rfl
  · rfl
  · rfl
  · rfl
  · rfl
  · next hbackslash _ =>
    split
    · rw [List.singleton_append, unescape?]
      -- The character is not a backslash, so no longer spelling fits.
      all_goals exact fun _ hc _ => hbackslash hc
    · have hbrace : (Nat.toDigits 16 c.toNat ++ '\x7d' :: r).takeWhile (· != '\x7d') =
          Nat.toDigits 16 c.toNat := by
        rw [List.takeWhile_append_of_pos (ne_brace_of_mem_toDigits c.toNat)]
        simp
      have hrest : (Nat.toDigits 16 c.toNat ++ '\x7d' :: r).dropWhile (· != '\x7d') =
          '\x7d' :: r := by
        rw [List.dropWhile_append_of_pos (ne_brace_of_mem_toDigits c.toNat)]
        simp
      rw [List.append_assoc]
      simp [unescape?, hbrace, hrest, hexValue_toDigits]

/-- No spelling begins with a quote. -/
theorem head?_escape_ne (c : Char) (r : List Char) : (escape c ++ r).head? ≠ some '\x22' := by
  unfold escape
  split
  · simp
  · simp
  · simp
  · simp
  · simp
  · simp
  · next hquote =>
    split
    · simpa using hquote
    · simp

/-- Spelled texts that are closed by a quote are told apart, with what follows them. -/
theorem flatMap_escape_inj {text text' r r' : List Char}
    (h : text.flatMap escape ++ '\x22' :: r = text'.flatMap escape ++ '\x22' :: r') :
    text = text' ∧ r = r' := by
  induction text generalizing text' with
  | nil =>
    cases text' with
    | nil => exact ⟨rfl, (List.cons.inj h).2⟩
    | cons d rest' =>
      rw [List.flatMap_cons, List.append_assoc] at h
      exact absurd (congrArg List.head? h.symm) (head?_escape_ne d _)
  | cons c rest ih =>
    cases text' with
    | nil =>
      rw [List.flatMap_cons, List.append_assoc] at h
      exact absurd (congrArg List.head? h) (head?_escape_ne c _)
    | cons d rest' =>
      rw [List.flatMap_cons, List.flatMap_cons, List.append_assoc, List.append_assoc] at h
      have hread := congrArg unescape? h
      rw [unescape?_escape, unescape?_escape] at hread
      obtain ⟨rfl, hrest⟩ := Prod.mk.inj (Option.some.inj hread)
      obtain ⟨rfl, hr⟩ := ih hrest
      exact ⟨rfl, hr⟩

end Quoted

/-- **Quoted texts are told apart**, with what follows them. -/
theorem quoted_append_inj {s s' : String} {r r' : List Char}
    (h : (quoted s).toList ++ r = (quoted s').toList ++ r') : s = s' ∧ r = r' := by
  rw [quoted, quoted, String.toList_ofList, String.toList_ofList] at h
  have hbody : s.toList.flatMap Quoted.escape ++ '\x22' :: r =
      s'.toList.flatMap Quoted.escape ++ '\x22' :: r' := by
    simpa [Quoted.encode] using h
  obtain ⟨htext, hr⟩ := Quoted.flatMap_escape_inj hbody
  exact ⟨String.toList_inj.mp htext, hr⟩

end ScopeScript
