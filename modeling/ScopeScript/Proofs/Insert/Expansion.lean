import Mathlib.Logic.Relation
import ScopeScript.Proofs.Insert.Sweep

/-!
# Expansion in passes and by recursion

Recursively, a text expands to itself with every directive replaced by the expansion of its file.
The passes replace all directives of the text by the files as they are, over and over. One pass
takes one level of files away and leaves the recursive expansion as it is, so as many passes are
needed as files are nested, and no number is enough for files that lead back to themselves.

This is said of texts in which every number sign starts a directive, so that no directive arises
where texts meet, and of files that can be read or do not exist.
-/

namespace ScopeScript.Insert

variable (read : String → Except ReadFailure (List Char))

/-- The text with every directive replaced by the expansion of its file. -/
inductive Expands : (text result : List Char) → Prop
  | nil : Expands [] []
  | char {c text result} : c ≠ '#' → Expands text result → Expands (c :: text) (c :: result)
  | insert {word text inner result} :
    IsWord word → Expands (contents read (fileName word)) inner → Expands text result →
      Expands (directive word ++ text) (inner ++ result)

/-- Files are nested at most so many levels deep: none without directives, and otherwise one more
than in any of the files that the text names. -/
def NestedWithin : (depth : Nat) → (text : List Char) → Prop
  | 0, text => ∀ file, ¬ Names text file
  | depth + 1, text => ∀ file, Names text file → NestedWithin depth (contents read file)

/-- The texts that take part in an expansion: the text itself and all files that it leads to. -/
inductive Involves (source : List Char) : List Char → Prop
  | source : Involves source source
  | file {text file} : Involves source text → Names text file → Involves source (contents read file)

/-- In all texts that take part, every number sign starts a directive for a file that can be read
or does not exist. -/
structure Regular (source : List Char) : Prop where
  marked : ∀ text, Involves read source text → Marked text
  readable : ∀ text file, Involves read source text → Names text file →
    (∃ inserted, read file = .ok inserted) ∨ read file = .error .notFound

/-- The text with every directive replaced by its file as it is. -/
inductive Replaces : (text result : List Char) → Prop
  | nil : Replaces [] []
  | char {c text result} : c ≠ '#' → Replaces text result → Replaces (c :: text) (c :: result)
  | insert {word text result} : IsWord word → Replaces text result →
      Replaces (directive word ++ text) (contents read (fileName word) ++ result)

/-- All known files hold what is read. -/
def KnowsOnly (known : List (String × Inclusion)) : Prop :=
  ∀ p ∈ known, p.2.text = contents read p.1

variable {read} {limit : Nat} {c : Char} {word text text' result result' rest : List Char}
  {file : String}

/-! ## Recursive expansion -/

/-- A plain character stays in front of the expansion of the rest. -/
theorem Expands.of_char (hc : c ≠ '#') (h : Expands read (c :: text) result) :
    ∃ rest, result = c :: rest ∧ Expands read text rest := by
  generalize hwhole : c :: text = whole at h
  cases h with
  | nil => cases hwhole
  | char _ h =>
    obtain ⟨rfl, rfl⟩ := List.cons.inj hwhole
    exact ⟨_, rfl, h⟩
  | insert => exact absurd (List.cons.inj hwhole).1 hc

/-- A directive is the expansion of its file in front of the expansion of the rest. -/
theorem Expands.of_directive (hword : IsWord word)
    (h : Expands read (directive word ++ text) result) :
    ∃ inner rest, result = inner ++ rest ∧ Expands read (contents read (fileName word)) inner ∧
      Expands read text rest := by
  generalize hwhole : directive word ++ text = whole at h
  cases h with
  | nil => cases hwhole
  | char hc _ => exact absurd (List.cons.inj hwhole).1.symm hc
  | insert hword' hinner h =>
    obtain ⟨hfile, rfl⟩ := directive_append_inj hword hword' hwhole
    exact ⟨_, _, rfl, hfile ▸ hinner, h⟩

/-- A text has one expansion at most. -/
theorem Expands.eq (h : Expands read text result) (h' : Expands read text result') :
    result = result' := by
  induction h generalizing result' with
  | nil =>
    generalize hwhole : [] = whole at h'
    cases h' with
    | nil => rfl
    | char => cases hwhole
    | insert => cases hwhole
  | char hc _ ih =>
    obtain ⟨rest, rfl, hrest⟩ := h'.of_char hc
    rw [ih hrest]
  | insert hword _ _ ihinner ih =>
    obtain ⟨inner, rest, rfl, hinner, hrest⟩ := h'.of_directive hword
    rw [ihinner hinner, ih hrest]

/-- Joined texts expand one after the other. -/
theorem Expands.of_append (h : Marked text) (he : Expands read (text ++ text') result) :
    ∃ front back, result = front ++ back ∧ Expands read text front ∧ Expands read text' back := by
  induction h using Marked.induction generalizing result with
  | nil => exact ⟨[], result, rfl, .nil, he⟩
  | char c text hc _ ih =>
    obtain ⟨rest, rfl, hrest⟩ := he.of_char hc
    obtain ⟨front, back, rfl, hfront, hback⟩ := ih hrest
    exact ⟨c :: front, back, rfl, .char hc hfront, hback⟩
  | insert word text hword _ ih =>
    rw [List.append_assoc] at he
    obtain ⟨inner, rest, rfl, hinner, hrest⟩ := he.of_directive hword
    obtain ⟨front, back, rfl, hfront, hback⟩ := ih hrest
    exact ⟨inner ++ front, back, by simp, .insert hword hinner hfront, hback⟩

/-- A text without directives expands to itself. -/
theorem expands_self (h : Marked text) (hnames : ∀ file, ¬ Names text file) :
    Expands read text text := by
  induction h using Marked.induction with
  | nil => exact .nil
  | char c text hc _ ih => exact .char hc (ih ((forall_names_cons hc).mp hnames))
  | insert word text hword _ _ =>
    exact ((forall_names_directive_append hword).mp hnames).1.elim

/-! ## Nesting -/

/-- A text without directives is nested within any depth. -/
theorem nestedWithin_of_no_names (hnames : ∀ file, ¬ Names text file) (depth : Nat) :
    NestedWithin read depth text := by
  cases depth with
  | zero => exact hnames
  | succ depth => exact fun file hfile => absurd hfile (hnames file)

/-- What takes part in an expansion is nested to some depth if the whole is. -/
theorem Involves.exists_nestedWithin {source : List Char} (h : Involves read source text)
    {depth : Nat} (hdepth : NestedWithin read depth source) : ∃ n, NestedWithin read n text := by
  induction h with
  | source => exact ⟨depth, hdepth⟩
  | file _ hfile ih =>
    obtain ⟨n, hn⟩ := ih
    cases n with
    | zero => exact absurd hfile (hn _)
    | succ n => exact ⟨n, hn _ hfile⟩

/-- A file that leads to itself is nested to no depth. -/
theorem not_nestedWithin_of_cycle
    (hcycle : Relation.TransGen (fun f g => Names (contents read f) g) file file) (depth : Nat) :
    ¬ NestedWithin read depth (contents read file) := by
  induction depth generalizing file with
  | zero =>
    intro hnone
    obtain ⟨next, hnext, -⟩ := Relation.TransGen.head'_iff.mp hcycle
    exact hnone next hnext
  | succ depth ih =>
    intro hdepth
    obtain ⟨next, hnext, hback⟩ := Relation.TransGen.head'_iff.mp hcycle
    -- The next file on the cycle leads to itself too.
    exact ih (Relation.TransGen.tail' hback hnext) (hdepth next hnext)

/-! ## One pass -/

/-- **A pass keeps the expansion.** -/
theorem Replaces.expands (hreplaces : Replaces read text text')
    (hmarked : ∀ file, Names text file → Marked (contents read file))
    (h : Expands read text' result) : Expands read text result := by
  induction hreplaces generalizing result with
  | nil => exact h
  | char hc _ ih =>
    rw [forall_names_cons hc] at hmarked
    obtain ⟨rest, rfl, hrest⟩ := h.of_char hc
    exact .char hc (ih hmarked hrest)
  | insert hword _ ih =>
    rw [forall_names_directive_append hword] at hmarked
    obtain ⟨inner, rest, rfl, hinner, hrest⟩ := h.of_append hmarked.1
    exact .insert hword hinner (ih hmarked.2 hrest)

/-- After a pass the text names what the files named by it name. -/
theorem Replaces.names_iff (hreplaces : Replaces read text text')
    (hmarked : ∀ file, Names text file → Marked (contents read file)) (file : String) :
    Names text' file ↔ ∃ outer, Names text outer ∧ Names (contents read outer) file := by
  induction hreplaces with
  | nil => simp [not_names_nil]
  | char hc _ ih =>
    rw [forall_names_cons hc] at hmarked
    simpa only [names_cons hc] using ih hmarked
  | insert hword _ ih =>
    rw [forall_names_directive_append hword] at hmarked
    rw [names_append hmarked.1, ih hmarked.2]
    simp only [names_directive_append hword, or_and_right, exists_or, exists_eq_left']

/-- Replacing directives by marked texts leaves a marked text. -/
theorem Replaces.marked (hreplaces : Replaces read text text')
    (hmarked : ∀ file, Names text file → Marked (contents read file)) : Marked text' := by
  induction hreplaces with
  | nil => exact .nil
  | char hc _ ih =>
    rw [forall_names_cons hc] at hmarked
    exact .char hc (ih hmarked)
  | insert hword _ ih =>
    rw [forall_names_directive_append hword] at hmarked
    exact hmarked.1.append (ih hmarked.2)

/-- **A pass takes one level away.** -/
theorem Replaces.nestedWithin_iff (hreplaces : Replaces read text text')
    (hmarked : ∀ file, Names text file → Marked (contents read file)) (depth : Nat) :
    NestedWithin read (depth + 1) text ↔ NestedWithin read depth text' := by
  have hnames := hreplaces.names_iff hmarked
  cases depth with
  | zero =>
    simp only [NestedWithin, hnames]
    exact ⟨fun h file ⟨outer, houter, hfile⟩ => h outer houter file hfile,
      fun h outer houter file hfile => h file ⟨outer, houter, hfile⟩⟩
  | succ depth =>
    simp only [NestedWithin, hnames]
    exact ⟨fun h file ⟨outer, houter, hfile⟩ => h outer houter file hfile,
      fun h outer houter file hfile => h file ⟨outer, houter, hfile⟩⟩

namespace Regular

variable {source : List Char} (hregular : Regular read source)

include hregular

/-- The files of regular texts are marked. -/
theorem marked_contents (file : String) (hfile : Names source file) :
    Marked (contents read file) := hregular.marked _ (.file .source hfile)

/-- Texts stay regular in a pass. -/
theorem replaces (hreplaces : Replaces read source text') : Regular read text' := by
  have hmarked := hregular.marked_contents
  have hinvolves : ∀ t, Involves read text' t → t = text' ∨ Involves read source t := by
    intro t ht
    induction ht with
    | source => exact .inl rfl
    | file _ hfile ih =>
      obtain rfl | hsource := ih
      · obtain ⟨outer, houter, hinner⟩ := (hreplaces.names_iff hmarked _).mp hfile
        exact .inr (.file (.file .source houter) hinner)
      · exact .inr (.file hsource hfile)
  constructor
  · intro t ht
    obtain rfl | hsource := hinvolves t ht
    · exact hreplaces.marked hmarked
    · exact hregular.marked t hsource
  · intro t file ht hfile
    obtain rfl | hsource := hinvolves t ht
    · obtain ⟨outer, houter, hinner⟩ := (hreplaces.names_iff hmarked _).mp hfile
      exact hregular.readable _ file (.file .source houter) hinner
    · exact hregular.readable t file hsource hfile

end Regular

/-! ## The sweep -/

/-- A file that can be read or does not exist is included as it is. -/
theorem include?_of_readable {known : List (String × Inclusion)} (hknown : KnowsOnly read known)
    (hread : (∃ inserted, read file = .ok inserted) ∨ read file = .error .notFound) :
    ∃ inclusion known', include? read known file = .ok (inclusion, known') ∧
      inclusion.text = contents read file ∧ KnowsOnly read known' := by
  obtain ⟨inclusion, hmem, hinclude⟩ | ⟨inclusion, rfl, -, hinclude⟩ | ⟨hnot, -⟩ :=
    include?_cases read known file
  · exact ⟨inclusion, known, hinclude, hknown _ hmem, hknown⟩
  · exact ⟨_, _, hinclude, rfl, List.forall_mem_cons.mpr ⟨rfl, hknown⟩⟩
  · exact absurd hread hnot

/-- A directive is replaced by its file, if this does not make the text too large. -/
theorem sweep_directive (hword : IsWord word) {s : Sweep} {inclusion : Inclusion}
    {known : List (String × Inclusion)}
    (hinclude : include? read s.known (fileName word) = .ok (inclusion, known)) (size : Nat)
    (rest : List Char) :
    sweep read limit s size (directive word ++ rest) = .error (.tooLarge (fileName word) limit) ∨
      ∃ size', sweep read limit s size (directive word ++ rest) =
        sweep read limit ⟨known, inclusion.text.reverseAux s.done, s.size + inclusion.size⟩ size'
          rest := by
  rw [sweep_of_include hword hinclude]
  split
  · exact .inl rfl
  · exact .inr ⟨_, rfl⟩

/-- **A sweep makes one pass**, unless it makes the text too large. -/
theorem sweep_replaces (hmarked : Marked text)
    (hread : ∀ file, Names text file →
      (∃ inserted, read file = .ok inserted) ∨ read file = .error .notFound)
    (s : Sweep) (hknown : KnowsOnly read s.known) (limit size : Nat) :
    (∃ file, sweep read limit s size text = .error (.tooLarge file limit)) ∨
      ∃ s' text', sweep read limit s size text = .ok s' ∧ Replaces read text text' ∧
        s'.done = text'.reverse ++ s.done ∧ KnowsOnly read s'.known := by
  induction hmarked using Marked.induction generalizing s size with
  | nil => exact .inr ⟨s, [], by rw [sweep], .nil, rfl, hknown⟩
  | char c text hc _ ih =>
    rw [forall_names_cons hc] at hread
    rw [sweep_of_plain (plain_of_ne hc text)]
    obtain hlarge | ⟨s', text', hsweep, hreplaces, hdone, hknown'⟩ :=
      ih hread ⟨s.known, c :: s.done, s.size + c.utf8Size⟩ hknown (size - c.utf8Size)
    · exact .inl hlarge
    · exact .inr ⟨s', c :: text', hsweep, .char hc hreplaces, by simp [hdone], hknown'⟩
  | insert word text hword _ ih =>
    rw [forall_names_directive_append hword] at hread
    obtain ⟨inclusion, known, hinclude, htext, hknown'⟩ := include?_of_readable hknown hread.1
    obtain hlarge | ⟨size', hsweep⟩ := sweep_directive hword hinclude size text
    · exact .inl ⟨_, hlarge⟩
    · rw [hsweep]
      obtain hlarge | ⟨s', text', hsweep', hreplaces, hdone, hknown''⟩ :=
        ih hread.2 ⟨known, inclusion.text.reverseAux s.done, s.size + inclusion.size⟩ hknown' size'
      · exact .inl hlarge
      · refine .inr ⟨s', _, hsweep', .insert hword hreplaces, ?_, hknown''⟩
        simp [hdone, htext, List.reverseAux_eq]

/-! ## All passes -/

/-- Without directives there is nothing to do. -/
theorem expandWithin_of_none (hfirst : firstFile? text = none) (total passes : Nat)
    (known : List (String × Inclusion)) (size : Nat) :
    expandWithin read limit total passes known size text = .ok text := by
  cases passes <;> simp [expandWithin, hfirst]

/-- With a directive there is one more pass, unless the sweep fails. -/
theorem expandWithin_of_error (hfirst : firstFile? text = some file) {size : Nat} {e : InsertError}
    {known : List (String × Inclusion)} (hsweep : sweep read limit ⟨known, [], 0⟩ size text =
      .error e) (total passes : Nat) :
    expandWithin read limit total (passes + 1) known size text = .error e := by
  conv_lhs => unfold expandWithin
  simp only [hfirst, hsweep]

/-- A pass with a directive in its text is followed by the next one. -/
theorem expandWithin_of_ok (hfirst : firstFile? text = some file) {size : Nat} {s : Sweep}
    {known : List (String × Inclusion)} (hsweep : sweep read limit ⟨known, [], 0⟩ size text =
      .ok s) (total passes : Nat) :
    expandWithin read limit total (passes + 1) known size text =
      expandWithin read limit total passes s.known s.size s.done.reverse := by
  conv_lhs => unfold expandWithin
  simp only [hfirst, hsweep]

/-- **What the passes come to**: the expansion if files are not nested deeper than there are
passes, and otherwise the end of the passes. -/
theorem expandWithin_cases {passes : Nat} {known : List (String × Inclusion)}
    (hregular : Regular read text) (hknown : KnowsOnly read known) (total size : Nat)
    (hsize : ∀ file, expandWithin read limit total passes known size text ≠
      .error (.tooLarge file limit)) :
    (NestedWithin read passes text ∧ ∃ result, Expands read text result ∧
      expandWithin read limit total passes known size text = .ok result) ∨
    (¬ NestedWithin read passes text ∧
      ∃ file, expandWithin read limit total passes known size text =
        .error (.limitExceeded file total)) := by
  induction passes generalizing text known size with
  | zero =>
    have hmarked := hregular.marked text .source
    obtain ⟨file, hfirst, hfile⟩ | ⟨hfirst, hnames⟩ := firstFile?_cases text
    · exact .inr ⟨fun hnone => hnone file hfile, file, by simp [expandWithin, hfirst]⟩
    · have hself : Expands read text text := expands_self hmarked hnames
      exact .inl ⟨hnames, text, hself, expandWithin_of_none hfirst _ _ _ _⟩
  | succ passes ih =>
    have hmarked := hregular.marked text .source
    have hcontents := hregular.marked_contents
    obtain ⟨file, hfirst, hfile⟩ | ⟨hfirst, hnames⟩ := firstFile?_cases text
    · have hread := fun file => hregular.readable text file .source
      obtain ⟨f, hlarge⟩ | ⟨s, text', hsweep, hreplaces, hdone, hknown'⟩ :=
        sweep_replaces hmarked hread ⟨known, [], 0⟩ hknown limit size
      · exact absurd (expandWithin_of_error hfirst hlarge total passes) (hsize f)
      · have htext : s.done.reverse = text' := by simp [hdone]
        simp only [expandWithin_of_ok hfirst hsweep, htext] at hsize ⊢
        rw [hreplaces.nestedWithin_iff hcontents]
        obtain ⟨hdepth, result, hresult, hok⟩ | hlimit :=
          ih (hregular.replaces hreplaces) hknown' _ hsize
        · exact .inl ⟨hdepth, result, hreplaces.expands hcontents hresult, hok⟩
        · exact .inr hlimit
    · have hself : Expands read text text := expands_self hmarked hnames
      exact .inl ⟨nestedWithin_of_no_names hnames _, text, hself,
        expandWithin_of_none hfirst _ _ _ _⟩

end Insert

open ScopeScript.Insert

/-- **Passes expand as recursion does.** If the text does not become too large, the result is the
recursive expansion, the only one that there is, as long as files are not nested deeper than there
are passes; otherwise the passes run out. They always do where a file leads to itself. -/
theorem expandInserts_eq_recursive {read : String → Except ReadFailure (List Char)}
    {limits : InsertLimits} {source : List Char} (hregular : Regular read source)
    (hsize : ∀ file limit, expandInserts read limits source ≠ .error (.tooLarge file limit)) :
    (NestedWithin read limits.passes source →
      ∃ result, expandInserts read limits source = .ok result ∧
        ∀ other, Expands read source other ↔ other = result) ∧
    (¬ NestedWithin read limits.passes source →
      ∃ file, expandInserts read limits source = .error (.limitExceeded file limits.passes)) ∧
    ∀ text file, Involves read source text → Names text file →
      Relation.TransGen (fun f g => Names (contents read f) g) file file →
      ∃ f, expandInserts read limits source = .error (.limitExceeded f limits.passes) := by
  have hcases := expandWithin_cases hregular (fun _ h => absurd h List.not_mem_nil) limits.passes
    (byteSize source) (fun file => hsize file limits.size)
  rw [← expandInserts] at hcases
  have hdeep : ¬ NestedWithin read limits.passes source →
      ∃ file, expandInserts read limits source = .error (.limitExceeded file limits.passes) :=
    fun hnot => (hcases.resolve_left fun h => hnot h.1).2
  refine ⟨fun hnested => ?_, hdeep, fun text file htext hfile hcycle => hdeep fun hnested => ?_⟩
  · obtain ⟨-, result, hresult, hok⟩ := hcases.resolve_right fun h => h.1 hnested
    exact ⟨result, hok, fun other => ⟨fun hother => hother.eq hresult, fun h => h ▸ hresult⟩⟩
  · obtain ⟨n, hn⟩ := (htext.file hfile).exists_nestedWithin hnested
    exact not_nestedWithin_of_cycle hcycle n hn

/-- A file that names another one, and a file that names itself. -/
def nestedFiles (file : String) : Except ReadFailure (List Char) :=
  if file = "outer.txt" then .ok ('<' :: (directive ['i', 'n'] ++ ['>']))
  else if file = "in.txt" then .ok ['x']
  else if file = "self.txt" then .ok (directive ['s', 'e', 'l', 'f'] ++ [])
  else .error .notFound

/-- A directive for the first of these files, with the text behind it. -/
def outerSource : List Char := directive ['o', 'u', 't', 'e', 'r'] ++ [' ', 'y']

/-- A directive for the file that names itself. -/
def selfSource : List Char := directive ['s', 'e', 'l', 'f'] ++ []

/-- The name of the inner file is a word. -/
theorem isWord_in : IsWord ['i', 'n'] := ⟨by simp, by simp [isWordChar, isAsciiWordChar]⟩

/-- The name of the outer file is a word. -/
theorem isWord_outer : IsWord ['o', 'u', 't', 'e', 'r'] :=
  ⟨by simp, by simp [isWordChar, isAsciiWordChar]⟩

/-- The name of the file that names itself is a word. -/
theorem isWord_self : IsWord ['s', 'e', 'l', 'f'] :=
  ⟨by simp, by simp [isWordChar, isAsciiWordChar]⟩

/-- What the directives of these texts name. -/
theorem names_nestedFiles (file : String) :
    (Names outerSource file ↔ file = "outer.txt") ∧
    (Names (contents nestedFiles "outer.txt") file ↔ file = "in.txt") ∧
    ¬ Names (contents nestedFiles "in.txt") file ∧
    (Names selfSource file ↔ file = "self.txt") := by
  have hin : fileName ['i', 'n'] = "in.txt" := by decide
  have houter : fileName ['o', 'u', 't', 'e', 'r'] = "outer.txt" := by decide
  have hself : fileName ['s', 'e', 'l', 'f'] = "self.txt" := by decide
  have hcontents : contents nestedFiles "outer.txt" = '<' :: (directive ['i', 'n'] ++ ['>']) := rfl
  refine ⟨?_, ?_, ?_, ?_⟩
  · rw [outerSource, names_directive_append isWord_outer, names_cons (by decide),
      names_cons (by decide), houter]
    simp [not_names_nil, eq_comm]
  · rw [hcontents, names_cons (by decide), names_directive_append isWord_in, names_cons (by decide),
      hin]
    simp [not_names_nil, eq_comm]
  · exact fun h => not_names_nil file ((names_cons (by decide)).mp h)
  · rw [selfSource, names_directive_append isWord_self, hself]
    simp [not_names_nil, eq_comm]

/-- The text that names the outer file is regular. -/
theorem regular_outerSource : Regular nestedFiles outerSource := by
  have hnames := fun file => names_nestedFiles file
  have hinvolved : ∀ text, Involves nestedFiles outerSource text → text = outerSource ∨
      text = contents nestedFiles "outer.txt" ∨ text = contents nestedFiles "in.txt" := by
    intro text htext
    induction htext with
    | source => exact .inl rfl
    | @file text file _ hfile ih =>
      obtain rfl | rfl | rfl := ih
      · exact .inr (.inl (by rw [(hnames file).1.mp hfile]))
      · exact .inr (.inr (by rw [(hnames file).2.1.mp hfile]))
      · exact absurd hfile (hnames file).2.2.1
  constructor
  · intro text htext
    obtain rfl | rfl | rfl := hinvolved text htext
    · exact .insert isWord_outer (.char (by decide) (.char (by decide) .nil))
    · exact .char (by decide) (.insert isWord_in (.char (by decide) .nil))
    · exact .char (by decide) .nil
  · intro text file htext hfile
    obtain rfl | rfl | rfl := hinvolved text htext
    · exact .inl (by rw [(hnames file).1.mp hfile]; exact ⟨_, rfl⟩)
    · exact .inl (by rw [(hnames file).2.1.mp hfile]; exact ⟨_, rfl⟩)
    · exact absurd hfile (hnames file).2.2.1

/-- The text that names the file that names itself is regular. -/
theorem regular_selfSource : Regular nestedFiles selfSource := by
  have hnames := fun file => (names_nestedFiles file).2.2.2
  have hcontents : contents nestedFiles "self.txt" = selfSource := rfl
  have hinvolved : ∀ text, Involves nestedFiles selfSource text → text = selfSource := by
    intro text htext
    induction htext with
    | source => rfl
    | @file text file _ hfile ih =>
      subst ih
      rw [(hnames file).mp hfile, hcontents]
  constructor
  · rintro text htext
    rw [hinvolved text htext]
    exact .insert isWord_self .nil
  · rintro text file htext hfile
    rw [hinvolved text htext] at hfile
    exact .inl (by rw [(hnames file).mp hfile]; exact ⟨_, rfl⟩)

/-- Two nested files take two passes and not one, and the file that names itself takes up all
passes. -/
theorem expandInserts_eq_recursive_nestedFiles :
    (Regular nestedFiles outerSource ∧ NestedWithin nestedFiles 2 outerSource ∧
      ¬ NestedWithin nestedFiles 1 outerSource ∧ Regular nestedFiles selfSource) ∧
    (∃ result, expandInserts nestedFiles ⟨2, 99⟩ outerSource = .ok result ∧
      ∀ other, Expands nestedFiles outerSource other ↔ other = result) ∧
    (∃ file, expandInserts nestedFiles ⟨1, 99⟩ outerSource = .error (.limitExceeded file 1)) ∧
    ∃ file, expandInserts nestedFiles ⟨2, 99⟩ selfSource = .error (.limitExceeded file 2) := by
  have hnames := fun file => names_nestedFiles file
  have htwo : expandInserts nestedFiles ⟨2, 99⟩ outerSource = .ok ['<', 'x', '>', ' ', 'y'] := by
    decide +kernel
  have hone : expandInserts nestedFiles ⟨1, 99⟩ outerSource =
      .error (.limitExceeded "in.txt" 1) := by decide +kernel
  have hself : expandInserts nestedFiles ⟨2, 99⟩ selfSource =
      .error (.limitExceeded "self.txt" 2) := by decide +kernel
  have hnested : NestedWithin nestedFiles 2 outerSource := by
    intro file hfile
    rw [(hnames file).1.mp hfile]
    intro file hfile
    rw [(hnames file).2.1.mp hfile]
    exact fun file => (hnames file).2.2.1
  have hdeep : ¬ NestedWithin nestedFiles 1 outerSource := by
    intro h
    exact h "outer.txt" ((hnames _).1.mpr rfl) "in.txt" ((hnames _).2.1.mpr rfl)
  have hcycle : Names (contents nestedFiles "self.txt") "self.txt" := (hnames _).2.2.2.mpr rfl
  refine ⟨⟨regular_outerSource, hnested, hdeep, regular_selfSource⟩, ?_, ?_, ?_⟩
  · exact (expandInserts_eq_recursive regular_outerSource (by simp [htwo])).1 hnested
  · exact (expandInserts_eq_recursive regular_outerSource (by simp [hone])).2.1 hdeep
  · exact (expandInserts_eq_recursive regular_selfSource (by simp [hself])).2.2 _ "self.txt" .source
      hcycle (.single hcycle)

end ScopeScript
