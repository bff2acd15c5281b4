import ScopeScript.Pattern.Library
import ScopeScript.Proofs.Insert.Passes
import ScopeScript.Script

/-!
# Expanded scripts

The text that a script expands to has no directives left, so it may take the place of the script:
expanding it again changes nothing, whatever the limits and the files are. How it comes about is
settled by the script and the files alone. The limits decide whether expansion is given up, and
with higher limits it is given up less often; they never decide what it returns.
-/

namespace ScopeScript

open ScopeScript.Insert

/-- What the directives of a script find under the name of a file. -/
def includedTexts (settings : Settings) (read : String → Except ReadFailure String) :
    String → Except ReadFailure (List Char) :=
  fun name => (read (Files.join settings.includeDirectory name)).map String.toList

variable {settings : Settings} {read : String → Except ReadFailure String} {source result : String}

/-- Expanding a script is expanding its characters. -/
theorem expandScript_eq (settings : Settings) (read : String → Except ReadFailure String)
    (source : String) :
    expandScript settings read source =
      (expandInserts (includedTexts settings read) settings.insertLimits source.toList).map
        String.ofList := rfl

/-- A script expands to what the passes over it end with, if they end within the limits. -/
theorem expandScript_eq_ok_iff :
    expandScript settings read source = .ok result ↔
      ∃ passes texts, passes ≤ settings.maxPasses ∧ (∀ t ∈ texts, byteSize t ≤ settings.maxSize) ∧
        Passes (includedTexts settings read) passes source.toList texts result.toList := by
  refine Iff.trans ?_ (@expandInserts_eq_ok_iff _ settings.insertLimits _ _)
  rw [expandScript_eq]
  cases expandInserts (includedTexts settings read) settings.insertLimits source.toList with
  | error e => simp [Except.map]
  | ok text => simp [Except.map, ← String.toList_inj]

/-- A script fails to expand as its characters do. -/
theorem expandScript_eq_error_iff {e : InsertError} :
    expandScript settings read source = .error e ↔
      expandInserts (includedTexts settings read) settings.insertLimits source.toList =
        .error e := by
  rw [expandScript_eq]
  cases expandInserts (includedTexts settings read) settings.insertLimits source.toList with
  | error e => simp [Except.map]
  | ok text => simp [Except.map]

/-- A text without directives stands for itself, whatever the limits and the files are. -/
theorem expandScript_of_not_names (hnames : ∀ file, ¬ Names source.toList file)
    (settings : Settings) (read : String → Except ReadFailure String) :
    expandScript settings read source = .ok source :=
  expandScript_eq_ok_iff.mpr ⟨0, [], Nat.zero_le _, by simp, .nil hnames⟩

/-- Files that expand to the same text run alike under the same rules of evaluation. -/
theorem runFile_congr [SearchContext] {settings' : Settings}
    {read' : String → Except ReadFailure String} {path path' source' : String}
    (hread : read path = .ok source) (h : expandScript settings read source = .ok result)
    (hread' : read' path' = .ok source') (h' : expandScript settings' read' source' = .ok result)
    (hrules : settings'.rules = settings.rules) (sink : Sink) :
    runFile settings' read' path' sink = runFile settings read path sink := by
  simp only [runFile, hread, h, hread', h', hrules]

/-- **The text that a script expands to** has no directives. It is the end of the passes over the
script, and it is no larger than allowed if anything was replaced, nor was the text after any
replacement. Without directives it is the script; expanding it again, and running it in the place
of the script, comes to the same. -/
theorem expandScript_fixed [SearchContext] (h : expandScript settings read source = .ok result) :
    (∀ file, ¬ Names result.toList file) ∧
    ((∀ file, ¬ Names source.toList file) → result = source) ∧
    (∃ passes texts, Passes (includedTexts settings read) passes source.toList texts
      result.toList ∧ ∀ text ∈ texts, byteSize text ≤ settings.maxSize) ∧
    ((∃ file, Names source.toList file) → result.utf8ByteSize ≤ settings.maxSize) ∧
    (∀ settings' read', expandScript settings' read' result = .ok result) ∧
    ∀ settings' read' path path' sink, settings'.maxDepth = settings.maxDepth →
      read path = .ok source → read' path' = .ok result →
        runFile settings' read' path' sink = runFile settings read path sink := by
  obtain ⟨passes, texts, -, hsize, hpasses⟩ := expandScript_eq_ok_iff.mp h
  have hagain := expandScript_of_not_names hpasses.not_names
  refine ⟨hpasses.not_names, ?_, ⟨passes, texts, hpasses, hsize⟩, ?_, hagain, ?_⟩
  · intro hnames
    rw [expandScript_of_not_names hnames] at h
    exact (Except.ok.inj h).symm
  · rintro ⟨file, hnames⟩
    rw [← String.ofList_toList (s := result), ← byteSize_eq]
    exact hsize _ (hpasses.mem_of_names hnames)
  · intro settings' read' path path' sink hdepth hread hread'
    exact runFile_congr hread h hread' (hagain settings' read')
      (by rw [Settings.rules, Settings.rules, hdepth]) sink

/-- Files of which the first completes a directive for the second one. -/
def splitFiles (path : String) : Except ReadFailure String :=
  if path = "./front.txt" then .ok "#inse"
  else if path = "./body.txt" then .ok "print('x');"
  else if path = "main.txt" then .ok "#insert (front.txt)rt (body.txt)"
  else if path = "expanded.txt" then .ok "print('x');"
  else .error .notFound

/-- The directive that arises in the first pass is replaced in the second one. -/
theorem expandScript_fixed_splitFiles :
    expandScript {} splitFiles "#insert (front.txt)rt (body.txt)" = .ok "print('x');" ∧
    (∀ file, ¬ Names "print('x');".toList file) ∧
    (∀ settings read, expandScript settings read "print('x');" = .ok "print('x');") ∧
    ∀ sink, runFile { maxPasses := 0, maxSize := 0 } splitFiles "expanded.txt" sink =
      runFile {} splitFiles "main.txt" sink := by
  have h : expandScript {} splitFiles "#insert (front.txt)rt (body.txt)" = .ok "print('x');" := by
    decide +kernel
  obtain ⟨hnames, -, -, -, hagain, hrun⟩ := expandScript_fixed h
  have hmain : splitFiles "main.txt" = .ok "#insert (front.txt)rt (body.txt)" := by decide +kernel
  have hexpanded : splitFiles "expanded.txt" = .ok "print('x');" := by decide +kernel
  exact ⟨h, hnames, hagain, fun sink => hrun _ _ _ _ sink rfl hmain hexpanded⟩

/-- **Limits decide only whether expansion is given up.** A script that expands within limits
expands to the same text within higher ones. One that becomes too large, or names a file that
cannot be read, fails alike with more passes. And two expansions that succeed within any limits
have the same text. -/
theorem expandScript_of_higher_limits {passes size : Nat} (hpasses : settings.maxPasses ≤ passes)
    (hsize : settings.maxSize ≤ size) :
    (∀ result, expandScript settings read source = .ok result →
      expandScript { settings with maxPasses := passes, maxSize := size } read source =
        .ok result) ∧
    (∀ e, (∀ file n, e ≠ .limitExceeded file n) → expandScript settings read source = .error e →
      expandScript { settings with maxPasses := passes } read source = .error e) ∧
    ∀ passes' size' result result', expandScript settings read source = .ok result →
      expandScript { settings with maxPasses := passes', maxSize := size' } read source =
        .ok result' → result' = result := by
  refine ⟨fun result h => ?_, fun e he h => ?_, fun passes' size' result result' h h' => ?_⟩
  · obtain ⟨n, texts, hn, htexts, hend⟩ := expandScript_eq_ok_iff.mp h
    exact expandScript_eq_ok_iff.mpr
      ⟨n, texts, hn.trans hpasses, fun t ht => (htexts t ht).trans hsize, hend⟩
  · rw [expandScript_eq_error_iff, expandInserts] at h ⊢
    exact expandWithin_error_of_le he h hpasses
  · obtain ⟨n, texts, -, -, hend⟩ := expandScript_eq_ok_iff.mp h
    obtain ⟨n', texts', -, -, hend'⟩ := expandScript_eq_ok_iff.mp h'
    exact String.toList_inj.mp (hend'.unique hend).2

/-- A file that names another one, one that names itself twice, and a directory. -/
def limitedFiles (path : String) : Except ReadFailure String :=
  if path = "./outer.txt" then .ok "<#insert (in.txt)>"
  else if path = "./in.txt" then .ok "x"
  else if path = "./double.txt" then .ok "#insert (double.txt)#insert (double.txt)"
  else if path = "./folder.txt" then .error .isDirectory
  else .error .notFound

/-- With two passes more a script still expands to the same text, one that doubles itself still
becomes too large, and the directory still cannot be read. -/
theorem expandScript_of_higher_limits_limitedFiles :
    expandScript { maxPasses := 5, maxSize := 200 } limitedFiles "#insert (outer.txt) y" =
      .ok "<x> y" ∧
    expandScript { maxPasses := 5, maxSize := 99 } limitedFiles "#insert (double.txt)" =
      .error (.tooLarge "double.txt" 99) ∧
    expandScript { maxPasses := 5, maxSize := 99 } limitedFiles "#insert (folder.txt)" =
      .error (.unreadable "folder.txt" .isDirectory) ∧
    ∀ passes size text,
      expandScript { maxPasses := passes, maxSize := size } limitedFiles "#insert (outer.txt) y" =
        .ok text → text = "<x> y" := by
  have hnested : expandScript { maxPasses := 3, maxSize := 99 } limitedFiles
      "#insert (outer.txt) y" = .ok "<x> y" := by decide +kernel
  have hdoubled : expandScript { maxPasses := 3, maxSize := 99 } limitedFiles
      "#insert (double.txt)" = .error (.tooLarge "double.txt" 99) := by decide +kernel
  have hfolder : expandScript { maxPasses := 3, maxSize := 99 } limitedFiles
      "#insert (folder.txt)" = .error (.unreadable "folder.txt" .isDirectory) := by decide +kernel
  have hpasses : 3 ≤ 5 := by decide
  have hsize : 99 ≤ 200 := by decide
  exact ⟨(expandScript_of_higher_limits hpasses hsize).1 _ hnested,
    (expandScript_of_higher_limits hpasses hsize).2.1 _ (by simp) hdoubled,
    (expandScript_of_higher_limits hpasses hsize).2.1 _ (by simp) hfolder,
    fun passes size text =>
      (expandScript_of_higher_limits hpasses hsize).2.2 passes size _ text hnested⟩

end ScopeScript
