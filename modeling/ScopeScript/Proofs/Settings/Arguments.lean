import Mathlib.Data.List.Basic
import ScopeScript.Settings

/-!
# Groups of arguments

Arguments are read in groups: an option that takes a value makes up a group with the argument
behind it, whatever that looks like, and every other argument is a group of its own. The first call
for help or the first fault decides what a list of arguments comes to. If there is neither, each
setting is that of the last group of its kind, so the groups may be arranged in any other way that
keeps the order within each kind.
-/

namespace ScopeScript

namespace Command

/-! ## Groups -/

/-- Arguments that are read together. -/
inductive Group where
  | help (flag : String)
  | interactive (flag : String)
  /-- The option for the limit on calls, and the argument behind it if there is one. -/
  | depth (value : Option String)
  /-- The option for the directory, and the argument behind it if there is one. -/
  | directory (value : Option String)
  | unknown (option : String)
  | file (name : String)
  deriving Repr, DecidableEq

/-- The kinds of groups. -/
inductive Kind where
  | help
  | interactive
  | depth
  | directory
  | unknown
  | file
  deriving Repr, DecidableEq

namespace Group

/-- The kind of a group. -/
def kind : Group → Kind
  | help _ => .help
  | interactive _ => .interactive
  | depth _ => .depth
  | directory _ => .directory
  | unknown _ => .unknown
  | file _ => .file

/-- The arguments that make up a group. -/
def arguments : Group → List String
  | help flag => [flag]
  | interactive flag => [flag]
  | depth value => "--max-depth" :: value.toList
  | directory value => "--include-dir" :: value.toList
  | unknown option => [option]
  | file name => [name]

/-- The group of an argument that takes no value. -/
def ofArgument (argument : String) : Group :=
  if argument = "-h" ∨ argument = "--help" then help argument
  else if argument = "-i" ∨ argument = "--interactive" then interactive argument
  else if argument.startsWith "-" then unknown argument
  else file argument

/-- What is wrong with a group. -/
def fault? : Group → Option ArgumentError
  | depth none => some .depthMissing
  | depth (some value) => if readCount? value = none then some (.depthUnreadable value) else none
  | directory none => some .directoryMissing
  | unknown option => some (.unknownOption option)
  | _ => none

/-- A group is neither a call for help nor at fault. -/
def IsSetting (g : Group) : Prop := g.kind ≠ .help ∧ g.fault? = none

instance : DecidablePred IsSetting := fun _ => inferInstanceAs (Decidable (_ ∧ _))

/-- The main file that a group names. -/
def mainFile? : Group → Option String
  | file name => some name
  | _ => none

/-- The directory that a group names. -/
def includeDirectory? : Group → Option String
  | directory value => value
  | _ => none

/-- The limit on calls that a group sets. -/
def maxDepth? : Group → Option Nat
  | depth (some value) => readCount? value
  | _ => none

/-- Settings with what a group changes about them. -/
def apply (settings : Settings) (g : Group) : Settings :=
  { settings with
    mainFile := g.mainFile?.getD settings.mainFile
    includeDirectory := g.includeDirectory?.getD settings.includeDirectory
    maxDepth := g.maxDepth?.getD settings.maxDepth
    interactive := g.kind == .interactive || settings.interactive }

end Group

/-- Cut arguments into groups, from left to right. -/
def cut : List String → List Group
  | [] => []
  | "--max-depth" :: [] => [.depth none]
  | "--max-depth" :: value :: rest => .depth (some value) :: cut rest
  | "--include-dir" :: [] => [.directory none]
  | "--include-dir" :: value :: rest => .directory (some value) :: cut rest
  | argument :: rest => .ofArgument argument :: cut rest

/-- What groups come to, read one after the other on top of the settings made so far. -/
def follow (settings : Settings) : List Group → Except ArgumentError Command
  | [] => .ok (.run settings)
  | g :: rest =>
    if g.kind = .help then .ok .help
    else
      match g.fault? with
      | some e => .error e
      | none => follow (g.apply settings) rest

/-- Settings on top of others: each one is that of the last group of its kind. -/
def settingsOf (settings : Settings) (groups : List Group) : Settings :=
  { settings with
    mainFile := (groups.filterMap Group.mainFile?).getLastD settings.mainFile
    includeDirectory :=
      (groups.filterMap Group.includeDirectory?).getLastD settings.includeDirectory
    maxDepth := (groups.filterMap Group.maxDepth?).getLastD settings.maxDepth
    interactive := (groups.any fun g => g.kind == .interactive) || settings.interactive }

variable {settings : Settings} {groups before after : List Group} {g : Group}

/-! ## Cutting -/

/-- An option that is followed neither by nothing nor by a value does not stand there. -/
theorem ne_of_not_option {argument option : String} {rest : List String}
    (hlast : argument = option → rest = [] → False)
    (hvalue : ∀ value more, argument = option → rest = value :: more → False) :
    argument ≠ option := by
  rintro rfl
  cases rest with
  | nil => exact hlast rfl rfl
  | cons value more => exact hvalue value more rfl rfl

/-- An argument that takes no value is a group of its own. -/
theorem cut_cons {argument : String} (rest : List String) (hdepth : argument ≠ "--max-depth")
    (hdirectory : argument ≠ "--include-dir") :
    cut (argument :: rest) = .ofArgument argument :: cut rest := by
  rw [cut]
  · exact fun h _ => hdepth h
  · exact fun _ _ h _ => hdepth h
  · exact fun h _ => hdirectory h
  · exact fun _ _ h _ => hdirectory h

/-- The arguments of such a group are that argument. -/
theorem arguments_ofArgument (argument : String) :
    (Group.ofArgument argument).arguments = [argument] := by
  unfold Group.ofArgument
  split_ifs <;> rfl

/-- The groups make up the arguments. -/
theorem flatMap_cut (arguments : List String) :
    (cut arguments).flatMap Group.arguments = arguments := by
  fun_induction cut arguments with
  | case1 | case2 | case4 => rfl
  | case3 value rest ih | case5 value rest ih =>
    rw [List.flatMap_cons, ih]
    rfl
  | case6 argument rest _ _ _ _ ih =>
    rw [List.flatMap_cons, ih, arguments_ofArgument, List.singleton_append]

/-- A group without a fault is cut off wherever its arguments stand. -/
theorem cut_append {arguments : List String} (hg : g ∈ cut arguments) (hfault : g.fault? = none)
    (rest : List String) : cut (g.arguments ++ rest) = g :: cut rest := by
  fun_induction cut arguments with
  | case1 => cases hg
  | case2 | case4 =>
    obtain rfl := List.mem_singleton.mp hg
    cases hfault
  | case3 value more ih | case5 value more ih =>
    obtain rfl | hg := List.mem_cons.mp hg
    · rfl
    · exact ih hg
  | case6 argument more hdepth hdepth' hdirectory hdirectory' ih =>
    obtain rfl | hg := List.mem_cons.mp hg
    · rw [arguments_ofArgument, List.singleton_append]
      exact cut_cons rest (ne_of_not_option hdepth hdepth')
        (ne_of_not_option hdirectory hdirectory')
    · exact ih hg

/-- Groups without a fault are cut out of their arguments. -/
theorem cut_flatMap {arguments : List String}
    (hgroups : ∀ g ∈ groups, g ∈ cut arguments ∧ g.fault? = none) :
    cut (groups.flatMap Group.arguments) = groups := by
  induction groups with
  | nil => rfl
  | cons g rest ih =>
    obtain ⟨⟨hg, hfault⟩, hrest⟩ := List.forall_mem_cons.mp hgroups
    rw [List.flatMap_cons, cut_append hg hfault, ih hrest]

/-! ## Reading -/

/-- **Arguments are read in groups.** -/
theorem ofArgumentsFrom_eq_follow (settings : Settings) (arguments : List String) :
    ofArgumentsFrom settings arguments = follow settings (cut arguments) := by
  fun_induction ofArgumentsFrom settings arguments with
  | case1 | case2 | case3 | case6 | case9 => rfl
  | case4 _ _ ih | case5 _ _ ih | case10 _ _ _ ih => exact ih
  | case7 settings value rest n hn ih =>
    have hfault : (Group.depth (some value)).fault? = none := by simp [Group.fault?, hn]
    have happly : (Group.depth (some value)).apply settings = { settings with maxDepth := n } := by
      rw [Group.apply, Group.maxDepth?, hn]
      rfl
    rw [ih, cut, follow, hfault, happly]
    rfl
  | case8 settings value rest hn =>
    have hfault : (Group.depth (some value)).fault? = some (.depthUnreadable value) := by
      simp [Group.fault?, hn]
    rw [cut, follow, hfault]
    rfl
  | case11 settings argument rest hh hhelp hi hinteractive hdepth hdepth' hdir hdir' hoption =>
    rw [cut_cons rest (ne_of_not_option hdepth hdepth') (ne_of_not_option hdir hdir')]
    have hgroup : Group.ofArgument argument = .unknown argument := by
      rw [Group.ofArgument, if_neg (not_or.mpr ⟨hh, hhelp⟩), if_neg (not_or.mpr ⟨hi, hinteractive⟩),
        if_pos hoption]
    rw [hgroup]
    rfl
  | case12 settings argument rest hh hhelp hi hinteractive hdepth hdepth' hdir hdir' hfile ih =>
    rw [cut_cons rest (ne_of_not_option hdepth hdepth') (ne_of_not_option hdir hdir')]
    have hgroup : Group.ofArgument argument = .file argument := by
      rw [Group.ofArgument, if_neg (not_or.mpr ⟨hh, hhelp⟩), if_neg (not_or.mpr ⟨hi, hinteractive⟩),
        if_neg hfile]
    rw [hgroup]
    exact ih

/-- The arguments are read as the groups that they are cut into. -/
theorem ofArguments_eq_follow (arguments : List String) :
    ofArguments arguments = follow {} (cut arguments) :=
  ofArgumentsFrom_eq_follow {} arguments

/-- The last that the groups say, or else what the first one says. -/
theorem getLastD_filterMap_cons {α : Type} (f : Group → Option α) (d : α) :
    ((g :: groups).filterMap f).getLastD d = (groups.filterMap f).getLastD ((f g).getD d) := by
  cases h : f g with
  | none => rw [List.filterMap_cons_none h, Option.getD_none]
  | some a => rw [List.filterMap_cons_some h, List.getLastD_cons, Option.getD_some]

/-- The settings of several groups are made by the first one and by the rest. -/
theorem settingsOf_cons :
    settingsOf settings (g :: groups) = settingsOf (g.apply settings) groups := by
  simp only [settingsOf, Group.apply, getLastD_filterMap_cons, List.any_cons, Bool.or_assoc,
    Bool.or_left_comm]

/-- What groups change about settings, one after the other. -/
theorem foldl_apply : groups.foldl Group.apply settings = settingsOf settings groups := by
  induction groups generalizing settings with
  | nil => rfl
  | cons g rest ih => rw [List.foldl_cons, ih, settingsOf_cons]

/-- Groups that make settings are passed by. -/
theorem follow_append (hbefore : ∀ b ∈ before, b.IsSetting) :
    follow settings (before ++ after) = follow (before.foldl Group.apply settings) after := by
  induction before generalizing settings with
  | nil => rfl
  | cons b rest ih =>
    obtain ⟨⟨hkind, hfault⟩, hrest⟩ := List.forall_mem_cons.mp hbefore
    rw [List.cons_append, follow, if_neg hkind, hfault]
    exact ih hrest

/-- A call for help is heard if no fault comes before it. -/
theorem follow_help (hbefore : ∀ b ∈ before, b.fault? = none) (hg : g.kind = .help) :
    follow settings (before ++ g :: after) = .ok .help := by
  induction before generalizing settings with
  | nil => rw [List.nil_append, follow, if_pos hg]
  | cons b rest ih =>
    obtain ⟨hfault, hrest⟩ := List.forall_mem_cons.mp hbefore
    rw [List.cons_append, follow, hfault]
    split
    · rfl
    · exact ih hrest

/-- Groups that all make settings come to these settings. -/
theorem follow_of_isSetting (hgroups : ∀ g ∈ groups, g.IsSetting) :
    follow settings groups = .ok (.run (settingsOf settings groups)) := by
  rw [← List.append_nil groups, follow_append hgroups, foldl_apply, List.append_nil]
  rfl

/-- Where there is no call for help and no fault, there are settings. -/
theorem isSetting_of_follow {result : Settings} (h : follow settings groups = .ok (.run result)) :
    ∀ g ∈ groups, g.IsSetting := by
  induction groups generalizing settings with
  | nil => simp
  | cons g rest ih =>
    rw [follow] at h
    split at h
    · cases h
    · next hkind =>
      cases hfault : g.fault? with
      | some e => simp [hfault] at h
      | none =>
        rw [hfault] at h
        exact List.forall_mem_cons.mpr ⟨⟨hkind, hfault⟩, ih h⟩

/-- A group at fault is no call for help. -/
theorem kind_ne_help_of_fault? {e : ArgumentError} (h : g.fault? = some e) : g.kind ≠ .help := by
  cases g with
  | help => cases h
  | _ => exact Kind.noConfusion

/-! ## Rearranging -/

/-- What only groups of one kind have can be read off the groups of that kind. -/
theorem filterMap_filter_kind {α : Type} {f : Group → Option α} {kind : Kind}
    (hf : ∀ g, f g ≠ none → g.kind = kind) :
    (groups.filter fun g => g.kind == kind).filterMap f = groups.filterMap f := by
  rw [List.filterMap_filter]
  refine List.filterMap_congr fun g _ => ?_
  split
  · rfl
  · next hkind =>
    exact (not_not.mp fun h => hkind (beq_iff_eq.mpr (hf g h))).symm

/-- Whether there is a group of a kind can be read off the groups of that kind. -/
theorem any_filter_kind {kind : Kind} :
    ((groups.filter fun g => g.kind == kind).any fun g => g.kind == kind) =
      groups.any fun g => g.kind == kind := by
  simp only [List.any_filter, Bool.and_self]

/-- The same groups of each kind, in the same order. -/
def Rearranged (groups groups' : List Group) : Prop :=
  ∀ kind, (groups'.filter fun g => g.kind == kind) = groups.filter fun g => g.kind == kind

variable {groups' : List Group}

/-- Rearranging groups adds none. -/
theorem Rearranged.mem (h : Rearranged groups groups') (hg : g ∈ groups') : g ∈ groups := by
  have hkind : g ∈ groups'.filter fun g' => g'.kind == g.kind :=
    List.mem_filter.mpr ⟨hg, beq_self_eq_true _⟩
  rw [h g.kind] at hkind
  exact (List.mem_filter.mp hkind).1

/-- Rearranged groups make the same settings. -/
theorem Rearranged.settingsOf_eq (h : Rearranged groups groups') :
    settingsOf settings groups' = settingsOf settings groups := by
  have hfile : ∀ g, Group.mainFile? g ≠ none → g.kind = .file := fun g hg => by
    cases g with
    | file => rfl
    | _ => exact absurd rfl hg
  have hdirectory : ∀ g, Group.includeDirectory? g ≠ none → g.kind = .directory := fun g hg => by
    cases g with
    | directory => rfl
    | _ => exact absurd rfl hg
  have hdepth : ∀ g, Group.maxDepth? g ≠ none → g.kind = .depth := fun g hg => by
    cases g with
    | depth => rfl
    | _ => exact absurd rfl hg
  rw [settingsOf, settingsOf, ← filterMap_filter_kind hfile, h, filterMap_filter_kind hfile,
    ← filterMap_filter_kind hdirectory, h, filterMap_filter_kind hdirectory,
    ← filterMap_filter_kind hdepth, h, filterMap_filter_kind hdepth, ← any_filter_kind, h,
    any_filter_kind]

/-- **What groups of arguments come to.** The groups that a list of arguments is cut into make it
up. A call for help is heard if no fault comes before it, otherwise the first fault is reported, and
without either of them each setting is that of the last group of its kind, with defaults for all
others. Arguments whose groups are rearranged, in the same order within each kind, come to the same
settings. -/
theorem ofArguments_of_groups (arguments : List String) :
    (cut arguments).flatMap Group.arguments = arguments ∧
    (∀ before g after, cut arguments = before ++ g :: after → (∀ b ∈ before, b.fault? = none) →
      g.kind = .help → ofArguments arguments = .ok .help) ∧
    (∀ before g after e, cut arguments = before ++ g :: after → (∀ b ∈ before, b.IsSetting) →
      g.fault? = some e → ofArguments arguments = .error e) ∧
    ((∀ g ∈ cut arguments, g.IsSetting) →
      ofArguments arguments = .ok (.run (settingsOf {} (cut arguments)))) ∧
    ∀ settings groups, ofArguments arguments = .ok (.run settings) →
      Rearranged (cut arguments) groups →
        ofArguments (groups.flatMap Group.arguments) = .ok (.run settings) := by
  refine ⟨flatMap_cut arguments, fun before g after hcut hbefore hg => ?_,
    fun before g after e hcut hbefore he => ?_, fun hsettings => ?_,
    fun settings groups hok hgroups => ?_⟩
  · rw [ofArguments_eq_follow, hcut, follow_help hbefore hg]
  · rw [ofArguments_eq_follow, hcut, follow_append hbefore, follow,
      if_neg (kind_ne_help_of_fault? he), he]
  · rw [ofArguments_eq_follow, follow_of_isSetting hsettings]
  · rw [ofArguments_eq_follow] at hok
    have hsettings := isSetting_of_follow hok
    have hcut : cut (groups.flatMap Group.arguments) = groups :=
      cut_flatMap fun g hg => ⟨hgroups.mem hg, (hsettings g (hgroups.mem hg)).2⟩
    have hsettings' : ∀ g ∈ groups, g.IsSetting := fun g hg => hsettings g (hgroups.mem hg)
    rw [ofArguments_eq_follow, hcut, follow_of_isSetting hsettings', hgroups.settingsOf_eq,
      ← follow_of_isSetting hsettings, hok]

/-- Arguments of which one is taken for a directory though it looks like a flag. -/
def takenFlag : List String :=
  ["a.txt", "--include-dir", "-h", "--max-depth", "7", "-i", "--max-depth", "+9", "b.txt"]

/-- The groups of these arguments, sorted by kind. -/
def takenFlagSorted : List Group :=
  [.depth (some "7"), .depth (some "+9"), .directory (some "-h"), .file "a.txt", .file "b.txt",
    .interactive "-i"]

/-- Help before a fault, a fault before help, and an option taken for the value of another one. -/
theorem ofArguments_of_groups_takenFlag :
    ofArguments ("-h" :: "-x" :: takenFlag) = .ok .help ∧
    ofArguments ("-i" :: "-x" :: "-h" :: takenFlag) = .error (.unknownOption "-x") ∧
    ∃ settings, settings = settingsOf {} (cut takenFlag) ∧ settings.maxDepth = 9 ∧
      settings.mainFile = "b.txt" ∧ ofArguments takenFlag = .ok (.run settings) ∧
      ofArguments (takenFlagSorted.flatMap Group.arguments) = .ok (.run settings) := by
  have hhelp := (ofArguments_of_groups ("-h" :: "-x" :: takenFlag)).2.1 [] (.help "-h")
    (cut ("-x" :: takenFlag)) (by decide +kernel) (by simp) rfl
  have hfault := (ofArguments_of_groups ("-i" :: "-x" :: "-h" :: takenFlag)).2.2.1
    [.interactive "-i"] (.unknown "-x") (cut ("-h" :: takenFlag)) _ (by decide +kernel)
    (by decide +kernel) rfl
  obtain ⟨-, -, -, hrun, hrearranged⟩ := ofArguments_of_groups takenFlag
  have hok := hrun (by decide +kernel)
  have hsorted : Rearranged (cut takenFlag) takenFlagSorted := by
    intro kind
    cases kind <;> decide +kernel
  exact ⟨hhelp, hfault, _, rfl, by decide +kernel, by decide +kernel, hok,
    hrearranged _ _ hok hsorted⟩

end Command

end ScopeScript
