import LintFixture.Proofs.Fields
import LintFixture.Proofs.RuleLoading
import LintFixture.Proofs.RuleOrder
import LintFixture.Rule.Description

/-!
# What the linter of a configuration reports

A configuration has a registry if every rule that it enables is built in or comes from its rules
directory; otherwise the rules that are nowhere are named, in order. The linter of the registry asks
every enabled rule once, in the order of the configuration, and puts what they report one after the
other. The order of positions is laid over that; at one position the order of the rules stays.

Running rules passes over a name that nothing is registered for, and takes the empty name for the
one that a rule declares. Neither can happen to an enabled rule here: a registry that a
configuration has knows every name that it enables (`check_eq_ok_iff`), and no rule has the empty
name (`find?_empty`).

Results:
* `sortedFrom_iff`: sorting by position is the one stable way to do so.
* `Rule.reportsByFailure_of_builtin`, `Rule.reportsByFailure_of_description`: rules whose reports
  carry the name under which they are asked.
* `Registry.ofConfig_lints`: which configurations have a registry, and what it reports.
-/

namespace LintFixture

/-! ## Sorted lists -/

/-- A list is put in the order of positions, and what stands at one position keeps its order. -/
structure SortedFrom (ds sorted : List Diagnostic) : Prop where
  perm : sorted.Perm ds
  rises : sorted.Pairwise fun a b => a.position.le b.position = true
  stable : SameAtPositions sorted ds

/-- Sorting is the one way to put a list in the order of positions that keeps the order at each of
them. -/
theorem sortedFrom_iff {ds sorted : List Diagnostic} :
    SortedFrom ds sorted ↔ Diagnostic.sorted ds = sorted := by
  have hsorted : SortedFrom ds (Diagnostic.sorted ds) :=
    ⟨List.mergeSort_perm _ _, mergeSort_pairwise Diagnostic.position ds,
      mergeSort_filter Diagnostic.position ds⟩
  constructor
  · intro h
    exact eq_of_sameAtPositions hsorted.rises h.rises fun p =>
      (hsorted.stable p).trans (h.stable p).symm
  · rintro rfl
    exact hsorted

/-! ## Rules that report under their names -/

namespace Rule

/-- What a rule reports are failures under the name under which it is asked. -/
def ReportsByFailure (rule : Rule) : Prop :=
  ∀ options name source found, rule.check options name source = .ok found →
    ∀ d ∈ found, ∃ line column message width, failure name line column message width = .ok d

/-- A failure carries the name of the rule. -/
theorem rule_of_failure {name : String} {line column message width : Value} {d : Diagnostic}
    (h : failure name line column message width = .ok d) : d.rule = some name := by
  unfold failure at h
  dsimp only at h
  split at h
  · rename_i hfields
    cases h
    have hrule : Fields.Holds _ (some (.text name)) d.rule :=
      (Diagnostic.ofFields_eq_ok_iff.mp hfields).rule
    obtain ⟨rule, hrule, htext⟩ := hrule.exists_of_ne_null Value.noConfusion
    cases htext
    exact hrule
  · cases h

/-- A failure at a place with a text and a width is the diagnostic of these. -/
theorem failure_eq_ok (name : String) (line column width : Nat) (message : String) :
    failure name (.int line) (.int column) (.text message) (.int width) =
      .ok ⟨line, column, some (width : Int), message, some name⟩ := by
  have hfields : Diagnostic.ofFields (.ofEntries [("line", .int line), ("column", .int column),
      ("width", .int width), ("message", .text message), ("rule", .text name)]) =
      .ok ⟨line, column, some (width : Int), message, some name⟩ :=
    Diagnostic.ofFields_eq_ok_iff.mpr
      ⟨⟨_, rfl, Int.natCast_nonneg line, rfl⟩, ⟨_, rfl, Int.natCast_nonneg column, rfl⟩,
        ⟨_, rfl, Int.natCast_nonneg width, rfl⟩, rfl, ⟨_, rfl, rfl⟩⟩
  rw [failure, hfields]

/-- A rule that looks at every line by itself reports by failures. -/
theorem exists_failure_of_mem_diagnosticsOf {name source : String}
    {find : List Char → List Finding} {d : Diagnostic} (hd : d ∈ diagnosticsOf name source find) :
    ∃ line column message width, failure name line column message width = .ok d := by
  obtain ⟨⟨text, line⟩, -, hd⟩ := List.mem_flatMap.mp hd
  obtain ⟨f, -, rfl⟩ := List.mem_map.mp hd
  exact ⟨_, _, _, _, failure_eq_ok name line f.column f.width f.message⟩

section Findings

variable {name source : String} {find : List Char → List Finding}

theorem mem_diagnosticsOf_iff {d : Diagnostic} : d ∈ diagnosticsOf name source find ↔
    ∃ (text : String) (line : Nat), (Text.splitLines source)[line]? = some text ∧
      ∃ f ∈ find text.toList,
        (⟨line, f.column, some (f.width : Int), f.message, some name⟩ : Diagnostic) = d := by
  simp only [diagnosticsOf, List.mem_flatMap, List.mem_map, List.mk_mem_zipIdx_iff_getElem?,
    Prod.exists]

/-- The diagnostics of a rule that looks at every line by itself come line after line, and those
of a line in the order of what is found there. -/
theorem pairwise_diagnosticsOf {R : Diagnostic → Diagnostic → Prop}
    (hfind : ∀ (line : Nat) (cs : List Char), ((find cs).map fun f =>
      (⟨line, f.column, some (f.width : Int), f.message, some name⟩ : Diagnostic)).Pairwise R) :
    (diagnosticsOf name source find).Pairwise fun a b =>
      a.line < b.line ∨ a.line = b.line ∧ R a b := by
  rw [diagnosticsOf, List.pairwise_flatMap]
  constructor
  · rintro ⟨text, line⟩ -
    refine (hfind line text.toList).imp_of_mem fun ha hb hab => Or.inr ⟨?_, hab⟩
    obtain ⟨f, -, rfl⟩ := List.mem_map.mp ha
    obtain ⟨g, -, rfl⟩ := List.mem_map.mp hb
    rfl
  · have hlines : (Text.splitLines source).zipIdx.Pairwise fun a b => a.2 < b.2 := by
      rw [← List.pairwise_map (f := Prod.snd), List.zipIdx_map_snd]
      exact List.pairwise_lt_range'
    refine hlines.imp fun hlt a ha b hb => Or.inl ?_
    obtain ⟨f, -, rfl⟩ := List.mem_map.mp ha
    obtain ⟨g, -, rfl⟩ := List.mem_map.mp hb
    exact Int.ofNat_lt.mpr hlt

end Findings

theorem reportsByFailure_of_builtin {rule : Rule} (h : rule ∈ builtin) :
    rule.ReportsByFailure := by
  intro options name source found hfound d hd
  simp only [builtin, List.mem_cons, List.not_mem_nil, or_false] at h
  rcases h with rfl | rfl | rfl
  · cases hfound
    exact exists_failure_of_mem_diagnosticsOf hd
  · unfold lineLength at hfound
    dsimp only at hfound
    split at hfound
    · cases hfound
      exact exists_failure_of_mem_diagnosticsOf hd
    · cases hfound
  · unfold bannedWordsRule at hfound
    dsimp only at hfound
    split at hfound
    · cases hfound
      exact exists_failure_of_mem_diagnosticsOf hd
    · cases hfound

theorem exists_failure_of_mapM {α : Type} {name : String} {line column message width : α → Value}
    {l : List α} {found : List Diagnostic}
    (h : l.mapM (fun a => failure name (line a) (column a) (message a) (width a)) = .ok found)
    {d : Diagnostic} (hd : d ∈ found) :
    ∃ line column message width, failure name line column message width = .ok d := by
  obtain ⟨a, -, ha⟩ := exists_of_mem_forall₂ (mapM_eq_ok_iff.mp h) hd
  exact ⟨_, _, _, _, ha⟩

/-- The rules that modules are described to define report by failures. -/
theorem reportsByFailure_of_description {entries : List (String × Value)} {rule : Rule}
    (h : RuleModule.ofDescription entries = .defining rule) : rule.ReportsByFailure := by
  intro options name source found hfound d hd
  unfold RuleModule.ofDescription at h
  dsimp only at h
  split at h
  · cases h
    exact exists_failure_of_mapM hfound hd
  · split at h
    · cases h
      exact exists_failure_of_mapM hfound hd
    · cases h
  · cases h
    cases hfound
  all_goals cases h

end Rule

/-! ## Registries -/

namespace RuleDirectory

/-- What is loaded from a rules directory, if there is one. -/
def Loads (fs : FileSystem) : Option Path → List (String × Rule) → Prop
  | none, loaded => loaded = []
  | some directory, loaded => load fs directory = .ok loaded

variable {fs : FileSystem} {directory : Path} {loaded : List (String × Rule)}

/-- Rules are loaded from directories; of what else may lie at a path none are. -/
theorem load_cases (fs : FileSystem) (directory : Path) :
    (∃ entries, fs.node directory = .ok (.directory entries)) ∨
      load fs directory = .error (.path .nameTooLong directory.text) ∨
      load fs directory = .error (.config (.rulesDirectoryMissing directory.text)) := by
  unfold load FileSystem.isDirectory FileSystem.holds
  cases fs.node directory with
  | error cause => cases cause <;> simp
  | ok node => cases node <;> simp [FileNode.isDirectory]

/-- No rule is loaded without a name. -/
theorem Loads.empty_not_mem {place : Option Path} (h : Loads fs place loaded) :
    "" ∉ loaded.map (·.1) := by
  cases place with
  | none =>
    cases h
    simp
  | some directory =>
    have hload : load fs directory = .ok loaded := h
    obtain ⟨entries, hdir⟩ | hload' | hload' := load_cases fs directory
    · rw [load_eq hdir] at hload
      have hnames := (loadModules_loaded .nil hload).name_ne_empty hdir
      rintro hmem
      obtain ⟨e, he, hempty⟩ := List.mem_map.mp hmem
      exact hnames e he hempty
    · cases hload'.symm.trans hload
    · cases hload'.symm.trans hload

/-- A module that fails is not reported as unknown rules, whatever it raises. -/
theorem importFault_ne_unknownRules {w : Wording} {file : Path} {fault : Fault}
    {names : List String} : importFault w file fault ≠ .config (.unknownRules names) := by
  unfold importFault
  split
  · rintro rfl
    contradiction
  · cases fault with
    | raised what => cases what <;> exact nofun
    | _ => exact nofun

/-- What stops loading is not about unknown rules. -/
theorem load_ne_unknownRules {names : List String} :
    load fs directory ≠ .error (.config (.unknownRules names)) := by
  intro h
  obtain ⟨entries, hdir⟩ | hload | hload := load_cases fs directory
  · rw [load_eq hdir, loadModules_eq_error_iff] at h
    obtain ⟨file, fault, -, hfault⟩ := h
    exact importFault_ne_unknownRules hfault.symm
  · cases hload.symm.trans h
  · cases hload.symm.trans h

end RuleDirectory

namespace Registry

variable {fs : FileSystem} {config : Config} {r : Registry} {source : String}
  {loaded : List (String × Rule)}

theorem withDirectory_eq_ok_iff {place : Option Path} :
    withDirectory fs place = .ok r ↔
      ∃ loaded, RuleDirectory.Loads fs place loaded ∧ r = builtin.extend loaded := by
  cases place with
  | none => simp [withDirectory, RuleDirectory.Loads, extend, builtin, eq_comm]
  | some directory => simp only [withDirectory, RuleDirectory.Loads, map_eq_ok_iff, @eq_comm _ r]

theorem withDirectory_ne_unknownRules {place : Option Path} {names : List String} :
    withDirectory fs place ≠ .error (.config (.unknownRules names)) := by
  cases place with
  | none => exact nofun
  | some directory => exact fun h => RuleDirectory.load_ne_unknownRules (map_eq_error_iff.mp h)

/-- The registry knows the built-in rules and those that are loaded. -/
theorem contains_builtin_extend {name : String} : (builtin.extend loaded).contains name = true ↔
    name ∈ Rule.builtin.map (·.name) ∨ name ∈ loaded.map (·.1) := by
  have hkeys : ∀ entries : List (String × Rule),
      (entries.lookup name).isSome = true ↔ name ∈ entries.map (·.1) := fun entries => by
    rw [Option.isSome_iff_exists, mem_keys_iff_lookup]
  have hbuiltin : builtin.entries.map (·.1) = Rule.builtin.map (·.name) := List.map_map
  rw [contains_extend, Bool.or_eq_true, hkeys, contains, find?, hkeys, hbuiltin]

/-! ### The check of a configuration -/

/-- The enabled rules that are neither built in nor loaded. -/
def unimplemented (config : Config) (loaded : List (String × Rule)) : List String :=
  (config.enabledRules.map (·.1)).filter fun name =>
    decide (name ∉ Rule.builtin.map (·.name) ∧ name ∉ loaded.map (·.1))

theorem unknownRules_extend : (builtin.extend loaded).unknownRules config =
    (unimplemented config loaded).mergeSort fun a b => decide (a ≤ b) := by
  have hfilter : ((config.enabledRules.map (·.1)).filter
      fun name => !(builtin.extend loaded).contains name) = unimplemented config loaded := by
    refine List.filter_congr fun name _ => ?_
    rw [Bool.eq_iff_iff, Bool.not_eq_true', ← Bool.not_eq_true, contains_builtin_extend, not_or,
      decide_eq_true_iff]
  rw [unknownRules, hfilter]

theorem unknownRules_eq_nil_iff : r.unknownRules config = [] ↔
    ∀ e ∈ config.enabledRules, r.contains e.1 = true := by
  rw [unknownRules, ← List.length_eq_zero_iff, List.length_mergeSort, List.length_eq_zero_iff,
    List.filter_eq_nil_iff, List.forall_mem_map]
  simp

theorem check_eq_ok_iff : r.check config = .ok () ↔
    ∀ e ∈ config.enabledRules, r.contains e.1 = true := by
  rw [← unknownRules_eq_nil_iff, check]
  split <;> simp_all

theorem check_eq_error_iff {fault : Fault} : r.check config = .error fault ↔
    r.unknownRules config ≠ [] ∧ fault = .config (.unknownRules (r.unknownRules config)) := by
  unfold check
  split
  · rename_i hnone
    simp [hnone]
  · rename_i hsome
    have hne : r.unknownRules config ≠ [] := hsome
    simp [hne, @eq_comm _ fault]

/-- A configuration is refused for unknown rules where some are nowhere, and these are named in
order. -/
theorem ofConfig_eq_unknownRules_iff {names : List String} :
    ofConfig fs config = .error (.config (.unknownRules names)) ↔
      ∃ loaded, RuleDirectory.Loads fs config.rulesDirectory loaded ∧ names ≠ [] ∧
        names.Pairwise (· ≤ ·) ∧ names.Perm (unimplemented config loaded) := by
  unfold ofConfig
  constructor
  · intro h
    cases hwith : withDirectory fs config.rulesDirectory with
    | error fault =>
      rw [hwith] at h
      cases h
      exact (withDirectory_ne_unknownRules hwith).elim
    | ok r =>
      rw [hwith] at h
      obtain ⟨loaded, hloads, rfl⟩ := withDirectory_eq_ok_iff.mp hwith
      obtain ⟨hne, hnames⟩ := check_eq_error_iff.mp (map_eq_error_iff.mp h)
      cases hnames
      rw [unknownRules_extend] at hne ⊢
      exact ⟨loaded, hloads, hne, mergeSort_by_name_pairwise id _, List.mergeSort_perm _ _⟩
  · rintro ⟨loaded, hloads, hne, hrises, hperm⟩
    have hnames : (builtin.extend loaded).unknownRules config = names := by
      rw [unknownRules_extend]
      exact List.Perm.eq_of_pairwise (fun _ _ _ _ hab hba => le_antisymm hab hba)
        (mergeSort_by_name_pairwise id _) hrises ((List.mergeSort_perm _ _).trans hperm.symm)
    rw [withDirectory_eq_ok_iff.mpr ⟨loaded, hloads, rfl⟩]
    exact map_eq_error_iff.mpr (check_eq_error_iff.mpr ⟨hnames ▸ hne, by rw [hnames]⟩)

theorem ofConfig_eq_ok_iff : ofConfig fs config = .ok r ↔
    (∃ loaded, RuleDirectory.Loads fs config.rulesDirectory loaded ∧ r = builtin.extend loaded) ∧
      r.check config = .ok () := by
  rw [← withDirectory_eq_ok_iff, ofConfig]
  cases withDirectory fs config.rulesDirectory with
  | error fault => simp
  | ok r' =>
    simp only [map_eq_ok_iff, Except.ok.injEq]
    constructor
    · rintro ⟨_, hcheck, rfl⟩
      exact ⟨rfl, hcheck⟩
    · rintro ⟨rfl, hcheck⟩
      exact ⟨(), hcheck, rfl⟩

/-! ### The reports of the enabled rules -/

/-- What the rule of a setting reports on a source, asked under the name of the setting and with its
options. -/
def Reports (r : Registry) (source : String) (e : String × RuleSetting) (found : List Diagnostic) :
    Prop :=
  ∃ rule, r.find? e.1 = some rule ∧ rule.check e.2.options e.1 source = .ok found

/-- Rules are asked in order, and this is the own fault of the first one that fails. -/
def FailsFirst (r : Registry) (source : String) (rules : List (String × RuleSetting))
    (fault : Fault) : Prop :=
  ∃ before e after rule, rules = before ++ e :: after ∧
    (∀ e' ∈ before, ∃ found, r.Reports source e' found) ∧
    r.find? e.1 = some rule ∧ rule.check e.2.options e.1 source = .error fault

section Reports

variable (hloads : RuleDirectory.Loads fs config.rulesDirectory loaded)

include hloads

theorem find?_empty : (builtin.extend loaded).find? "" = none := by
  have hbuiltin : builtin.find? "" = none := lookup_eq_none_iff_not_mem.mpr builtin_names.2
  rw [find?_extend, hbuiltin, Option.none_or, lookup_eq_none_iff_not_mem]
  exact hloads.empty_not_mem

/-- A rule that is known is run under the name of its setting. -/
theorem runRule_eq {e : String × RuleSetting} {rule : Rule}
    (h : (builtin.extend loaded).find? e.1 = some rule) :
    (builtin.extend loaded).runRule source e = rule.check e.2.options e.1 source := by
  have hname : e.1 ≠ "" := by
    intro hempty
    rw [hempty, find?_empty hloads] at h
    cases h
  rw [runRule, h]
  dsimp only
  rw [Rule.run, if_neg hname]

theorem runRule_eq_iff {e : String × RuleSetting}
    (hknown : (builtin.extend loaded).contains e.1 = true)
    {outcome : Except Fault (List Diagnostic)} :
    (builtin.extend loaded).runRule source e = outcome ↔
      ∃ rule, (builtin.extend loaded).find? e.1 = some rule ∧
        rule.check e.2.options e.1 source = outcome := by
  obtain ⟨rule, hrule⟩ := Option.isSome_iff_exists.mp hknown
  rw [runRule_eq hloads hrule, hrule]
  simp

/-- The linter reports what the enabled rules report, each of them asked once and in order, sorted
by position. -/
theorem lint_eq_ok_iff (hcheck : (builtin.extend loaded).check config = .ok ())
    {ds : List Diagnostic} :
    (builtin.extend loaded).lint source config = .ok ds ↔
      ∃ found, List.Forall₂ ((builtin.extend loaded).Reports source) config.enabledRules found ∧
        SortedFrom found.flatten ds := by
  have hknown := check_eq_ok_iff.mp hcheck
  have hreports : ∀ found, (config.enabledRules.mapM ((builtin.extend loaded).runRule source)) =
      .ok found ↔
        List.Forall₂ ((builtin.extend loaded).Reports source) config.enabledRules found := by
    intro found
    rw [mapM_eq_ok_iff]
    refine ⟨fun h => ?_, fun h => ?_⟩
    · refine ((List.forall₂_and_left _ _).mpr ⟨hknown, h⟩).imp fun e ds h => ?_
      exact (runRule_eq_iff hloads h.1).mp h.2
    · refine ((List.forall₂_and_left _ _).mpr ⟨hknown, h⟩).imp fun e ds h => ?_
      exact (runRule_eq_iff hloads h.1).mpr h.2
  rw [lint, hcheck]
  simp only [runRules_eq, map_eq_ok_iff, sortedFrom_iff, hreports]
  simp

/-- The linter fails as the first rule does that fails. -/
theorem lint_eq_error_iff (hcheck : (builtin.extend loaded).check config = .ok ())
    {fault : Fault} :
    (builtin.extend loaded).lint source config = .error fault ↔
      (builtin.extend loaded).FailsFirst source config.enabledRules fault := by
  have hknown := check_eq_ok_iff.mp hcheck
  rw [lint, hcheck]
  simp only [runRules_eq, map_eq_error_iff, mapM_eq_error_iff_append]
  constructor
  · rintro ⟨before, e, after, hsplit, hbefore, hfault⟩
    rw [hsplit] at hknown
    obtain ⟨rule, hrule, hcheck⟩ := (runRule_eq_iff hloads (hknown e (by simp))).mp hfault
    refine ⟨before, e, after, rule, hsplit, fun e' he' => ?_, hrule, hcheck⟩
    obtain ⟨found, hfound⟩ := hbefore e' he'
    exact ⟨found, (runRule_eq_iff hloads (hknown e' (by simp [he']))).mp hfound⟩
  · rintro ⟨before, e, after, rule, hsplit, hbefore, hrule, hcheck⟩
    rw [hsplit] at hknown
    refine ⟨before, e, after, hsplit, fun e' he' => ?_,
      (runRule_eq_iff hloads (hknown e (by simp))).mpr ⟨rule, hrule, hcheck⟩⟩
    obtain ⟨found, hfound⟩ := hbefore e' he'
    exact ⟨found, (runRule_eq_iff hloads (hknown e' (by simp [he']))).mpr hfound⟩

end Reports

/-- **What the linter of a configuration reports.** A configuration is refused for unknown rules
where enabled ones are neither built in nor loaded, and exactly these are named, in order. A
registry that a configuration has knows every enabled rule, so its linter never refuses the
configuration: it fails only as the first rule does that fails by itself. It reports what the
enabled rules do, each of them asked once under its name and with its options, in the order of the
configuration, sorted by position and otherwise as it is. Where the rules report by failures, every
diagnostic carries the name of an enabled rule. -/
theorem ofConfig_lints (fs : FileSystem) (config : Config) :
    (∀ names, ofConfig fs config = .error (.config (.unknownRules names)) ↔
      ∃ loaded, RuleDirectory.Loads fs config.rulesDirectory loaded ∧ names ≠ [] ∧
        names.Pairwise (· ≤ ·) ∧ names.Perm (unimplemented config loaded)) ∧
    ∀ r, ofConfig fs config = .ok r →
      (∃ loaded, RuleDirectory.Loads fs config.rulesDirectory loaded ∧ r.Resolves loaded) ∧
      r.check config = .ok () ∧
      (∀ e ∈ config.enabledRules, ∃ rule, r.find? e.1 = some rule) ∧
      ∀ source,
        (∀ ds, r.lint source config = .ok ds ↔
          ∃ found, List.Forall₂ (r.Reports source) config.enabledRules found ∧
            SortedFrom found.flatten ds) ∧
        (∀ fault, r.lint source config = .error fault ↔
          r.FailsFirst source config.enabledRules fault) ∧
        (∀ names, r.lint source config = .error (.config (.unknownRules names)) →
          ∃ e ∈ config.enabledRules, ∃ rule, r.find? e.1 = some rule ∧
            rule.check e.2.options e.1 source = .error (.config (.unknownRules names))) ∧
        ((∀ e ∈ config.enabledRules, ∀ rule, r.find? e.1 = some rule → rule.ReportsByFailure) →
          ∀ ds, r.lint source config = .ok ds →
            ∀ d ∈ ds, ∃ e ∈ config.enabledRules, d.rule = some e.1) := by
  refine ⟨fun names => ofConfig_eq_unknownRules_iff, fun r hr => ?_⟩
  obtain ⟨⟨loaded, hloads, rfl⟩, hcheck⟩ := ofConfig_eq_ok_iff.mp hr
  refine ⟨⟨loaded, hloads, resolves_extend loaded⟩, hcheck, fun e he => ?_, fun source =>
    ⟨fun ds => lint_eq_ok_iff hloads hcheck, fun fault => lint_eq_error_iff hloads hcheck,
      fun names hnames => ?_, ?_⟩⟩
  · exact Option.isSome_iff_exists.mp (check_eq_ok_iff.mp hcheck e he)
  · obtain ⟨before, e, after, rule, hsplit, -, hrule, hfault⟩ :=
      (lint_eq_error_iff hloads hcheck).mp hnames
    exact ⟨e, by simp [hsplit], rule, hrule, hfault⟩
  · intro hrules ds hds d hd
    obtain ⟨found, hfound, hsorted⟩ := (lint_eq_ok_iff hloads hcheck).mp hds
    obtain ⟨reported, hreported, hd⟩ := List.mem_flatten.mp (hsorted.perm.mem_iff.mp hd)
    obtain ⟨e, he, rule, hrule, hchecked⟩ := exists_of_mem_forall₂ hfound hreported
    obtain ⟨line, column, message, width, hfailure⟩ :=
      hrules e he rule hrule _ _ _ _ hchecked d hd
    exact ⟨e, he, Rule.rule_of_failure hfailure⟩

/-- Two rules that report at one position, and a rule that nobody knows but that is not enabled. -/
def blankConfig : Config :=
  ⟨[("no-trailing-whitespace", ⟨true, []⟩), ("unknown", ⟨false, []⟩),
    ("max-line-length", ⟨true, [.int 3]⟩)], none, ".lint"⟩

/-- The names of rules that nobody knows are sorted; what two rules report at one position stays in
the order of the rules, each under its name. -/
theorem ofConfig_lints_blank :
    ofConfig collidingModules (.enabling none ["zz", "max-line-length", "aa"]) =
      .error (.config (.unknownRules ["aa", "zz"])) ∧
    ofConfig collidingModules blankConfig = .ok builtin ∧
    builtin.lint "    " blankConfig = .ok
      [⟨0, 0, some 4, "trailing whitespace", some "no-trailing-whitespace"⟩,
        ⟨0, 0, some 4, "Exceeds maximum line length of 3", some "max-line-length"⟩] ∧
    ∀ ds, builtin.lint "    " blankConfig = .ok ds →
      ∀ d ∈ ds, ∃ e ∈ blankConfig.enabledRules, d.rule = some e.1 := by
  have hregistry : ofConfig collidingModules blankConfig = .ok builtin :=
    ofConfig_eq_ok_iff.mpr ⟨⟨[], rfl, rfl⟩, check_eq_ok_iff.mpr (by decide)⟩
  have hunknown := (ofConfig_lints collidingModules
    (.enabling none ["zz", "max-line-length", "aa"])).1 ["aa", "zz"]
  obtain ⟨-, -, -, hlint⟩ := (ofConfig_lints collidingModules blankConfig).2 builtin hregistry
  obtain ⟨hok, -, -, hnamed⟩ := hlint "    "
  have hreports : List.Forall₂ (builtin.Reports "    ") blankConfig.enabledRules _ :=
    .cons ⟨.trailingBlank, rfl, rfl⟩ (.cons
      ⟨.lineLength, rfl, Rule.lineLength_eq_ok _ _ (by decide +kernel)⟩ .nil)
  refine ⟨hunknown.mpr ⟨[], rfl, by simp, by decide, .swap _ _ _⟩, hregistry,
    (hok _).mpr ⟨_, hreports, ⟨.refl _, by decide, fun p => rfl⟩⟩, hnamed ?_⟩
  exact fun e _ rule hrule => Rule.reportsByFailure_of_builtin (mem_builtin_of_find? hrule)

end Registry

end LintFixture
