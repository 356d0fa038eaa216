import LintFixture.Config.Basic
import LintFixture.Proofs.Fields
import LintFixture.Proofs.PathText

/-!
# The spellings of a configuration

A rule can be set in several ways, and a value that is `Spelled` for a setting sets it exactly. Two
configurations that are `Respelled` set some of their rules in different ways. Rules are read one
after the other up to the first one at fault, and another spelling neither is at fault nor moves
anything, so the same configuration is read or the same issues are told.

`Describes` says field by field what is accepted, and what it comes to. There a truth value may be a
number or a word and the options may be a setting. Written out again, the fields of what was read
are exact, so they describe the configuration whatever it was read from.

Results:
* `RuleSetting.ofValue_of_spelled`: the spellings of a setting.
* `ofEntries_respelled`: a configuration is read alike in other spellings.
* `ofEntries_eq_ok_iff`: which entries are accepted as a configuration, and as which one.
* `spellings_interchangeable`: both, and that a configuration comes to itself.
-/

namespace LintFixture

/-! ## Settings -/

namespace RuleSetting

/-- A value is one of the spellings of a setting: a truth value, if there are no options, a list of
a truth value and the options, a table, which may leave out the options where there are none, or
the setting itself. -/
inductive Spelled (s : RuleSetting) : Value → Prop
  | flag : s.options = [] → Spelled s (.bool s.enabled)
  | list : Spelled s (.list (.bool s.enabled :: s.options))
  | table {entries : List (String × Value)} :
    entries.lookup "enabled" = some (.bool s.enabled) →
      (entries.lookup "options" = some (.list s.options) ∨
        entries.lookup "options" = none ∧ s.options = []) →
      Spelled s (.mapping entries)
  | setting : Spelled s (.setting s.enabled s.options)

theorem ofFields_eq_ok_iff {fields : Fields} {s : RuleSetting} :
    ofFields fields = .ok s ↔
      Fields.HoldsOr true (fun b v => v.toBool = .ok b) (fields "enabled") s.enabled ∧
      Fields.HoldsOr [] (fun l v => v.toList = .ok l) (fields "options") s.options := by
  obtain ⟨enabled, options⟩ := s
  simp only [ofFields, map_eq_ok_iff, Prod.exists, Validated.both_eq_ok_iff,
    Fields.defaulted_eq_ok_iff, mk.injEq]
  constructor
  · rintro ⟨_, _, h, rfl, rfl⟩
    exact h
  · exact fun h => ⟨_, _, h, rfl, rfl⟩

/-- **Every spelling of a setting is read as the setting**, under any rule. -/
theorem ofValue_of_spelled {s : RuleSetting} {v : Value} (h : s.Spelled v) (rule : String) :
    ofValue rule v = .ok s := by
  cases h with
  | flag hoptions => rw [ofValue, ← hoptions]
  | list => rfl
  | setting => rfl
  | table henabled hoptions =>
    refine ofFields_eq_ok_iff.mpr ⟨Or.inr ⟨_, henabled, rfl⟩, ?_⟩
    obtain hlist | ⟨hnone, hempty⟩ := hoptions
    · exact Or.inr ⟨_, hlist, rfl⟩
    · exact Or.inl ⟨hnone, hempty⟩

/-- A setting as a table. -/
def toValue (s : RuleSetting) : Value :=
  .mapping [("enabled", .bool s.enabled), ("options", .list s.options)]

theorem spelled_toValue (s : RuleSetting) : s.Spelled s.toValue :=
  .table rfl (Or.inl rfl)

end RuleSetting

/-! ## Other spellings of a configuration -/

namespace Config

/-- A rule is set to the same value in two tables, or to two spellings of one setting. -/
inductive RuleRespelled : String × Value → String × Value → Prop
  | same (e : String × Value) : RuleRespelled e e
  | spelled {name : String} {v w : Value} (s : RuleSetting) :
    s.Spelled v → s.Spelled w → RuleRespelled (name, v) (name, w)

/-- A configuration has the same entry twice, or the table of its rules with some of them in other
spellings. -/
inductive EntryRespelled : String × Value → String × Value → Prop
  | same (e : String × Value) : EntryRespelled e e
  | rules {table table' : List (String × Value)} :
    List.Forall₂ RuleRespelled table table' →
      EntryRespelled ("rules", .mapping table) ("rules", .mapping table')

/-- Two configurations set some of their rules in different spellings. -/
def Respelled : List (String × Value) → List (String × Value) → Prop :=
  List.Forall₂ EntryRespelled

/-- A rule is read alike in either spelling, accepted or not. -/
theorem RuleRespelled.eq {e e' : String × Value} (h : RuleRespelled e e') :
    e'.1 = e.1 ∧ RuleSetting.ofValue e'.1 e'.2 = RuleSetting.ofValue e.1 e.2 := by
  cases h with
  | same => exact ⟨rfl, rfl⟩
  | spelled s hv hw =>
    exact ⟨rfl, by
      rw [RuleSetting.ofValue_of_spelled hv, RuleSetting.ofValue_of_spelled hw]⟩

/-- **Rules are read in order whatever their spellings**: up to the same rule, which is at fault in
both tables, if any is. -/
theorem readRules_respelled {table table' : List (String × Value)}
    (h : List.Forall₂ RuleRespelled table table') : readRules table' = readRules table := by
  induction h with
  | nil => rfl
  | @cons e e' rest rest' he _ ih =>
    obtain ⟨name, v⟩ := e
    obtain ⟨name', v'⟩ := e'
    obtain ⟨hname, hread⟩ := he.eq
    dsimp only at hname hread
    rw [readRules, readRules, hread, ih, hname]

section Respelled

variable {entries entries' : List (String × Value)} (h : Respelled entries entries')

include h

/-- What is found under a key is the same, or the table of rules in other spellings. -/
theorem lookup_respelled (key : String) :
    Option.Rel (fun v w => EntryRespelled (key, v) (key, w))
      (entries.lookup key) (entries'.lookup key) := by
  induction h with
  | nil => exact .none
  | @cons e e' rest rest' he _ ih =>
    cases he with
    | same =>
      obtain ⟨k, v⟩ := e
      rw [List.lookup_cons, List.lookup_cons]
      split
      · exact .some (.same _)
      · exact ih
    | rules htable =>
      -- Both entries have the key of the rules, so a look-up stops at both or at neither.
      rw [List.lookup_cons, List.lookup_cons]
      split
      · rename_i hkey
        rw [beq_iff_eq.mp hkey]
        exact .some (.rules htable)
      · exact ih

theorem lookup_respelled_of_ne {key : String} (hkey : key ≠ "rules") :
    entries'.lookup key = entries.lookup key := by
  have hrel := lookup_respelled h key
  generalize entries.lookup key = field, entries'.lookup key = field' at hrel ⊢
  cases hrel with
  | none => rfl
  | some he =>
    cases he with
    | same => rfl
    | rules => exact absurd rfl hkey

theorem refuseOthers_respelled : refuseOthers entries' = refuseOthers entries := by
  have hothers : (entries'.filter fun e => !keys.contains e.1) =
      entries.filter fun e => !keys.contains e.1 := by
    induction h with
    | nil => rfl
    | cons he _ ih =>
      cases he with
      | same e => rw [List.filter_cons, List.filter_cons, ih]
      | rules => exact ih
  rw [refuseOthers, refuseOthers, hothers]

/-- **A configuration is read alike in other spellings of its rules.** -/
theorem ofEntries_respelled (place : String → Path) :
    ofEntries place entries' = ofEntries place entries := by
  have hother : ∀ {key}, key ≠ "rules" →
      Fields.ofEntries entries' key = Fields.ofEntries entries key := lookup_respelled_of_ne h
  have hrules : (Fields.ofEntries entries').defaulted "rules" [] rulesOf =
      (Fields.ofEntries entries).defaulted "rules" [] rulesOf := by
    have hrel := lookup_respelled h "rules"
    unfold Fields.defaulted Fields.ofEntries
    generalize entries.lookup "rules" = field, entries'.lookup "rules" = field' at hrel ⊢
    cases hrel with
    | none => rfl
    | some he =>
      cases he with
      | same => rfl
      | rules htable => simp only [rulesOf, readRules_respelled htable]
  have hdirectory : (Fields.ofEntries entries').optional "rules_directory" (directoryOf place) =
      (Fields.ofEntries entries).optional "rules_directory" (directoryOf place) := by
    rw [Fields.optional, Fields.optional, Fields.defaulted, Fields.defaulted, hother (by decide)]
  have hsuffix : (Fields.ofEntries entries').defaulted "fixture_suffix" defaultSuffix suffixOf =
      (Fields.ofEntries entries).defaulted "fixture_suffix" defaultSuffix suffixOf := by
    rw [Fields.defaulted, Fields.defaulted, hother (by decide)]
  simp only [ofEntries, hrules, hdirectory, hsuffix, refuseOthers_respelled h]

end Respelled

/-! ## What is accepted -/

/-- An entry of a table of rules sets a rule. -/
def Sets (e : String × Value) (rule : String × RuleSetting) : Prop :=
  e.1 = rule.1 ∧ RuleSetting.ofValue e.1 e.2 = .ok rule.2

theorem readRules_eq_ok_iff :
    ∀ {table : List (String × Value)} {rules : List (String × RuleSetting)},
      readRules table = .ok rules ↔ List.Forall₂ Sets table rules
  | [], rules => by
    rw [readRules, List.forall₂_nil_left_iff, Except.ok.injEq, eq_comm]
  | (name, v) :: rest, rules => by
    rw [readRules, List.forall₂_cons_left_iff]
    unfold Sets
    cases RuleSetting.ofValue name v with
    | error issues => simp
    | ok setting =>
      simp only [map_eq_ok_iff, readRules_eq_ok_iff, Except.ok.injEq]
      constructor
      · rintro ⟨rules, hrules, rfl⟩
        exact ⟨_, _, ⟨rfl, rfl⟩, hrules, rfl⟩
      · rintro ⟨⟨_, _⟩, rules, ⟨rfl, rfl⟩, hrules, rfl⟩
        exact ⟨rules, hrules, rfl⟩

theorem rulesOf_eq_ok_iff {v : Value} {rules : List (String × RuleSetting)} :
    rulesOf v = .ok rules ↔ ∃ table, v = .mapping table ∧ List.Forall₂ Sets table rules := by
  cases v <;> simp [rulesOf, readRules_eq_ok_iff, Validated.fail]

theorem directoryOf_eq_ok_iff {place : String → Path} {v : Value} {p : Path} :
    directoryOf place v = .ok p ↔ ∃ s, v = .text s ∧ place s = p := by
  cases v <;> simp [directoryOf, Validated.fail]

theorem suffixOf_eq_ok_iff {v : Value} {suffix : String} :
    suffixOf v = .ok suffix ↔ v = .text suffix ∧ suffix.toList.head? = some '.' := by
  unfold suffixOf
  cases hv : v.toText with
  | error issues =>
    refine iff_of_false (fun h => by cases h) fun ⟨h, _⟩ => ?_
    rw [Value.toText_eq_ok_iff.mpr h] at hv
    cases hv
  | ok s =>
    obtain rfl := Value.toText_eq_ok_iff.mp hv
    by_cases hdot : s.toList.head? = some '.'
    · simp only [if_pos hdot, Except.ok.injEq, Value.text.injEq, iff_self_and]
      rintro rfl
      exact hdot
    · simp only [if_neg hdot, Validated.fail, reduceCtorEq, Value.text.injEq, false_iff, not_and]
      rintro rfl
      exact hdot

theorem refuseOthers_eq_ok_iff {entries : List (String × Value)} :
    refuseOthers entries = .ok () ↔ ∀ e ∈ entries, e.1 ∈ keys := by
  unfold refuseOthers
  have hnone : (entries.filter fun e => !keys.contains e.1) = [] ↔ ∀ e ∈ entries, e.1 ∈ keys := by
    simp [List.filter_eq_nil_iff]
  rw [← hnone]
  cases entries.filter fun e => !keys.contains e.1 <;> simp

/-- Entries describe a configuration, where `place` finds its rules directory. -/
structure Describes (place : String → Path) (entries : List (String × Value)) (c : Config) :
    Prop where
  rules : Fields.HoldsOr [] (fun rules v => ∃ table, v = .mapping table ∧
    List.Forall₂ Sets table rules) (entries.lookup "rules") c.rules
  rulesDirectory : Fields.Holds (fun p v => ∃ s, v = .text s ∧ place s = p)
    (entries.lookup "rules_directory") c.rulesDirectory
  fixtureSuffix : Fields.HoldsOr defaultSuffix (fun suffix v => v = .text suffix ∧
    suffix.toList.head? = some '.') (entries.lookup "fixture_suffix") c.fixtureSuffix
  /-- There are no other entries. -/
  known : ∀ e ∈ entries, e.1 ∈ keys

/-- **Entries are read as a configuration** exactly where they describe it. -/
theorem ofEntries_eq_ok_iff {place : String → Path} {entries : List (String × Value)}
    {c : Config} : ofEntries place entries = .ok c ↔ Describes place entries c := by
  have hnull : ∀ p, directoryOf place .null ≠ .ok p := fun p h => by cases h
  obtain ⟨rules, directory, suffix⟩ := c
  simp only [ofEntries, map_eq_ok_iff, Prod.exists, Validated.both_eq_ok_iff,
    Fields.defaulted_eq_ok_iff, Fields.optional_eq_ok_iff hnull, rulesOf_eq_ok_iff,
    directoryOf_eq_ok_iff, suffixOf_eq_ok_iff, Fields.ofEntries, mk.injEq]
  constructor
  · rintro ⟨_, _, _, _, ⟨hrules, hdirectory, hsuffix, hothers⟩, rfl, rfl, rfl⟩
    exact ⟨hrules, hdirectory, hsuffix, refuseOthers_eq_ok_iff.mp hothers⟩
  · rintro ⟨hrules, hdirectory, hsuffix, hothers⟩
    exact ⟨_, _, _, _, ⟨hrules, hdirectory, hsuffix, refuseOthers_eq_ok_iff.mpr hothers⟩,
      rfl, rfl, rfl⟩

/-! ## A configuration out of its own fields -/

/-- A configuration by its fields, every rule set by a table. -/
def toEntries (c : Config) : List (String × Value) :=
  [("rules", .mapping (c.rules.map fun r => (r.1, r.2.toValue))),
    ("rules_directory", match c.rulesDirectory with
      | some p => .text p.text
      | none => .null),
    ("fixture_suffix", .text c.fixtureSuffix)]

/-- A configuration as a mapping. -/
def toValue (c : Config) : Value := .mapping c.toEntries

/-- What is accepted has a usual suffix. -/
theorem Describes.head?_fixtureSuffix {place : String → Path} {entries : List (String × Value)}
    {c : Config} (h : Describes place entries c) : c.fixtureSuffix.toList.head? = some '.' := by
  obtain ⟨-, hdefault⟩ | ⟨v, -, -, hdot⟩ := h.fixtureSuffix
  · rw [hdefault]
    decide
  · exact hdot

/-- The fields of a configuration describe it, wherever they come from. -/
theorem describes_toEntries {place place' : String → Path} {entries : List (String × Value)}
    {c : Config} (h : Describes place entries c)
    (hplace : ∀ p, c.rulesDirectory = some p → place' p.text = p) :
    Describes place' c.toEntries c := by
  have hrules : List.Forall₂ Sets (c.rules.map fun r => (r.1, r.2.toValue)) c.rules := by
    rw [List.forall₂_map_left_iff, List.forall₂_same]
    exact fun r _ => ⟨rfl, RuleSetting.ofValue_of_spelled r.2.spelled_toValue r.1⟩
  refine ⟨Or.inr ⟨_, rfl, _, rfl, hrules⟩, ?_, Or.inr ⟨_, rfl, rfl, h.head?_fixtureSuffix⟩, ?_⟩
  · obtain ⟨rules, directory, suffix⟩ := c
    cases directory with
    | none => exact Or.inr rfl
    | some p => exact ⟨_, rfl, _, rfl, hplace p rfl⟩
  · simp [toEntries, keys]

/-- **The spellings of a setting are interchangeable, and a configuration comes to itself.** Every
spelling sets any rule to the setting. With some of its rules in other spellings a configuration is
accepted alike, or refused for the same issues. The fields of an accepted one, every rule set by a
table, come to it again: with its rules directory handed on as it was found, or written as a
text. -/
theorem spellings_interchangeable (place : String → Path) (entries : List (String × Value)) :
    (∀ (s : RuleSetting) (v : Value), s.Spelled v →
      ∀ rule, RuleSetting.ofValue rule v = .ok s) ∧
    (∀ entries', Respelled entries entries' →
      ofEntries place entries' = ofEntries place entries) ∧
    (∀ c, ofEntries place entries = .ok c →
      ∀ place', (∀ p, c.rulesDirectory = some p → place' p.text = p) →
        ofEntries place' c.toEntries = .ok c) ∧
    ∀ c, ofValue (.mapping entries) = .ok c → ofValue c.toValue = .ok c := by
  have hagain : ∀ place c, ofEntries place entries = .ok c →
      ∀ place', (∀ p, c.rulesDirectory = some p → place' p.text = p) →
        ofEntries place' c.toEntries = .ok c := fun place c hread place' hplace =>
    ofEntries_eq_ok_iff.mpr (describes_toEntries (ofEntries_eq_ok_iff.mp hread) hplace)
  refine ⟨fun s v => RuleSetting.ofValue_of_spelled, fun entries' h => ofEntries_respelled h place,
    hagain place, fun c hread => ?_⟩
  -- A directory that was read from a text is read back from its own.
  refine hagain Path.ofText c hread Path.ofText fun p hp => ?_
  have hdirectory := (ofEntries_eq_ok_iff.mp hread).rulesDirectory
  rw [hp] at hdirectory
  obtain ⟨v, -, s, -, rfl⟩ := hdirectory
  exact Path.ofText_text _

/-- Rules in several spellings, the last of them not exact. -/
def severalSpellings : List (String × Value) :=
  [("rules", .mapping [("a", .bool true), ("b", .list [.bool false]),
      ("c", .list [.bool true, .int 80, .list [.text "x"]]),
      ("d", .mapping [("enabled", .text "Yes")])]),
    ("rules_directory", .text "r//./s"), ("fixture_suffix", .text ".t")]

/-- The same rules in other spellings. -/
def otherSpellings : List (String × Value) :=
  [("rules", .mapping [("a", .list [.bool true]), ("b", .setting false []),
      ("c", .mapping [("options", .list [.int 80, .list [.text "x"]]), ("enabled", .bool true)]),
      ("d", .mapping [("enabled", .text "Yes")])]),
    ("rules_directory", .text "r//./s"), ("fixture_suffix", .text ".t")]

/-- What either comes to. -/
def ofSeveralSpellings : Config :=
  ⟨[("a", ⟨true, []⟩), ("b", ⟨false, []⟩), ("c", ⟨true, [.int 80, .list [.text "x"]]⟩),
    ("d", ⟨true, []⟩)], some ⟨.here, [.of "r", .of "s"]⟩, ".t"⟩

theorem spellings_interchangeable_several :
    RuleSetting.ofValue "a" (.list [.bool true]) = .ok ⟨true, []⟩ ∧
      ofEntries Path.ofText otherSpellings = .ok ofSeveralSpellings ∧
      ofEntries (fun _ => ⟨.here, [.of "r", .of "s"]⟩) ofSeveralSpellings.toEntries =
        .ok ofSeveralSpellings ∧
      ofValue ofSeveralSpellings.toValue = .ok ofSeveralSpellings := by
  obtain ⟨hset, hrespelled, hagain, htext⟩ := spellings_interchangeable Path.ofText severalSpellings
  have hread : ofEntries Path.ofText severalSpellings = .ok ofSeveralSpellings := by rfl
  have hspelled : Respelled severalSpellings otherSpellings := by
    refine .cons (.rules (.cons ?_ (.cons ?_ (.cons ?_ (.cons (.same _) .nil)))))
      (.cons (.same _) (.cons (.same _) .nil))
    · exact .spelled ⟨true, []⟩ (.flag rfl) .list
    · exact .spelled ⟨false, []⟩ .list .setting
    · exact .spelled ⟨true, [.int 80, .list [.text "x"]]⟩ .list (.table rfl (Or.inl rfl))
  refine ⟨hset ⟨true, []⟩ _ .list "a", (hrespelled _ hspelled).trans hread, hagain _ hread _ ?_,
    htext _ hread⟩
  rintro p ⟨⟩
  rfl

end Config

end LintFixture
