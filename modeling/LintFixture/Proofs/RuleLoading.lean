import LintFixture.Proofs.PathText
import LintFixture.Proofs.RuleOrder
import LintFixture.Rule.Directory

/-!
# What a rules directory adds to the rules

The modules of a directory are imported one after the other. Each of them offers a rule under a
name, or nothing, and several may offer one under the same name. Two tables decide which rule a
name stands for in the end: in the one of the directory the last module with a name wins, and the
name keeps the place of the first; in the registry the first rule with a name stays, which for the
name of a built-in rule is the built-in one.

`Loaded` is the invariant of the first table. It is carried over the modules by one step for a
module that offers a rule and one for a module that offers nothing (`loadModules_loaded`), and a
module that raises something ends the import (`loadModules_eq_error_iff`).

Results:
* `Loaded`: the table that modules come to, with `Loaded.lookup_iff` for its values.
* `Registry.registerEach_eq_extend`: a registry takes a table in by registering its rules in order.
* `RuleDirectory.load_resolves`: what names stand for, and how an import fails.
-/

namespace LintFixture

/-! ## Entries under keys -/

section Entries

variable {κ α : Type} [BEq κ] [LawfulBEq κ] {entries : List (κ × α)} {key name : κ} {value : α}

theorem mem_keys_iff_lookup : key ∈ entries.map (·.1) ↔ ∃ v, entries.lookup key = some v := by
  rw [← Option.isSome_iff_exists, List.lookup_isSome_iff, List.mem_map]
  exact exists_congr fun e => and_congr_right fun _ => eq_comm.trans beq_iff_eq.symm

theorem lookup_eq_none_iff_not_mem : entries.lookup key = none ↔ key ∉ entries.map (·.1) := by
  rw [mem_keys_iff_lookup, ← Option.isSome_iff_exists, Option.not_isSome_iff_eq_none]

theorem any_key_iff : entries.any (·.1 == key) = true ↔ key ∈ entries.map (·.1) := by
  simp [List.any_eq_true]

/-- Where no key occurs twice, every entry is the one of its key. -/
theorem lookup_of_mem : ∀ {entries : List (κ × α)}, (entries.map (·.1)).Nodup →
    (key, value) ∈ entries → entries.lookup key = some value
  | (k, v) :: rest, hnodup, h => by
    obtain ⟨hk, hrest⟩ := List.nodup_cons.mp hnodup
    obtain heq | hmem := List.mem_cons.mp h
    · cases heq
      exact List.lookup_cons_self
    · have hne : key ≠ k := by
        rintro rfl
        exact hk (List.mem_map.mpr ⟨_, hmem, rfl⟩)
      rw [List.lookup_cons, beq_eq_false_iff_ne.mpr hne]
      exact lookup_of_mem hrest hmem

theorem lookup_filter_keys (p : κ → Bool) (hname : p name = true) :
    ∀ entries : List (κ × α),
      (entries.filter fun e => p e.1).lookup name = entries.lookup name
  | [] => rfl
  | (k, v) :: rest => by
    have ih := lookup_filter_keys p hname rest
    rw [List.filter_cons]
    split
    · rw [List.lookup_cons, List.lookup_cons, ih]
    · rename_i hk
      have hne : name ≠ k := by
        rintro rfl
        exact hk hname
      rw [List.lookup_cons, beq_eq_false_iff_ne.mpr hne]
      exact ih

theorem keys_insertEntry_of_mem (h : key ∈ entries.map (·.1)) :
    (insertEntry entries key value).map (·.1) = entries.map (·.1) := by
  rw [insertEntry, if_pos (any_key_iff.mpr h), List.map_map]
  refine List.map_congr_left fun e _ => ?_
  by_cases hkey : e.1 == key
  · simpa [hkey] using (eq_of_beq hkey).symm
  · simp [hkey]

theorem keys_insertEntry_of_not_mem (h : key ∉ entries.map (·.1)) :
    (insertEntry entries key value).map (·.1) = entries.map (·.1) ++ [key] := by
  rw [insertEntry, if_neg (mt any_key_iff.mp h), List.map_append]
  rfl

theorem mem_keys_insertEntry : name ∈ (insertEntry entries key value).map (·.1) ↔
    name ∈ entries.map (·.1) ∨ name = key := by
  by_cases h : key ∈ entries.map (·.1)
  · rw [keys_insertEntry_of_mem h]
    exact ⟨Or.inl, fun hor => hor.elim id fun heq => heq ▸ h⟩
  · rw [keys_insertEntry_of_not_mem h, List.mem_append, List.mem_singleton]

/-- A new key comes after all others, so it is enough how these stand to it. -/
theorem pairwise_keys_insertEntry {R : κ → κ → Prop} (h : (entries.map (·.1)).Pairwise R)
    (hnew : key ∉ entries.map (·.1) → ∀ other ∈ entries.map (·.1), R other key) :
    ((insertEntry entries key value).map (·.1)).Pairwise R := by
  by_cases hkey : key ∈ entries.map (·.1)
  · rwa [keys_insertEntry_of_mem hkey]
  · rw [keys_insertEntry_of_not_mem hkey, List.pairwise_append]
    refine ⟨h, List.pairwise_singleton _ _, fun other hother _ hmem => ?_⟩
    rw [List.mem_singleton.mp hmem]
    exact hnew hkey other hother

/-- A key that is there has the value that it gets. -/
theorem lookup_replaced_self : ∀ {entries : List (κ × α)}, key ∈ entries.map (·.1) →
    (entries.map fun e => if e.1 == key then (key, value) else e).lookup key = some value
  | (k, v) :: rest, h => by
    rw [List.map_cons]
    by_cases hk : k == key
    · rw [if_pos hk, List.lookup_cons_self]
    · have hne : key ≠ k := fun heq => hk (beq_iff_eq.mpr heq.symm)
      rw [if_neg hk, List.lookup_cons, beq_eq_false_iff_ne.mpr hne]
      exact lookup_replaced_self ((List.mem_cons.mp h).resolve_left hne)

theorem lookup_replaced_of_ne (hne : name ≠ key) : ∀ entries : List (κ × α),
    (entries.map fun e => if e.1 == key then (key, value) else e).lookup name =
      entries.lookup name
  | [] => rfl
  | (k, v) :: rest => by
    have ih := lookup_replaced_of_ne hne rest
    rw [List.map_cons, List.lookup_cons, List.lookup_cons, ih]
    by_cases hk : k == key
    · obtain rfl := eq_of_beq hk
      rw [if_pos hk, beq_eq_false_iff_ne.mpr hne]
    · rw [if_neg hk]

theorem lookup_insertEntry_self : (insertEntry entries key value).lookup key = some value := by
  unfold insertEntry
  split
  · rename_i h
    exact lookup_replaced_self (any_key_iff.mp h)
  · rename_i h
    rw [List.lookup_append, lookup_eq_none_iff_not_mem.mpr (mt any_key_iff.mpr h), Option.none_or,
      List.lookup_cons_self]

theorem lookup_insertEntry_of_ne (hne : name ≠ key) :
    (insertEntry entries key value).lookup name = entries.lookup name := by
  unfold insertEntry
  split
  · exact lookup_replaced_of_ne hne entries
  · rw [List.lookup_append, List.lookup_cons, beq_eq_false_iff_ne.mpr hne, List.lookup_nil,
      Option.or_none]

end Entries

/-- An element behind others with a property is the first element, or the first one has the property
and it is behind others in the rest. -/
theorem exists_behind_cons_iff {α : Type} {P : α → Prop} {a first : α} {rest : List α} :
    (∃ before after, first :: rest = before ++ a :: after ∧ ∀ x ∈ before, P x) ↔
      first = a ∨ P first ∧ ∃ before after, rest = before ++ a :: after ∧ ∀ x ∈ before, P x := by
  constructor
  · rintro ⟨before, after, heq, hbefore⟩
    cases before with
    | nil => exact Or.inl (List.cons.inj heq).1
    | cons b before =>
      obtain ⟨rfl, rfl⟩ := List.cons.inj heq
      obtain ⟨hfirst, hbefore⟩ := List.forall_mem_cons.mp hbefore
      exact Or.inr ⟨hfirst, before, after, rfl, hbefore⟩
  · rintro (rfl | ⟨hfirst, before, after, rfl, hbefore⟩)
    · exact ⟨[], rest, rfl, by simp⟩
    · exact ⟨first :: before, after, rfl, List.forall_mem_cons.mpr ⟨hfirst, hbefore⟩⟩

/-! ## Modules that are imported -/

/-- A module is imported without a failure. -/
def RuleModule.Imports : RuleModule → Prop
  | .fails _ => False
  | .imported _ => True

namespace RuleDirectory

/-- A module offers a rule under a name: what it exposes is a class of rules that leaves nothing to
other classes. -/
def Offers (m : Path × RuleModule) (name : String) (rule : Rule) : Prop :=
  m.2 = .imported (.ruleClass false rule) ∧ ruleName m.1 rule = name

/-- The last of the modules that offer a rule under a name offers this one. -/
def LastOffers (ms : List (Path × RuleModule)) (name : String) (rule : Rule) : Prop :=
  ∃ before m after, ms = before ++ m :: after ∧ Offers m name rule ∧
    ∀ later ∈ after, ∀ other, ¬ Offers later name other

/-- The first module that offers a rule under the one name stands before every one that offers a
rule under the other name. -/
def OfferedBefore (ms : List (Path × RuleModule)) (name₁ name₂ : String) : Prop :=
  ∃ before m after, ms = before ++ m :: after ∧ (∃ rule, Offers m name₁ rule) ∧
    ∀ earlier ∈ before ++ [m], ∀ rule, ¬ Offers earlier name₂ rule

/-- Importing modules one after the other comes to one that raises something. -/
def Raises (ms : List (Path × RuleModule)) (file : Path) (fault : Fault) : Prop :=
  ∃ before after, ms = before ++ (file, .fails fault) :: after ∧ ∀ m ∈ before, m.2.Imports

/-- The rules that modules come to: a name for every name that is offered, in the order in which
the names are offered first, with the rule that is offered last. -/
structure Loaded (ms : List (Path × RuleModule)) (loaded : List (String × Rule)) : Prop where
  nodup : (loaded.map (·.1)).Nodup
  mem_iff : ∀ name, name ∈ loaded.map (·.1) ↔ ∃ m ∈ ms, ∃ rule, Offers m name rule
  lookup_iff : ∀ name rule, loaded.lookup name = some rule ↔ LastOffers ms name rule
  ordered : (loaded.map (·.1)).Pairwise (OfferedBefore ms)

section Modules

variable {ms : List (Path × RuleModule)} {m : Path × RuleModule} {name : String} {rule : Rule}
  {w : Wording} {file : Path} {fault e : Fault} {loaded : List (String × Rule)}

theorem Offers.unique {name₁ name₂ : String} {rule₁ rule₂ : Rule} (h₁ : Offers m name₁ rule₁)
    (h₂ : Offers m name₂ rule₂) : name₁ = name₂ ∧ rule₁ = rule₂ := by
  obtain ⟨hm₁, rfl⟩ := h₁
  obtain ⟨hm₂, rfl⟩ := h₂
  cases hm₁.symm.trans hm₂
  exact ⟨rfl, rfl⟩

/-- One more module decides for the name that it offers a rule under, and for no other one. -/
theorem lastOffers_concat :
    LastOffers (ms ++ [m]) name rule ↔
      Offers m name rule ∨ (∀ other, ¬ Offers m name other) ∧ LastOffers ms name rule := by
  constructor
  · rintro ⟨before, m', after, heq, hm', hafter⟩
    obtain rfl | ⟨after, last, rfl⟩ := List.eq_nil_or_concat' after
    · obtain ⟨-, hm⟩ := List.append_inj' heq rfl
      cases hm
      exact Or.inl hm'
    · rw [← List.cons_append, ← List.append_assoc] at heq
      obtain ⟨rfl, hm⟩ := List.append_inj' heq rfl
      cases hm
      refine Or.inr ⟨hafter m (by simp), before, m', after, rfl, hm', fun later hlater => ?_⟩
      exact hafter later (List.mem_append_left _ hlater)
  · rintro (hm | ⟨hm, before, m', after, rfl, hm', hafter⟩)
    · exact ⟨ms, m, [], rfl, hm, by simp⟩
    · refine ⟨before, m', after ++ [m], by simp, hm', fun later hlater => ?_⟩
      obtain hlater | hlater := List.mem_append.mp hlater
      · exact hafter later hlater
      · exact List.mem_singleton.mp hlater ▸ hm

theorem OfferedBefore.concat {name₁ name₂ : String} (h : OfferedBefore ms name₁ name₂) :
    OfferedBefore (ms ++ [m]) name₁ name₂ := by
  obtain ⟨before, m', after, rfl, hm', hnone⟩ := h
  exact ⟨before, m', after ++ [m], by simp, hm', hnone⟩

/-- A name that is offered comes before one that is not offered yet. -/
theorem offeredBefore_of_fresh {name₁ name₂ : String} (h : ∃ m' ∈ ms, ∃ rule, Offers m' name₁ rule)
    (hfresh : ¬ ∃ m' ∈ ms, ∃ rule, Offers m' name₂ rule) :
    OfferedBefore (ms ++ [m]) name₁ name₂ := by
  obtain ⟨m', hmem, hm'⟩ := h
  obtain ⟨before, after, rfl⟩ := List.append_of_mem hmem
  refine OfferedBefore.concat ⟨before, m', after, rfl, hm', fun earlier hearlier rule hrule => ?_⟩
  refine hfresh ⟨earlier, ?_, rule, hrule⟩
  rw [List.append_cons]
  exact List.mem_append_left _ hearlier

/-! ### The table of a directory -/

theorem Loaded.nil : Loaded [] [] where
  nodup := List.nodup_nil
  mem_iff name := by simp
  lookup_iff name rule := by simp [LastOffers]
  ordered := .nil

/-- A module that offers nothing leaves the table as it is. -/
theorem Loaded.idle (h : Loaded ms loaded) (hm : ∀ name rule, ¬ Offers m name rule) :
    Loaded (ms ++ [m]) loaded where
  nodup := h.nodup
  mem_iff name := by simp [h.mem_iff, or_and_right, exists_or, hm]
  lookup_iff name rule := by simp [h.lookup_iff, lastOffers_concat, hm]
  ordered := h.ordered.imp fun hbefore => hbefore.concat

/-- The name that a module offers a rule under has this rule now, and the others are as before. -/
theorem Loaded.lookup_offer (h : Loaded ms loaded) (hm : Offers m name rule) (other : String)
    (rule' : Rule) : (insertEntry loaded name rule).lookup other = some rule' ↔
      LastOffers (ms ++ [m]) other rule' := by
  rw [lastOffers_concat]
  by_cases heq : other = name
  · subst heq
    rw [lookup_insertEntry_self, Option.some_inj]
    constructor
    · rintro rfl
      exact Or.inl hm
    · rintro (hm' | ⟨hnone, -⟩)
      · exact (hm.unique hm').2
      · exact (hnone rule hm).elim
  · have hother : ∀ rule', ¬ Offers m other rule' := fun rule' h' => heq (h'.unique hm).1
    rw [lookup_insertEntry_of_ne heq, h.lookup_iff]
    simp [hother]

/-- A module that offers a rule puts it under its name. -/
theorem Loaded.offer (h : Loaded ms loaded) (hm : Offers m name rule) :
    Loaded (ms ++ [m]) (insertEntry loaded name rule) where
  nodup := pairwise_keys_insertEntry h.nodup fun hname _ hother heq => hname (heq ▸ hother)
  mem_iff other := by
    have hoffers : (∃ rule', Offers m other rule') ↔ other = name :=
      ⟨fun ⟨_, hother⟩ => (hother.unique hm).1, fun heq => ⟨rule, heq ▸ hm⟩⟩
    simp [mem_keys_insertEntry, h.mem_iff, or_and_right, exists_or, hoffers]
  lookup_iff := h.lookup_offer hm
  ordered := pairwise_keys_insertEntry (h.ordered.imp fun hbefore => hbefore.concat)
    fun hname other hother => offeredBefore_of_fresh ((h.mem_iff other).mp hother)
      (mt (h.mem_iff name).mpr hname)

/-! ### Runs -/

/-- What is loaded is what the modules offer, whatever was loaded before. -/
theorem loadModules_loaded : ∀ {ms imported : List (Path × RuleModule)}
    {loaded result : List (String × Rule)}, Loaded imported loaded →
    loadModules w loaded ms = .ok result → Loaded (imported ++ ms) result
  | [], imported, loaded, result, h, hload => by
    cases hload
    rwa [List.append_nil]
  | (file, .fails fault) :: rest, imported, loaded, result, h, hload => by cases hload
  | (file, .imported exposed) :: rest, imported, loaded, result, h, hload => by
    rw [List.append_cons]
    rw [loadModules] at hload
    split at hload
    · next hnone =>
      refine loadModules_loaded (h.idle fun name rule hm => ?_) hload
      rw [RuleAttribute.offer?_eq_some_iff.mpr (RuleModule.imported.inj hm.1)] at hnone
      cases hnone
    · next rule hsome =>
      obtain rfl := RuleAttribute.offer?_eq_some_iff.mp hsome
      exact loadModules_loaded (h.offer ⟨rfl, rfl⟩) hload

theorem raises_cons_iff : Raises (m :: ms) file fault ↔
    m = (file, .fails fault) ∨ m.2.Imports ∧ Raises ms file fault :=
  exists_behind_cons_iff

/-- An import ends at the first module that raises something. -/
theorem loadModules_eq_error_iff : ∀ {ms : List (Path × RuleModule)}
    {loaded : List (String × Rule)}, loadModules w loaded ms = .error e ↔
      ∃ file fault, Raises ms file fault ∧ e = importFault w file fault
  | [], loaded => by simp [loadModules, Raises]
  | (file, .fails fault) :: rest, loaded => by
    simp [loadModules, raises_cons_iff, RuleModule.Imports, @eq_comm _ e]
  | (file, .imported exposed) :: rest, loaded => by
    rw [loadModules]
    split <;> rw [loadModules_eq_error_iff] <;> simp [raises_cons_iff, RuleModule.Imports]

/-- Either all modules are imported, or one of them raises something. -/
theorem imports_or_raises : ∀ ms : List (Path × RuleModule),
    (∀ m ∈ ms, m.2.Imports) ∨ ∃ file fault, Raises ms file fault
  | [] => Or.inl (by simp)
  | (file, .fails fault) :: rest => Or.inr ⟨file, fault, [], rest, rfl, by simp⟩
  | (file, .imported exposed) :: rest => by
    simpa [raises_cons_iff, RuleModule.Imports] using imports_or_raises rest

theorem Raises.not_imports (h : Raises ms file fault) : ¬ ∀ m ∈ ms, m.2.Imports := by
  obtain ⟨before, after, rfl, -⟩ := h
  exact fun hall => hall (file, .fails fault) (by simp)

end Modules

/-! ## The modules of a directory -/

/-- An entry of a directory is considered as a module: its name ends as those of modules do and is
not private. -/
def Considered (name : String) : Prop :=
  RuleModule.ending.toList <:+ name.toList ∧ name.toList.head? ≠ some '_'

instance (name : String) : Decidable (Considered name) :=
  inferInstanceAs (Decidable (_ ∧ _))

theorem isModuleName_eq (name : String) : isModuleName name = decide (Considered name) := by
  rw [Bool.eq_iff_iff, decide_eq_true_iff, isModuleName, Bool.and_eq_true,
    List.isSuffixOf_iff_suffix, bne_iff_ne]
  rfl

section Directory

variable {fs : FileSystem} {directory : Path} {entries : List (Name × FileNode)}

/-- The modules of a directory are its considered entries, in the order of their names. -/
theorem exists_modules_eq (hdir : fs.node directory = .ok (.directory entries)) :
    ∃ named : List (Name × FileNode),
      named.Perm (entries.filter fun e => decide (Considered e.1.text)) ∧
      named.Pairwise (fun a b => a.1.text ≤ b.1.text) ∧
      modules fs directory = named.map fun e =>
        (directory.child e.1, moduleAt fs (directory.child e.1) e.2) := by
  refine ⟨(entries.filter fun e => isModuleName e.1.text).mergeSort fun a b =>
    decide (a.1.text ≤ b.1.text), ?_, ?_, ?_⟩
  · simp only [isModuleName_eq]
    exact List.mergeSort_perm _ _
  · exact mergeSort_by_name_pairwise (fun e : Name × FileNode => e.1.text) _
  · rw [modules, hdir]
    rfl

/-- Where no name occurs twice, the order of the entries does not matter. -/
theorem modules_eq (hdir : fs.node directory = .ok (.directory entries))
    {named : List (Name × FileNode)}
    (hperm : named.Perm (entries.filter fun e => decide (Considered e.1.text)))
    (hsorted : named.Pairwise fun a b => a.1.text < b.1.text) :
    modules fs directory = named.map fun e =>
      (directory.child e.1, moduleAt fs (directory.child e.1) e.2) := by
  obtain ⟨named', hperm', hsorted', hmodules⟩ := exists_modules_eq hdir
  have hnodup : (named.map (·.1.text)).Nodup := List.pairwise_map.mpr (hsorted.imp ne_of_lt)
  have hsame : named'.Perm named := hperm'.trans hperm.symm
  rw [hmodules, List.Perm.eq_of_pairwise (fun a b ha hb hab hba => ?_) hsorted'
    (hsorted.imp le_of_lt) hsame]
  exact List.inj_on_of_nodup_map hnodup (hsame.mem_iff.mp ha) hb (le_antisymm hab hba)

end Directory

theorem stemOf_ne_empty {name : String} (h : name ≠ "") : Path.stemOf name ≠ "" := by
  unfold Path.stemOf
  dsimp only
  split
  · exact h
  · rename_i hparts
    rw [Bool.or_eq_true, not_or] at hparts
    intro hempty
    exact hparts.2 (by simpa [String.ofList_eq_empty_iff] using hempty)

/-- A module name leaves something to name a rule by. -/
theorem nameFor_ne_empty {file : Path} (h : Considered file.name) : nameFor file ≠ "" := by
  have hname : file.name ≠ "" := by
    intro hempty
    rw [hempty] at h
    exact absurd h (by decide)
  intro hempty
  refine stemOf_ne_empty hname ?_
  simpa [nameFor, Path.stem, String.ofList_eq_empty_iff] using hempty

end RuleDirectory

/-! ## The registry -/

namespace Registry

variable {r : Registry} {rules rest : List (String × Rule)} {name : String} {rule : Rule}

/-- What is there stays, and what is not comes from the rules that are added. -/
theorem find?_extend : (r.extend rules).find? name = (r.find? name).or (rules.lookup name) := by
  have happend : (r.extend rules).find? name =
      (r.find? name).or ((rules.filter fun e => !r.contains e.1).lookup name) :=
    List.lookup_append
  rw [happend]
  cases hfind : r.find? name with
  | some rule => rfl
  | none =>
    have hcontains : (!r.contains name) = true := by rw [contains, hfind]; rfl
    rw [lookup_filter_keys (fun key => !r.contains key) hcontains]

theorem contains_extend :
    (r.extend rules).contains name = (r.contains name || (rules.lookup name).isSome) := by
  rw [contains, find?_extend, Option.isSome_or]
  rfl

/-- Registers rules under explicit names, one after the other. -/
def registerEach (r : Registry) : List (String × Rule) → Except Fault Registry
  | [] => .ok r
  | (name, rule) :: rest =>
    match r.register rule name with
    | .ok (_, next) => next.registerEach rest
    | .error fault => .error fault

theorem register_eq_extend (hname : name ≠ "") :
    r.register rule name = .ok (!r.contains name, r.extend [(name, rule)]) := by
  have hkey : keyOf name rule = name := if_neg hname
  unfold register
  rw [hkey, if_neg hname]
  cases hcontains : r.contains name <;> simp [extend, hcontains]

theorem extend_cons (hfresh : name ∉ rest.map (·.1)) :
    (r.extend [(name, rule)]).extend rest = r.extend ((name, rule) :: rest) := by
  have hothers : (rest.filter fun e => !(r.extend [(name, rule)]).contains e.1) =
      rest.filter fun e => !r.contains e.1 := by
    refine List.filter_congr fun e he => ?_
    have hne : e.1 ≠ name := fun heq => hfresh (heq ▸ List.mem_map_of_mem he)
    rw [contains_extend, List.lookup_cons, beq_eq_false_iff_ne.mpr hne]
    simp
  rw [extend, hothers, extend, extend, List.append_assoc, ← List.filter_append]
  rfl

/-- Adding rules is registering them in order, where the names are distinct and not empty. -/
theorem registerEach_eq_extend : ∀ {rules : List (String × Rule)} {r : Registry},
    (rules.map (·.1)).Nodup → (∀ e ∈ rules, e.1 ≠ "") → r.registerEach rules = .ok (r.extend rules)
  | [], r, _, _ => by simp [registerEach, extend]
  | (name, rule) :: rest, r, hnodup, hnames => by
    obtain ⟨hfresh, hrest⟩ := List.nodup_cons.mp hnodup
    obtain ⟨hname, hnames⟩ := List.forall_mem_cons.mp hnames
    rw [registerEach, register_eq_extend hname]
    dsimp only
    rw [registerEach_eq_extend hrest hnames, extend_cons hfresh]

/-! ### Built-in rules -/

/-- The built-in rules have names, each of them another one. -/
theorem builtin_names : (builtin.entries.map (·.1)).Nodup ∧ "" ∉ builtin.entries.map (·.1) := by
  decide

theorem find?_builtin (h : rule ∈ Rule.builtin) : builtin.find? rule.name = some rule :=
  lookup_of_mem builtin_names.1 (List.mem_map.mpr ⟨rule, h, rfl⟩)

theorem mem_builtin_of_find? (h : builtin.find? name = some rule) : rule ∈ Rule.builtin := by
  obtain ⟨before, after, hsplit, -⟩ := List.lookup_eq_some_iff.mp h
  have hmem : (name, rule) ∈ builtin.entries := by
    rw [hsplit]
    exact List.mem_append_right _ List.mem_cons_self
  obtain ⟨rule, hrule, heq⟩ := List.mem_map.mp hmem
  cases heq
  exact hrule

theorem find?_builtin_eq_none (h : ∀ rule ∈ Rule.builtin, rule.name ≠ name) :
    builtin.find? name = none := by
  rw [find?, lookup_eq_none_iff_not_mem]
  simpa [builtin] using h

/-- What names stand for in a registry: for built-in rules if they are their names, else for what
was loaded. -/
structure Resolves (r : Registry) (loaded : List (String × Rule)) : Prop where
  builtin : ∀ rule ∈ Rule.builtin, r.find? rule.name = some rule
  other : ∀ name, (∀ rule ∈ Rule.builtin, rule.name ≠ name) → r.find? name = loaded.lookup name

theorem resolves_extend (loaded : List (String × Rule)) :
    (builtin.extend loaded).Resolves loaded where
  builtin rule hrule := by rw [find?_extend, find?_builtin hrule, Option.some_or]
  other name hname := by rw [find?_extend, find?_builtin_eq_none hname, Option.none_or]

end Registry

namespace RuleDirectory

variable {fs : FileSystem} {directory : Path} {entries : List (Name × FileNode)}

theorem load_eq (hdir : fs.node directory = .ok (.directory entries)) :
    load fs directory = loadModules fs.wording [] (modules fs directory) := by
  rw [load, FileSystem.isDirectory, FileSystem.holds, hdir]
  rfl

/-- No module of a directory offers a rule without a name. -/
theorem Offers.name_ne_empty (hdir : fs.node directory = .ok (.directory entries))
    {m : Path × RuleModule} {name : String} {rule : Rule} (hm : m ∈ modules fs directory)
    (h : Offers m name rule) : name ≠ "" := by
  obtain ⟨named, hperm, -, hmodules⟩ := exists_modules_eq hdir
  rw [hmodules] at hm
  obtain ⟨e, he, rfl⟩ := List.mem_map.mp hm
  have hconsidered := of_decide_eq_true (List.mem_filter.mp (hperm.mem_iff.mp he)).2
  rw [← Path.name_child directory e.1] at hconsidered
  obtain ⟨-, rfl⟩ := h
  unfold ruleName
  split
  · exact nameFor_ne_empty hconsidered
  · assumption

theorem Loaded.name_ne_empty (hdir : fs.node directory = .ok (.directory entries))
    {loaded : List (String × Rule)} (h : Loaded (modules fs directory) loaded) :
    ∀ e ∈ loaded, e.1 ≠ "" := by
  intro e he
  obtain ⟨m, hm, rule, hoffers⟩ := (h.mem_iff e.1).mp (List.mem_map_of_mem he)
  exact hoffers.name_ne_empty hdir hm

/-- **What a rules directory adds.** Its modules are the considered entries in the order of their
names. If all of them are imported, the rules that they come to are loaded, and the names of the
registry stand for the built-in rules and then for those. If one of them raises something, there is
no registry: an exception is reported with the file of the module and its text, an interrupt goes
through, and where an exception has no text what is raised in asking for it goes through. -/
theorem load_resolves (fs : FileSystem) (directory : Path) {entries : List (Name × FileNode)}
    (hdir : fs.node directory = .ok (.directory entries)) :
    (∃ named : List (Name × FileNode),
      named.Perm (entries.filter fun e => decide (Considered e.1.text)) ∧
      named.Pairwise (fun a b => a.1.text ≤ b.1.text) ∧
      modules fs directory = named.map fun e =>
        (directory.child e.1, moduleAt fs (directory.child e.1) e.2)) ∧
    ((∀ m ∈ modules fs directory, m.2.Imports) →
      ∃ loaded registry, load fs directory = .ok loaded ∧ Loaded (modules fs directory) loaded ∧
        Registry.withDirectory fs (some directory) = .ok registry ∧
        Registry.builtin.registerEach loaded = .ok registry ∧ registry.Resolves loaded) ∧
    (∀ file fault, Raises (modules fs directory) file fault →
      ∃ reported, load fs directory = .error reported ∧
        Registry.withDirectory fs (some directory) = .error reported ∧
        (fault.interrupts = true → reported = fault) ∧
        (fault.interrupts = false →
          (∀ text, fault.text fs.wording = .ok text →
            reported = .config (.importFailed file.text fault.kind text)) ∧
          ∀ cause, fault.text fs.wording = .error cause → reported = cause)) ∧
    ((∀ m ∈ modules fs directory, m.2.Imports) ∨
      ∃ file fault, Raises (modules fs directory) file fault) := by
  refine ⟨exists_modules_eq hdir, fun himports => ?_, fun file fault hraises => ?_,
    imports_or_raises _⟩
  · cases hload : load fs directory with
    | error e =>
      rw [load_eq hdir, loadModules_eq_error_iff] at hload
      obtain ⟨file, fault, hraises, -⟩ := hload
      exact (hraises.not_imports himports).elim
    | ok loaded =>
      have hloaded : Loaded (modules fs directory) loaded := by
        rw [load_eq hdir] at hload
        exact loadModules_loaded .nil hload
      exact ⟨loaded, Registry.builtin.extend loaded, rfl, hloaded,
        by rw [Registry.withDirectory, hload]; rfl,
        Registry.registerEach_eq_extend hloaded.nodup (hloaded.name_ne_empty hdir),
        Registry.resolves_extend loaded⟩
  · have hload : load fs directory = .error (importFault fs.wording file fault) := by
      rw [load_eq hdir, loadModules_eq_error_iff]
      exact ⟨file, fault, hraises, rfl⟩
    refine ⟨_, hload, by rw [Registry.withDirectory, hload]; rfl, fun hinterrupts => ?_,
      fun hinterrupts => ⟨fun text htext => ?_, fun cause htext => ?_⟩⟩
    · rw [importFault, if_pos hinterrupts]
    · simp [importFault, hinterrupts, htext]
    · simp [importFault, hinterrupts, htext]

/-- A rule that takes the name of its file and fails with a text. -/
def unnamedRule (text : String) : Rule := .failing "" (.raised (.failure "ValueError" text))

/-- A directory with two modules for one name, a module for the name of a built-in rule and a
private one, and a directory with two modules that raise something. -/
def collidingModules : FileSystem :=
  { FileSystem.ofTree (.directory [
      (.of "r", .directory [(.of "max_line_length.py", .file []), (.of "_private.py", .file []),
        (.of "a-b.py", .file []), (.of "a_b.py", .file [])]),
      (.of "q", .directory [(.of "b.py", .file []), (.of "a.py", .file [])])]) with
    imports := fun file _ => match file.name with
      | "max_line_length.py" => .defining (unnamedRule "taken")
      | "a-b.py" => .defining (unnamedRule "early")
      | "a_b.py" => .defining (unnamedRule "late")
      | "a.py" => .fails (.raised (.failure "ImportError" "early"))
      | _ => .fails (.raised (.failure "ValueError" "late")) }

theorem modules_colliding : modules collidingModules ⟨.root, [.of "r"]⟩ = [
    (⟨.root, [.of "r", .of "a-b.py"]⟩, .defining (unnamedRule "early")),
    (⟨.root, [.of "r", .of "a_b.py"]⟩, .defining (unnamedRule "late")),
    (⟨.root, [.of "r", .of "max_line_length.py"]⟩, .defining (unnamedRule "taken"))] := by
  have hperm : [(Name.of "a-b.py", FileNode.file []), (.of "a_b.py", .file []),
      (.of "max_line_length.py", .file [])].Perm
      [(.of "max_line_length.py", .file []), (.of "a-b.py", .file []), (.of "a_b.py", .file [])] :=
    @List.perm_append_comm _ [_, _] [_]
  exact @modules_eq collidingModules ⟨.root, [.of "r"]⟩ _ rfl _ hperm (by decide)

theorem modules_raising : modules collidingModules ⟨.root, [.of "q"]⟩ = [
    (⟨.root, [.of "q", .of "a.py"]⟩, .fails (.raised (.failure "ImportError" "early"))),
    (⟨.root, [.of "q", .of "b.py"]⟩, .fails (.raised (.failure "ValueError" "late")))] := by
  have hperm : [(Name.of "a.py", FileNode.file []), (.of "b.py", .file [])].Perm
      [(.of "b.py", .file []), (.of "a.py", .file [])] := .swap _ _ _
  exact @modules_eq collidingModules ⟨.root, [.of "q"]⟩ _ rfl _ hperm (by decide)

/-- Of two modules with one name the later one counts, and neither counts for the name of a
built-in rule; of two modules that raise something the earlier one is reported. -/
theorem load_resolves_collision :
    (∃ registry,
      Registry.withDirectory collidingModules (some ⟨.root, [.of "r"]⟩) = .ok registry ∧
      registry.find? "a-b" = some (unnamedRule "late") ∧
      registry.find? "max-line-length" = some .lineLength) ∧
    Registry.withDirectory collidingModules (some ⟨.root, [.of "q"]⟩) =
      .error (.config (.importFailed "/q/a.py" "ImportError" "early")) := by
  obtain ⟨-, himports, -⟩ := load_resolves collidingModules ⟨.root, [.of "r"]⟩ rfl
  obtain ⟨-, -, hraises, -⟩ := load_resolves collidingModules ⟨.root, [.of "q"]⟩ rfl
  rw [modules_colliding] at himports
  rw [modules_raising] at hraises
  obtain ⟨loaded, registry, -, hloaded, hregistry, -, hresolves⟩ :=
    himports (by simp [RuleModule.Imports, RuleModule.defining])
  obtain ⟨reported, -, hreported, -, htold⟩ :=
    hraises ⟨.root, [.of "q", .of "a.py"]⟩ _ ⟨[], _, rfl, by simp⟩
  refine ⟨⟨registry, hregistry, ?_, hresolves.builtin .lineLength (by simp [Rule.builtin])⟩, ?_⟩
  · rw [hresolves.other "a-b" (by simp [Rule.builtin]; decide), hloaded.lookup_iff]
    refine ⟨[_], _, [_], rfl, ⟨rfl, by decide⟩, ?_⟩
    rintro later hlater other ⟨hdefines, hname⟩
    cases List.mem_singleton.mp hlater
    cases hdefines
    exact absurd hname (by decide)
  · rw [hreported, (htold rfl).1 "early" rfl]
    rfl

/-- A directory with one module, which raises what has no text: a number in it is too long. -/
def wordlessModule : FileSystem :=
  { FileSystem.ofTree (.directory [(.of "r", .directory [(.of "a.py", .file [])])]) with
    imports := fun _ _ => .fails (.raised (.wordless "ValueError" .failure .unwritable)) }

/-- **A module that raises what has no text** is not reported with its file: what is raised in
asking for the text goes through. -/
theorem not_load_resolves_wordless :
    Raises (modules wordlessModule ⟨.root, [.of "r"]⟩) ⟨.root, [.of "r", .of "a.py"]⟩
      (.raised (.wordless "ValueError" .failure .unwritable)) ∧
    ¬ ∃ fault, load wordlessModule ⟨.root, [.of "r"]⟩ = .error (.config fault) := by
  have hmodules : modules wordlessModule ⟨.root, [.of "r"]⟩ = [(⟨.root, [.of "r", .of "a.py"]⟩,
      .fails (.raised (.wordless "ValueError" .failure .unwritable)))] := by
    have hperm : [(Name.of "a.py", FileNode.file [])].Perm [(.of "a.py", .file [])] := .refl _
    exact @modules_eq wordlessModule ⟨.root, [.of "r"]⟩ _ rfl _ hperm (by decide)
  have hraises : Raises (modules wordlessModule ⟨.root, [.of "r"]⟩)
      ⟨.root, [.of "r", .of "a.py"]⟩ (.raised (.wordless "ValueError" .failure .unwritable)) := by
    rw [hmodules]
    exact ⟨[], [], rfl, by simp⟩
  refine ⟨hraises, ?_⟩
  rintro ⟨fault, hload⟩
  rw [load_eq rfl, hmodules] at hload
  cases hload

end RuleDirectory

end LintFixture
