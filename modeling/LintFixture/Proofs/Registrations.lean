import LintFixture.Proofs.RuleLoading

/-!
# Registries in use

A registry may be asked and extended in any order. Which rule a name stands for is decided by the
registrations alone, in their order, those of the rules that the registry is made of being the
first: the earliest one under a name counts (`run_keeps`, by one step for each call). A rule that
has no name at all is refused, and that is no registration.

Headline: `ofRules_firstWins`, what a registry answers after every sequence of calls, and which
rules make no registry.
-/

namespace LintFixture

/-! ## Calls -/

/-- A call of a registry. -/
inductive RegistryCall
  | register (rule : Rule) (explicit : String)
  | get (name : String)
  | contains (name : String)

/-- What a registry gives back. -/
inductive RegistryAnswer
  | rule (found : Option Rule)
  | truth (b : Bool)

/-- The registration that a call is: its key and the rule. -/
def RegistryCall.registration? : RegistryCall → Option (String × Rule)
  | register rule explicit =>
    let key := Registry.keyOf explicit rule
    if key = "" then none else some (key, rule)
  | _ => none

/-- The registrations among calls, in their order. -/
def registrations (calls : List RegistryCall) : List (String × Rule) :=
  calls.filterMap RegistryCall.registration?

/-- The calls that register rules under the names that they declare. -/
def registering (rules : List Rule) : List RegistryCall :=
  rules.map fun rule => .register rule ""

namespace Registry

/-- What a call comes to, and the registry after it. -/
def call (r : Registry) : RegistryCall → Except Fault RegistryAnswer × Registry
  | .register rule explicit =>
    match r.register rule explicit with
    | .ok (added, next) => (.ok (.truth added), next)
    | .error fault => (.error fault, r)
  | .get name => (.ok (.rule (r.find? name)), r)
  | .contains name => (.ok (.truth (r.contains name)), r)

/-- The registry after calls, whatever they come to. -/
def run (r : Registry) (calls : List RegistryCall) : Registry :=
  calls.foldl (fun r c => (r.call c).2) r

/-- The earliest registration under a name is that of this rule. -/
def FirstUnder (past : List (String × Rule)) (name : String) (rule : Rule) : Prop :=
  ∃ before after, past = before ++ (name, rule) :: after ∧ ∀ e ∈ before, e.1 ≠ name

/-- A rule is the first one that declares no name. -/
def FirstNameless (rules : List Rule) (rule : Rule) : Prop :=
  (∃ before after, rules = before ++ rule :: after ∧ ∀ earlier ∈ before, earlier.name ≠ "") ∧
    rule.name = ""

/-- What is to be answered to a call after registrations. -/
inductive Answers (past : List (String × Rule)) :
    RegistryCall → Except Fault RegistryAnswer → Prop
  | added {rule : Rule} {explicit : String} : keyOf explicit rule ≠ "" →
    keyOf explicit rule ∉ past.map (·.1) →
    Answers past (.register rule explicit) (.ok (.truth true))
  | taken {rule : Rule} {explicit : String} : keyOf explicit rule ≠ "" →
    keyOf explicit rule ∈ past.map (·.1) →
    Answers past (.register rule explicit) (.ok (.truth false))
  | nameless {rule : Rule} {explicit : String} : keyOf explicit rule = "" →
    Answers past (.register rule explicit) (.error (nameless rule))
  | found {name : String} {rule : Rule} : FirstUnder past name rule →
    Answers past (.get name) (.ok (.rule (some rule)))
  | missing {name : String} : name ∉ past.map (·.1) →
    Answers past (.get name) (.ok (.rule none))
  | known {name : String} : name ∈ past.map (·.1) →
    Answers past (.contains name) (.ok (.truth true))
  | unknown {name : String} : name ∉ past.map (·.1) →
    Answers past (.contains name) (.ok (.truth false))

/-- In a registry of these rules the first registration under a name wins. -/
structure FirstWins (initial : List Rule) (r : Registry) : Prop where
  /-- After any calls a name stands for the rule of its earliest registration, -/
  get : ∀ calls name rule, (r.run calls).find? name = some rule ↔
    FirstUnder (registrations (registering initial ++ calls)) name rule
  /-- so it stands for nothing if it is empty or was never registered, -/
  missing : ∀ calls name, name = "" ∨
    name ∉ (registrations (registering initial ++ calls)).map (·.1) →
    (r.run calls).find? name = none
  /-- and the registry contains the names that stand for a rule. -/
  contains : ∀ calls name, (r.run calls).contains name = true ↔
    ∃ rule, (r.run calls).find? name = some rule
  /-- The next call is answered as the registrations before it say. -/
  answers : ∀ calls call, Answers (registrations (registering initial ++ calls)) call
    ((r.run calls).call call).1
  /-- A rule without a name changes nothing, -/
  refused : ∀ calls rule explicit, keyOf explicit rule = "" →
    ∀ name, (r.run (calls ++ [.register rule explicit])).find? name = (r.run calls).find? name
  /-- and no call changes what a name stands for already. -/
  settled : ∀ calls more name rule, (r.run calls).find? name = some rule →
    (r.run (calls ++ more)).find? name = some rule

/-! ## What a registry keeps -/

section Keeping

variable {r : Registry} {past : List (String × Rule)} {name explicit : String} {rule : Rule}

/-- In a registry every name has the rule of its earliest registration. -/
def Keeps (past : List (String × Rule)) (r : Registry) : Prop :=
  ∀ name, r.find? name = past.lookup name

theorem keeps_empty : Keeps [] empty := fun _ => rfl

theorem firstUnder_iff : FirstUnder past name rule ↔ past.lookup name = some rule := by
  rw [List.lookup_eq_some_iff, FirstUnder]
  refine exists_congr fun before => exists_congr fun after => and_congr_right fun _ => ?_
  exact forall₂_congr fun e _ => by rw [bne_iff_ne, ne_comm]

theorem empty_not_mem_registrations (calls : List RegistryCall) :
    "" ∉ (registrations calls).map (·.1) := by
  intro h
  obtain ⟨e, he, hempty⟩ := List.mem_map.mp h
  obtain ⟨c, -, hc⟩ := List.mem_filterMap.mp he
  cases c with
  | register rule explicit =>
    unfold RegistryCall.registration? at hc
    dsimp only at hc
    split at hc
    · cases hc
    · rename_i hkey
      cases hc
      exact hkey hempty
  | get name => cases hc
  | contains name => cases hc

theorem keyOf_keyOf : keyOf (keyOf explicit rule) rule = keyOf explicit rule := by
  unfold keyOf
  split
  · exact ite_self _
  · rfl

/-- A rule that has a key is added under it, unless the key is taken. -/
theorem register_of_key (hkey : keyOf explicit rule ≠ "") :
    r.register rule explicit =
      .ok (!r.contains (keyOf explicit rule), r.extend [(keyOf explicit rule, rule)]) := by
  rw [← register_eq_extend hkey, register, register, keyOf_keyOf]

theorem register_nameless (hkey : keyOf explicit rule = "") :
    r.register rule explicit = .error (nameless rule) := by
  rw [register, hkey, if_pos rfl]

/-- **One call** adds its registration, if it is one, behind those before it. -/
theorem Keeps.call (h : Keeps past r) (c : RegistryCall) :
    Keeps (past ++ registrations [c]) (r.call c).2 := by
  intro name
  cases c with
  | get _ =>
    rw [registrations, List.filterMap_cons_none rfl, List.filterMap_nil, List.append_nil]
    exact h name
  | contains _ =>
    rw [registrations, List.filterMap_cons_none rfl, List.filterMap_nil, List.append_nil]
    exact h name
  | register rule explicit =>
    by_cases hkey : keyOf explicit rule = ""
    · have hnone : (RegistryCall.register rule explicit).registration? = none := if_pos hkey
      rw [Registry.call, register_nameless hkey, registrations, List.filterMap_cons_none hnone,
        List.filterMap_nil, List.append_nil]
      exact h name
    · have hsome : (RegistryCall.register rule explicit).registration? =
          some (keyOf explicit rule, rule) := if_neg hkey
      rw [Registry.call, register_of_key hkey, registrations, List.filterMap_cons_some hsome,
        List.filterMap_nil, List.lookup_append, ← h name]
      exact find?_extend

/-- **A run** keeps all its registrations, in their order. -/
theorem run_keeps : ∀ (calls : List RegistryCall) {r : Registry} {past : List (String × Rule)},
    Keeps past r → Keeps (past ++ registrations calls) (r.run calls)
  | [], r, past, h => by rwa [registrations, List.filterMap_nil, List.append_nil]
  | c :: rest, r, past, h => by
    have hrest := run_keeps rest (h.call c)
    rwa [List.append_assoc, registrations, registrations, ← List.filterMap_append] at hrest

theorem Keeps.find?_iff (h : Keeps past r) :
    r.find? name = some rule ↔ FirstUnder past name rule := by
  rw [h name, firstUnder_iff]

theorem Keeps.contains_iff (h : Keeps past r) : r.contains name = true ↔ name ∈ past.map (·.1) := by
  rw [contains, h name, Option.isSome_iff_exists, mem_keys_iff_lookup]

/-- What a registry answers depends on its registrations only. -/
theorem Keeps.answers (h : Keeps past r) (c : RegistryCall) : Answers past c (r.call c).1 := by
  cases c with
  | get name =>
    rw [Registry.call]
    cases hfind : r.find? name with
    | none => exact .missing (lookup_eq_none_iff_not_mem.mp ((h name).symm.trans hfind))
    | some rule => exact .found (h.find?_iff.mp hfind)
  | contains name =>
    rw [Registry.call]
    cases hcontains : r.contains name with
    | true => exact .known (h.contains_iff.mp hcontains)
    | false => exact .unknown fun hmem => by simp [h.contains_iff.mpr hmem] at hcontains
  | register rule explicit =>
    by_cases hkey : keyOf explicit rule = ""
    · rw [Registry.call, register_nameless hkey]
      exact .nameless hkey
    · rw [Registry.call, register_of_key hkey]
      cases hcontains : r.contains (keyOf explicit rule) with
      | true => exact .taken hkey (h.contains_iff.mp hcontains)
      | false => exact .added hkey fun hmem => by simp [h.contains_iff.mpr hmem] at hcontains

end Keeping

/-! ## Registries of given rules -/

section Making

variable {r : Registry} {rule : Rule} {fault : Fault}

theorem run_append (r : Registry) (calls more : List RegistryCall) :
    r.run (calls ++ more) = (r.run calls).run more :=
  List.foldl_append

/-- Making a registry of rules is registering them one after the other. -/
theorem registerAll_eq_ok_iff : ∀ {rules : List Rule} {r next : Registry},
    r.registerAll rules = .ok next ↔
      (∀ rule ∈ rules, rule.name ≠ "") ∧ r.run (registering rules) = next
  | [], r, next => by simp [registerAll, registering, run]
  | rule :: rest, r, next => by
    rw [registerAll, List.forall_mem_cons]
    by_cases hname : keyOf "" rule = ""
    · have hrule : rule.name = "" := hname
      rw [register_nameless hname]
      simp [hrule]
    · have hrule : rule.name ≠ "" := hname
      have hstep : r.run (registering (rule :: rest)) =
          (r.extend [(keyOf "" rule, rule)]).run (registering rest) := by
        have hcall : (r.call (.register rule "")).2 = r.extend [(keyOf "" rule, rule)] := by
          rw [call, register_of_key hname]
        rw [← hcall]
        rfl
      rw [register_of_key hname, hstep]
      exact registerAll_eq_ok_iff.trans (by simp [hrule])

theorem firstNameless_cons_iff {first : Rule} {rest : List Rule} :
    FirstNameless (first :: rest) rule ↔
      first = rule ∧ rule.name = "" ∨ first.name ≠ "" ∧ FirstNameless rest rule := by
  simp only [FirstNameless, exists_behind_cons_iff, or_and_right, and_assoc]

/-- The first rule without a name is reported. -/
theorem registerAll_eq_error_iff : ∀ {rules : List Rule} {r : Registry},
    r.registerAll rules = .error fault ↔
      ∃ rule, FirstNameless rules rule ∧ fault = nameless rule
  | [], r => by simp [registerAll, FirstNameless]
  | rule :: rest, r => by
    rw [registerAll]
    by_cases hname : keyOf "" rule = ""
    · have hrule : rule.name = "" := hname
      rw [register_nameless hname]
      simp [firstNameless_cons_iff, hrule, and_assoc, @eq_comm _ _ fault]
    · have hrule : rule.name ≠ "" := hname
      rw [register_of_key hname]
      refine registerAll_eq_error_iff.trans (exists_congr fun found => and_congr_left fun _ => ?_)
      rw [firstNameless_cons_iff]
      constructor
      · exact fun h => Or.inr ⟨hrule, h⟩
      · rintro (⟨rfl, hnone⟩ | ⟨-, h⟩)
        · exact absurd hnone hrule
        · exact h

/-- In every registry that is made of rules the first registration under a name wins. -/
theorem firstWins_of_ofRules {initial : List Rule} (h : ofRules initial = .ok r) :
    FirstWins initial r := by
  obtain ⟨-, rfl⟩ := registerAll_eq_ok_iff.mp h
  have hkeeps : ∀ calls, Keeps (registrations (registering initial ++ calls))
      ((empty.run (registering initial)).run calls) := fun calls => by
    rw [← run_append]
    exact run_keeps _ keeps_empty
  refine ⟨fun calls name rule => (hkeeps calls).find?_iff, fun calls name hname => ?_,
    fun calls name => Option.isSome_iff_exists, fun calls call => (hkeeps calls).answers call,
    fun calls rule explicit hkey name => ?_, fun calls more name rule hrule => ?_⟩
  · rw [hkeeps calls name, lookup_eq_none_iff_not_mem]
    rcases hname with rfl | hname
    · exact empty_not_mem_registrations _
    · exact hname
  · have hrefused : ∀ r : Registry, (r.call (.register rule explicit)).2 = r := fun r => by
      rw [call, register_nameless hkey]
    rw [run_append _ calls]
    exact congrArg (find? · name) (hrefused _)
  · rw [hkeeps] at hrule ⊢
    rw [registrations, ← List.append_assoc, List.filterMap_append, List.lookup_append]
    rw [registrations] at hrule
    rw [hrule, Option.some_or]

/-- **The first registration under a name wins.** Rules make a registry if each of them has a name;
else the first one that has none is reported. Whatever is asked of the registry afterwards, and
whatever is registered, is answered by the earliest registration under a name. -/
theorem ofRules_firstWins (initial : List Rule) :
    ((∃ r, ofRules initial = .ok r) ↔ ∀ rule ∈ initial, rule.name ≠ "") ∧
    (∀ fault, ofRules initial = .error fault ↔
      ∃ rule, FirstNameless initial rule ∧ fault = nameless rule) ∧
    ∀ r, ofRules initial = .ok r → FirstWins initial r := by
  refine ⟨⟨?_, fun h => ⟨_, registerAll_eq_ok_iff.mpr ⟨h, rfl⟩⟩⟩,
    fun fault => registerAll_eq_error_iff, fun r => firstWins_of_ofRules⟩
  rintro ⟨r, hr⟩
  exact (registerAll_eq_ok_iff.mp hr).1

/-- The registry of the built-in rules is made of them. -/
example : ofRules Rule.builtin = .ok builtin := rfl

end Making

end Registry

end LintFixture
