import LintFixture.Rule.Builtin

/-!
# The registry of rules

A registry resolves names to rules. The first rule under a name stays, so built-in rules take
precedence over those that a rules directory adds.
-/

namespace LintFixture

/-- Rules under their names, in order of registration. -/
structure Registry where
  entries : List (String × Rule)

namespace Registry

/-- The registry without rules. -/
def empty : Registry := ⟨[]⟩

/-- The rule under a name. -/
def find? (r : Registry) (name : String) : Option Rule :=
  r.entries.lookup name

/-- A name resolves to a rule. -/
def contains (r : Registry) (name : String) : Bool :=
  (r.find? name).isSome

/-- The name under which a rule is registered: an explicit one, else the one that it declares. -/
def keyOf (explicit : String) (rule : Rule) : String :=
  if explicit = "" then rule.name else explicit

/-- The fault of a rule without any name. -/
def nameless (rule : Rule) : Fault :=
  .raised (.failure "ValueError" (rule.label ++ " does not declare a rule name"))

/-- Registers a rule unless its name is taken, and tells whether it did. -/
def register (r : Registry) (rule : Rule) (explicit : String) : Except Fault (Bool × Registry) :=
  let key := keyOf explicit rule
  if key = "" then .error (nameless rule)
  else if r.contains key then .ok (false, r)
  else .ok (true, ⟨r.entries ++ [(key, rule)]⟩)

/-- Registers rules under the names that they declare. -/
def registerAll (r : Registry) : List Rule → Except Fault Registry
  | [] => .ok r
  | rule :: rest =>
    match r.register rule "" with
    | .ok (_, next) => next.registerAll rest
    | .error fault => .error fault

/-- The registry of the given rules. -/
def ofRules (rules : List Rule) : Except Fault Registry :=
  empty.registerAll rules

/-- The registry of the built-in rules. -/
def builtin : Registry :=
  ⟨Rule.builtin.map fun rule => (rule.name, rule)⟩

/-- Adds rules under explicit names that are not empty; names that are taken keep their rules. -/
def extend (r : Registry) (rules : List (String × Rule)) : Registry :=
  ⟨r.entries ++ rules.filter fun e => !r.contains e.1⟩

end Registry

end LintFixture
