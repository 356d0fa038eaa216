import LintFixture.Rule.Basic

/-!
# Rule modules

A rule module is a file of a rules directory. Importing it runs it, which may fail; a module that
is imported has a rule to offer if the attribute under which rules are looked for is a class that
derives from the class of rules and leaves nothing to classes derived from it in turn.

Out of scope are classes with a name that is no text, and modules that change one another.
-/

namespace LintFixture

/-- What a module has under the name of rules. -/
inductive RuleAttribute
  /-- Nothing. -/
  | absent
  /-- Something that is no class. -/
  | object
  /-- A class that does not derive from the class of rules. -/
  | otherClass
  /-- A class that does, and which may leave methods to classes derived from it. -/
  | ruleClass (isAbstract : Bool) (rule : Rule)

namespace RuleAttribute

/-- The attribute is a class. -/
def isClass : RuleAttribute → Bool
  | otherClass => true
  | ruleClass .. => true
  | _ => false

/-- The class derives from the class of rules. -/
def derivesFromRule : RuleAttribute → Bool
  | ruleClass .. => true
  | _ => false

/-- The class leaves methods to classes derived from it. -/
def isAbstract : RuleAttribute → Bool
  | ruleClass isAbstract _ => isAbstract
  | _ => false

/-- The module that has the attribute is passed over. -/
def isSkipped (a : RuleAttribute) : Bool :=
  !(a.isClass && a.derivesFromRule) || a.isAbstract

/-- The rule that can be used, if the attribute is one. -/
def offer? (a : RuleAttribute) : Option Rule :=
  match a with
  | ruleClass _ rule => if a.isSkipped then none else some rule
  | _ => none

/-- A rule that can be used is a class of rules that leaves nothing to others. -/
theorem offer?_eq_some_iff {a : RuleAttribute} {rule : Rule} :
    a.offer? = some rule ↔ a = ruleClass false rule := by
  cases a with
  | ruleClass isAbstract other =>
    cases isAbstract <;>
      simp [offer?, isSkipped, isClass, derivesFromRule, RuleAttribute.isAbstract]
  | _ => simp [offer?]

end RuleAttribute

/-- What importing a rule module comes to. -/
inductive RuleModule
  | imported (exposed : RuleAttribute)
  | fails (fault : Fault)

/-- The ending of rule module files. -/
def RuleModule.ending : String := ".py"

/-- The module with a rule that can be used. -/
def RuleModule.defining (rule : Rule) : RuleModule := .imported (.ruleClass false rule)

end LintFixture
