import LintFixture.Fault

/-!
# Items of values

Several kinds of value can be gone through item by item.
-/

namespace LintFixture

/-- The values that a value consists of: the items of a list, the keys of a mapping, the
characters of a text, the named fields of a setting. -/
def Value.itemsOf : Value → Except Fault (List Value)
  | .list items => .ok items
  | .mapping entries => .ok (entries.map fun e => .text e.1)
  | .text s => .ok (s.toList.map fun c => .text (String.ofList [c]))
  | .setting enabled options => .ok (settingPairs enabled options)
  | v => .error (.notIterable v.kind)

end LintFixture
