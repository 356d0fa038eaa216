import LintFixture.Proofs.Reading
import LintFixture.Validation.Diagnostic

/-!
# What reading by fields accepts

A record is read field by field, and whatever is wrong with any of them is told at once. So it is
read exactly where each of its fields is, and what it is read as is put together from them.
`HoldsOr` says what a field with a default is read as, and `Holds` what a field that may be null is.

A number is read as long as it is a whole one that is not negative, in whichever way it is written:
by `Value.toNonnegative_eq_ok_iff` none is cut off at zero.

Results:
* `Diagnostic.ofFields_eq_ok_iff`: the fields that are read as a diagnostic, and as which one.
-/

namespace LintFixture

namespace Validated

variable {α β : Type}

theorem under_eq_ok_iff {step : LocationStep} {x : Validated α} {a : α} :
    under step x = .ok a ↔ x = .ok a := by
  cases x <;> simp [under]

theorem both_eq_ok_iff {a : Validated α} {b : Validated β} {x : α × β} :
    a.both b = .ok x ↔ a = .ok x.1 ∧ b = .ok x.2 := by
  cases a <;> cases b <;> simp [both, Prod.ext_iff]

end Validated

/-! ## Single fields -/

namespace Fields

variable {α : Type}

/-- A field is the value of what is there; where it is left out, the default. -/
def HoldsOr (absent : α) (R : α → Value → Prop) (field : Option Value) (a : α) : Prop :=
  (field = none ∧ a = absent) ∨ ∃ v, field = some v ∧ R a v

/-- A field that may be left out or null is the value of what is there, if anything is. -/
def Holds (R : α → Value → Prop) (field : Option Value) : Option α → Prop
  | none => field = none ∨ field = some .null
  | some a => ∃ v, field = some v ∧ R a v

theorem Holds.mono {R S : α → Value → Prop} {field : Option Value} :
    ∀ {a : Option α}, (∀ b ∈ a, ∀ v, R b v → S b v) → Holds R field a → Holds S field a
  | none, _, h => h
  | some a, hRS, ⟨v, hv, hR⟩ => ⟨v, hv, hRS a rfl v hR⟩

/-- A field that is there and not null is some value. -/
theorem Holds.exists_of_ne_null {R : α → Value → Prop} {v : Value} (hv : v ≠ .null) :
    ∀ {a : Option α}, Holds R (some v) a → ∃ b, a = some b ∧ R b v
  | none, h => by simp [Holds, hv] at h
  | some b, ⟨w, hw, hR⟩ => ⟨b, rfl, Option.some.inj hw ▸ hR⟩

variable {fields : Fields} {name : String} {check : Value → Validated α}

theorem required_eq_ok_iff {a : α} :
    fields.required name check = .ok a ↔ ∃ v, fields name = some v ∧ check v = .ok a := by
  unfold required
  rw [Validated.under_eq_ok_iff]
  cases fields name <;> simp [Validated.fail]

theorem defaulted_eq_ok_iff {absent a : α} :
    fields.defaulted name absent check = .ok a ↔
      HoldsOr absent (fun a v => check v = .ok a) (fields name) a := by
  unfold defaulted HoldsOr
  cases fields name <;> simp [Validated.under_eq_ok_iff, @eq_comm _ absent]

/-- What may be null is read by a check that does not take a null itself. -/
theorem optional_eq_ok_iff (hnull : ∀ a, check .null ≠ .ok a) {a : Option α} :
    fields.optional name check = .ok a ↔ Holds (fun a v => check v = .ok a) (fields name) a := by
  rw [optional, defaulted_eq_ok_iff, HoldsOr]
  cases fields name with
  | none => cases a <;> simp [Holds]
  | some v =>
    cases v with
    | null => cases a <;> simp [Holds, hnull]
    | _ => cases a <;> simp [Holds, map_eq_ok_iff]

end Fields

/-! ## Single values -/

namespace Value

variable {v : Value}

/-- A number is read as it is written; one below zero is refused, not cut off. -/
theorem toNonnegative_eq_ok_iff {n : Int} : v.toNonnegative = .ok n ↔ 0 ≤ n ∧ v.toInt = .ok n := by
  unfold toNonnegative
  cases v.toInt with
  | error issues => simp
  | ok m =>
    by_cases hm : 0 ≤ m
    · simp only [if_pos hm, Except.ok.injEq]
      omega
    · simp only [if_neg hm, Validated.fail, reduceCtorEq, Except.ok.injEq, false_iff]
      omega

theorem toText_eq_ok_iff {s : String} : v.toText = .ok s ↔ v = .text s := by
  cases v <;> simp [toText, Validated.fail]

end Value

/-! ## Diagnostics -/

namespace Diagnostic

/-- The numbers of a diagnostic. -/
def numbers (d : Diagnostic) : List Int := d.line :: d.column :: d.width.toList

/-- No number of a diagnostic is negative, as reading one checks. -/
def IsValid (d : Diagnostic) : Prop := ∀ n ∈ d.numbers, 0 ≤ n

instance (d : Diagnostic) : Decidable d.IsValid :=
  inferInstanceAs (Decidable (∀ n ∈ d.numbers, 0 ≤ n))

/-- Fields are those of a diagnostic; `Number` says in which values its numbers are written. -/
structure WrittenIn (Number : Int → Value → Prop) (fields : Fields) (d : Diagnostic) : Prop where
  line : ∃ v, fields "line" = some v ∧ Number d.line v
  column : ∃ v, fields "column" = some v ∧ Number d.column v
  width : Fields.Holds Number (fields "width") d.width
  message : fields "message" = some (.text d.message)
  rule : Fields.Holds (fun rule v => v = .text rule) (fields "rule") d.rule

theorem WrittenIn.mono {R S : Int → Value → Prop} {fields : Fields} {d : Diagnostic}
    (hRS : ∀ n ∈ d.numbers, ∀ v, R n v → S n v) (h : WrittenIn R fields d) :
    WrittenIn S fields d where
  line := h.line.imp fun v hv => ⟨hv.1, hRS _ (by simp [numbers]) v hv.2⟩
  column := h.column.imp fun v hv => ⟨hv.1, hRS _ (by simp [numbers]) v hv.2⟩
  width := h.width.mono fun n hn => hRS n (by simp [numbers, Option.mem_def.mp hn])
  message := h.message
  rule := h.rule

/-- **Fields are read as a diagnostic** exactly where they are its fields: its numbers are the whole
numbers that are written there, none of them negative, and its texts stand there as they are. -/
theorem ofFields_eq_ok_iff {fields : Fields} {d : Diagnostic} :
    ofFields fields = .ok d ↔ WrittenIn (fun n v => 0 ≤ n ∧ v.toInt = .ok n) fields d := by
  have hnumber : ∀ n, Value.null.toNonnegative ≠ .ok n := fun n h => by cases h
  have htext : ∀ s, Value.null.toText ≠ .ok s := fun s h => by cases h
  obtain ⟨line, column, width, message, rule⟩ := d
  simp only [ofFields, map_eq_ok_iff, Prod.exists, Validated.both_eq_ok_iff,
    Fields.required_eq_ok_iff, Fields.optional_eq_ok_iff hnumber, Fields.optional_eq_ok_iff htext,
    Value.toNonnegative_eq_ok_iff, Value.toText_eq_ok_iff, mk.injEq]
  constructor
  · rintro ⟨_, _, _, _, _, ⟨hline, hcolumn, hwidth, ⟨_, hmessage, rfl⟩, hrule⟩, rfl, rfl, rfl, rfl,
      rfl⟩
    exact ⟨hline, hcolumn, hwidth, hmessage, hrule⟩
  · rintro ⟨hline, hcolumn, hwidth, hmessage, hrule⟩
    exact ⟨_, _, _, _, _, ⟨hline, hcolumn, hwidth, ⟨_, hmessage, rfl⟩, hrule⟩, rfl, rfl, rfl, rfl,
      rfl⟩

end Diagnostic

end LintFixture
