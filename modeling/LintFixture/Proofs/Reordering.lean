import LintFixture.Proofs.Matching

/-!
# Comparisons with reordered sides

Which reported diagnostic an expected one claims depends on the order of the reports: it is the
first one that agrees, or else the first one at its position. Whether it finds one does not, for
what becomes of it depends on the set of those reported at its position (`Accounts`). So the
expected side of a comparison is settled by what is reported, in whatever order.

The order matters at each position alone. A claim is decided by what is reported at the position of
the one that claims, in its order there (`claimed_at`, `at_leftOver`), and it leaves every other
position alone (`at_leftOver_of_ne`); so what is claimed and what is left at a position does not
depend on the order in which positions are expected, nor on how the reports of several positions
are interleaved.

Results:
* `compare_perm`: reordered reports leave the verdict, the missing diagnostics and the expected
  halves of the mismatches as they are.
* `compare_congr`: the whole comparison stays as it is where the reports at each position keep
  their order, whatever the order of the expected diagnostics.
* `compare_eq_error_congr`: a position that is expected twice is refused whatever is reported.
* `compare_reordered`: all of this, and that unexpected diagnostics stand at the same positions.
-/

namespace LintFixture

/-! ## What is reported at a position -/

section Perm

variable {reported₁ reported₂ : List Diagnostic} (hperm : reported₁.Perm reported₂)
  {e : Diagnostic}

include hperm

theorem absent_perm : Absent reported₁ e ↔ Absent reported₂ e := by
  simp only [Absent, hperm.mem_iff]

theorem contradicted_perm : Contradicted reported₁ e ↔ Contradicted reported₂ e := by
  simp only [Contradicted, hperm.mem_iff]

end Perm

/-! ## Rising lists -/

namespace Position

theorem not_before_self (a : Position) : ¬ a.Before a := by
  unfold Before
  omega

theorem Before.not_before {a b : Position} (h : a.Before b) : ¬ b.Before a := by
  unfold Before at *
  omega

end Position

section Rising

variable {α : Type} (place : α → Position)

theorem nodup_of_rises {l : List α} (h : l.Pairwise fun a b => (place a).Before (place b)) :
    l.Nodup := by
  refine h.imp fun {a b} hab => ?_
  rintro rfl
  exact Position.not_before_self _ hab

/-- Lists whose positions rise are equal if they have the same members. -/
theorem eq_of_rises {l₁ l₂ : List α}
    (h₁ : l₁.Pairwise fun a b => (place a).Before (place b))
    (h₂ : l₂.Pairwise fun a b => (place a).Before (place b)) (hmem : ∀ a, a ∈ l₁ ↔ a ∈ l₂) :
    l₁ = l₂ := by
  have hperm : l₁.Perm l₂ :=
    (List.perm_ext_iff_of_nodup (nodup_of_rises place h₁) (nodup_of_rises place h₂)).mpr hmem
  exact hperm.eq_of_pairwise (fun a b _ _ hab hba => absurd hba hab.not_before) h₁ h₂

end Rising

/-! ## Comparisons -/

namespace Comparison

/-- The expected diagnostics fare the same in two comparisons, whatever they are paired with. -/
structure SameFates (c₁ c₂ : Comparison) : Prop where
  passed : c₁.passed = c₂.passed
  missing : c₁.missing = c₂.missing
  mismatched : c₁.mismatched.map (·.expected) = c₂.mismatched.map (·.expected)

section Accounts

variable {expected reported : List Diagnostic} {satisfied : List (Diagnostic × Diagnostic)}
  {c : Comparison} (h : Accounts expected reported satisfied c) {e : Diagnostic}

include h

theorem Accounts.mem_missing_iff : e ∈ c.missing ↔ e ∈ expected ∧ Absent reported e := by
  refine ⟨fun hm => ?_, fun ⟨he, habsent⟩ => (h.missing_iff e he).mpr habsent⟩
  have he : e ∈ expected := by
    rw [h.expected_perm.mem_iff, List.mem_append, List.mem_append]
    exact Or.inr (Or.inl hm)
  exact ⟨he, (h.missing_iff e he).mp hm⟩

theorem Accounts.mem_mismatched_iff :
    e ∈ c.mismatched.map (·.expected) ↔ e ∈ expected ∧ Contradicted reported e := by
  have hnodup : (c.mismatched.map (·.expected)).Nodup :=
    nodup_of_rises Diagnostic.position (List.pairwise_map.mpr h.mismatched_rises)
  refine ⟨fun hm => ?_, fun ⟨he, hcontra⟩ => ?_⟩
  · have he : e ∈ expected := by
      rw [h.expected_perm.mem_iff, List.mem_append, List.mem_append]
      exact Or.inr (Or.inr hm)
    exact ⟨he, (h.mismatched_iff e he).mp ((count_eq_one_iff hnodup).mpr hm)⟩
  · exact (count_eq_one_iff hnodup).mp ((h.mismatched_iff e he).mpr hcontra)

end Accounts

/-- A comparison passes or not whatever the order of the reports. -/
theorem passed_perm (expected : List Diagnostic) {reported₁ reported₂ : List Diagnostic}
    (hperm : reported₁.Perm reported₂) :
    (∃ c, compare expected reported₁ = .ok c ∧ c.passed = true) ↔
      ∃ c, compare expected reported₂ = .ok c ∧ c.passed = true := by
  rw [compare_passed_iff, compare_passed_iff]
  refine and_congr_right fun _ => exists_congr fun ds => and_congr_left fun _ => ?_
  exact ⟨fun h => h.trans hperm, fun h => h.trans hperm.symm⟩

/-- **Reordered reports** leave the expected side of a comparison as it is. -/
theorem compare_perm {expected reported₁ reported₂ : List Diagnostic} {c₁ : Comparison}
    (hperm : reported₁.Perm reported₂) (hc₁ : compare expected reported₁ = .ok c₁) :
    ∃ c₂, compare expected reported₂ = .ok c₂ ∧ SameFates c₁ c₂ := by
  obtain ⟨hnodup, rfl⟩ := compare_eq_ok_iff.mp hc₁
  have h₁ := accounts_ofMatching hnodup reported₁
  have h₂ := accounts_ofMatching hnodup reported₂
  have hc₂ : compare expected reported₂ = .ok (ofMatching (pair expected reported₂)) :=
    compare_eq_ok_iff.mpr ⟨hnodup, rfl⟩
  refine ⟨_, hc₂, ?_, ?_, ?_⟩
  · have hpassed := passed_perm expected hperm
    simp only [hc₁, hc₂, Except.ok.injEq, exists_eq_left'] at hpassed
    exact Bool.eq_iff_iff.mpr hpassed
  · refine eq_of_rises Diagnostic.position h₁.missing_rises h₂.missing_rises fun e => ?_
    rw [h₁.mem_missing_iff, h₂.mem_missing_iff, absent_perm hperm]
  · refine eq_of_rises Diagnostic.position (List.pairwise_map.mpr h₁.mismatched_rises)
      (List.pairwise_map.mpr h₂.mismatched_rises) fun e => ?_
    rw [h₁.mem_mismatched_iff, h₂.mem_mismatched_iff, contradicted_perm hperm]

end Comparison

/-- The diagnostics at a position, in their order. -/
def diagnosticsAt (p : Position) (ds : List Diagnostic) : List Diagnostic :=
  ds.filter (·.position == p)

/-- One list is a reordering of the other that keeps the diagnostics at each position in order. -/
def SameAtPositions (ds₁ ds₂ : List Diagnostic) : Prop :=
  ∀ p, diagnosticsAt p ds₁ = diagnosticsAt p ds₂

theorem SameAtPositions.perm {ds₁ ds₂ : List Diagnostic} (h : SameAtPositions ds₁ ds₂) :
    ds₁.Perm ds₂ := by
  rw [List.perm_iff_count]
  intro d
  have hat : ∀ ds : List Diagnostic, (diagnosticsAt d.position ds).count d = ds.count d :=
    fun ds => List.count_filter (beq_self_eq_true d.position)
  rw [← hat ds₁, ← hat ds₂, h d.position]

theorem Position.le_antisymm {a b : Position} (hab : a.le b = true) (hba : b.le a = true) :
    a = b := by
  rw [le_iff] at hab hba
  exact Prod.ext (by omega) (by omega)

/-- Sorted diagnostics are determined by those at each position. -/
theorem eq_of_sameAtPositions : ∀ {ds₁ ds₂ : List Diagnostic},
    ds₁.Pairwise (fun a b => a.position.le b.position = true) →
    ds₂.Pairwise (fun a b => a.position.le b.position = true) →
    SameAtPositions ds₁ ds₂ → ds₁ = ds₂
  | [], ds₂, _, _, h => (List.nil_perm.mp h.perm).symm
  | a :: rest, [], _, _, h => List.perm_nil.mp h.perm
  | a :: rest₁, b :: rest₂, h₁, h₂, h => by
    rw [List.pairwise_cons] at h₁ h₂
    -- Both heads stand at the first position of all, where they are the first ones.
    have hle : a.position.le b.position = true := by
      rcases List.mem_cons.mp (h.perm.mem_iff.mpr List.mem_cons_self) with rfl | hb
      · exact Position.le_self _
      · exact h₁.1 b hb
    have hge : b.position.le a.position = true := by
      rcases List.mem_cons.mp (h.perm.mem_iff.mp List.mem_cons_self) with rfl | ha
      · exact Position.le_self _
      · exact h₂.1 a ha
    have hposition := Position.le_antisymm hle hge
    have hheads := h b.position
    simp only [diagnosticsAt, List.filter_cons, hposition, beq_self_eq_true, if_true,
      List.cons.injEq] at hheads
    obtain ⟨rfl, -⟩ := hheads
    refine congrArg (a :: ·) (eq_of_sameAtPositions h₁.2 h₂.2 fun p => ?_)
    have hrest := h p
    unfold diagnosticsAt at hrest ⊢
    by_cases hp : a.position = p
    · simpa [hp] using hrest
    · simpa [hp] using hrest

/-- What is taken out of a part of a list is what is taken out of the list, if only the part can
have it. -/
theorem extractFirst_filter {α : Type} {p r : α → Bool} (h : ∀ a, p a = true → r a = true) :
    ∀ l : List α, extractFirst p (l.filter r) = (extractFirst p l).map fun x => (x.1, x.2.filter r)
  | [] => rfl
  | a :: l => by
    have ih := extractFirst_filter h l
    by_cases hp : p a = true
    · simp [extractFirst, hp, h a hp]
    · by_cases hr : r a = true
      · simp [extractFirst, hp, hr, ih, Function.comp_def]
      · simp [extractFirst, hp, hr, ih, Function.comp_def]

namespace Comparison

section Claim

variable (wanted : Diagnostic) (reported : List Diagnostic)

/-- What a claim leaves over of the reported diagnostics. -/
def leftOver : List Diagnostic := ((claim wanted reported).map (·.2)).getD reported

/-- A claim is decided by what is reported at its position. -/
theorem claim_at : claim wanted (diagnosticsAt wanted.position reported) =
    (claim wanted reported).map fun x => (x.1, diagnosticsAt wanted.position x.2) := by
  unfold claim diagnosticsAt
  rw [extractFirst_filter fun d hd => (Bool.and_eq_true_iff.mp hd).1,
    extractFirst_filter fun _ hd => hd]
  cases extractFirst (fun d => d.position == wanted.position && wanted.agrees d) reported <;> rfl

theorem claimed_at : (claim wanted (diagnosticsAt wanted.position reported)).map (·.1) =
    (claim wanted reported).map (·.1) := by
  rw [claim_at, Option.map_map]
  rfl

theorem at_leftOver : diagnosticsAt wanted.position (leftOver wanted reported) =
    leftOver wanted (diagnosticsAt wanted.position reported) := by
  unfold leftOver
  rw [claim_at]
  cases claim wanted reported <;> rfl

/-- A claim leaves every other position as it was. -/
theorem at_leftOver_of_ne {p : Position} (hp : wanted.position ≠ p) :
    diagnosticsAt p (leftOver wanted reported) = diagnosticsAt p reported := by
  unfold leftOver
  cases h : claim wanted reported with
  | none => rfl
  | some found =>
    obtain ⟨before, after, hreported, hleft⟩ := (claim_eq_some h).taken
    have hne : found.1.position ≠ p := (claim_eq_some h).position ▸ hp
    simp [diagnosticsAt, hreported, hleft, hne]

end Claim

/-! ## All positions -/

section Pair

variable {wanted e : Diagnostic} {rest expected reported : List Diagnostic}

theorem unclaimed_cons : (pair (wanted :: rest) reported).unclaimed =
    (pair rest (leftOver wanted reported)).unclaimed := by
  unfold leftOver
  rw [pair]
  cases claim wanted reported with
  | none => rfl
  | some found => cases h : wanted.agrees found.1 <;> simp [h]

theorem mem_mismatched_cons {x : Mismatch} (h : x ∈ (pair (wanted :: rest) reported).mismatched) :
    (x.expected = wanted ∧ (claim wanted reported).map (·.1) = some x.actual) ∨
      x ∈ (pair rest (leftOver wanted reported)).mismatched := by
  unfold leftOver
  rw [pair] at h
  cases hclaim : claim wanted reported with
  | none =>
    rw [hclaim] at h
    exact Or.inr h
  | some found =>
    simp only [hclaim] at h
    split at h
    · exact Or.inr h
    · rcases List.mem_cons.mp h with rfl | h
      · exact Or.inl ⟨rfl, rfl⟩
      · exact Or.inr h

theorem mem_of_mem_mismatched {x : Mismatch} (h : x ∈ (pair expected reported).mismatched) :
    x.expected ∈ expected :=
  (pair_conserves expected reported).expected_perm.mem_iff.mpr
    (List.mem_append_right _ (List.mem_append_right _ (List.mem_map_of_mem h)))

/-- Where nothing is expected, all that is reported is left. -/
theorem unclaimed_at_of_ne {p : Position} : ∀ {expected reported : List Diagnostic},
    p ∉ expected.map Diagnostic.position →
      diagnosticsAt p (pair expected reported).unclaimed = diagnosticsAt p reported
  | [], reported, _ => rfl
  | wanted :: rest, reported, h => by
    rw [List.map_cons, List.mem_cons, not_or] at h
    rw [unclaimed_cons, unclaimed_at_of_ne h.2, at_leftOver_of_ne _ _ (Ne.symm h.1)]

/-- Where one diagnostic is expected, its claim decides what is left. -/
theorem unclaimed_at : ∀ {expected reported : List Diagnostic},
    (expected.map Diagnostic.position).Nodup → e ∈ expected →
      diagnosticsAt e.position (pair expected reported).unclaimed =
        leftOver e (diagnosticsAt e.position reported)
  | wanted :: rest, reported, hnodup, he => by
    rw [List.map_cons, List.nodup_cons] at hnodup
    rw [unclaimed_cons]
    rcases List.mem_cons.mp he with rfl | he
    · rw [unclaimed_at_of_ne hnodup.1, at_leftOver]
    · have hne : wanted.position ≠ e.position := fun hp =>
        hnodup.1 (hp ▸ List.mem_map_of_mem he)
      rw [unclaimed_at hnodup.2 he, at_leftOver_of_ne _ _ hne]

/-- The actual half of a mismatch is what its expected half claims of its position. -/
theorem mismatched_at : ∀ {expected reported : List Diagnostic} {x : Mismatch},
    (expected.map Diagnostic.position).Nodup → x ∈ (pair expected reported).mismatched →
      (claim x.expected (diagnosticsAt x.expected.position reported)).map (·.1) = some x.actual
  | [], reported, x, _, h => absurd h List.not_mem_nil
  | wanted :: rest, reported, x, hnodup, h => by
    rw [List.map_cons, List.nodup_cons] at hnodup
    rcases mem_mismatched_cons h with ⟨rfl, hclaim⟩ | h
    · rw [claimed_at, hclaim]
    · have hmem : x.expected ∈ rest := mem_of_mem_mismatched h
      have hne : wanted.position ≠ x.expected.position := fun hp =>
        hnodup.1 (hp ▸ List.mem_map_of_mem hmem)
      rw [← mismatched_at hnodup.2 h, at_leftOver_of_ne _ _ hne]

end Pair

/-! ## The whole comparison -/

section Congr

variable {expected₁ expected₂ reported₁ reported₂ : List Diagnostic}
  (hnodup : (expected₁.map Diagnostic.position).Nodup) (hexpected : expected₁.Perm expected₂)
  (hreported : SameAtPositions reported₁ reported₂)

include hnodup hexpected hreported

/-- Mismatches pair the same diagnostics on both sides. -/
theorem mem_mismatched_congr {x : Mismatch} (hx : x ∈ (pair expected₁ reported₁).mismatched) :
    x ∈ (pair expected₂ reported₂).mismatched := by
  have hnodup₂ := (hexpected.map Diagnostic.position).nodup_iff.mp hnodup
  have he := mem_of_mem_mismatched hx
  have hcontra := (pair_fate hnodup reported₁ he).2.2.mp (List.mem_map_of_mem hx)
  rw [contradicted_perm hreported.perm] at hcontra
  have hmem := (pair_fate hnodup₂ reported₂ (hexpected.mem_iff.mp he)).2.2.mpr hcontra
  obtain ⟨y, hy, hsame⟩ := List.mem_map.mp hmem
  have hclaim := mismatched_at hnodup₂ hy
  rw [hsame, ← hreported, mismatched_at hnodup hx, Option.some.injEq] at hclaim
  have hxy : x = y := by
    obtain ⟨e, a⟩ := x
    obtain ⟨e', a'⟩ := y
    simp_all
  exact hxy ▸ hy

/-- The same is left over at each position. -/
theorem unclaimed_congr : SameAtPositions (pair expected₁ reported₁).unclaimed
    (pair expected₂ reported₂).unclaimed := by
  intro p
  have hpositions := hexpected.map Diagnostic.position
  by_cases hp : p ∈ expected₁.map Diagnostic.position
  · obtain ⟨e, he, rfl⟩ := List.mem_map.mp hp
    rw [unclaimed_at hnodup he, hreported,
      unclaimed_at (hpositions.nodup_iff.mp hnodup) (hexpected.mem_iff.mp he)]
  · rw [unclaimed_at_of_ne hp, hreported,
      unclaimed_at_of_ne fun h => hp (hpositions.mem_iff.mpr h)]

/-- **A comparison depends on the order at each position alone.** -/
theorem compare_congr : compare expected₁ reported₁ = compare expected₂ reported₂ := by
  have hnodup₂ := (hexpected.map Diagnostic.position).nodup_iff.mp hnodup
  have h₁ := accounts_ofMatching hnodup reported₁
  have h₂ := accounts_ofMatching hnodup₂ reported₂
  have hmissing : (ofMatching (pair expected₁ reported₁)).missing =
      (ofMatching (pair expected₂ reported₂)).missing := by
    refine eq_of_rises Diagnostic.position h₁.missing_rises h₂.missing_rises fun e => ?_
    rw [h₁.mem_missing_iff, h₂.mem_missing_iff, absent_perm hreported.perm, hexpected.mem_iff]
  have hmismatched : (ofMatching (pair expected₁ reported₁)).mismatched =
      (ofMatching (pair expected₂ reported₂)).mismatched := by
    refine eq_of_rises (fun x => x.expected.position) h₁.mismatched_rises h₂.mismatched_rises
      fun x => ?_
    rw [ofMatching, ofMatching, List.mem_mergeSort, List.mem_mergeSort]
    exact ⟨mem_mismatched_congr hnodup hexpected hreported,
      mem_mismatched_congr hnodup₂ hexpected.symm fun p => (hreported p).symm⟩
  have hunexpected : (ofMatching (pair expected₁ reported₁)).unexpected =
      (ofMatching (pair expected₂ reported₂)).unexpected := by
    refine eq_of_sameAtPositions h₁.unexpected_sorted h₂.unexpected_sorted fun p => ?_
    have hsort := fun ds => mergeSort_filter Diagnostic.position ds p
    exact (hsort _).trans ((unclaimed_congr hnodup hexpected hreported p).trans (hsort _).symm)
  rw [compare_eq_ok_iff.mpr ⟨hnodup, rfl⟩, compare_eq_ok_iff.mpr ⟨hnodup₂, rfl⟩, Except.ok.injEq,
    Comparison.mk.injEq]
  exact ⟨hmissing, hunexpected, hmismatched⟩

end Congr

/-! ## Positions of unexpected diagnostics -/

/-- **The balance of a comparison**: what is reported and what is missing stands where what is
expected and what is unexpected does. -/
theorem Accounts.positions_balance {expected reported : List Diagnostic}
    {satisfied : List (Diagnostic × Diagnostic)} {c : Comparison}
    (h : Accounts expected reported satisfied c) :
    (reported.map Diagnostic.position ++ c.missing.map Diagnostic.position).Perm
      (expected.map Diagnostic.position ++ c.unexpected.map Diagnostic.position) := by
  have hsatisfied : (satisfied.map (·.2)).map Diagnostic.position =
      (satisfied.map (·.1)).map Diagnostic.position := by
    rw [List.map_map, List.map_map]
    exact List.map_congr_left fun s hs => (h.satisfied_agree s hs).1
  have hmismatched : (c.mismatched.map (·.actual)).map Diagnostic.position =
      (c.mismatched.map (·.expected)).map Diagnostic.position := by
    rw [List.map_map, List.map_map]
    exact List.map_congr_left fun x hx => (h.mismatched_differ x hx).1
  rw [List.perm_iff_count]
  intro p
  have hexpected := (h.expected_perm.map Diagnostic.position).count_eq p
  have hreported := (h.reported_perm.map Diagnostic.position).count_eq p
  simp only [List.map_append, List.count_append, hsatisfied, hmismatched] at hexpected hreported ⊢
  omega

/-- **Reordered reports** leave unexpected diagnostics at the same positions. -/
theorem unexpected_positions_perm {expected reported₁ reported₂ : List Diagnostic}
    {c₁ c₂ : Comparison} (hperm : reported₁.Perm reported₂)
    (hc₁ : compare expected reported₁ = .ok c₁) (hc₂ : compare expected reported₂ = .ok c₂)
    (hmissing : c₁.missing = c₂.missing) :
    (c₁.unexpected.map Diagnostic.position).Perm (c₂.unexpected.map Diagnostic.position) := by
  obtain ⟨hnodup, rfl⟩ := compare_eq_ok_iff.mp hc₁
  obtain ⟨-, rfl⟩ := compare_eq_ok_iff.mp hc₂
  have h₁ := (accounts_ofMatching hnodup reported₁).positions_balance
  have h₂ := (accounts_ofMatching hnodup reported₂).positions_balance
  rw [hmissing] at h₁
  have hreported := (hperm.map Diagnostic.position).append_right
    ((ofMatching (pair expected reported₂)).missing.map Diagnostic.position)
  exact (List.perm_append_left_iff _).mp (h₁.symm.trans (hreported.trans h₂))

/-- A position that is expected twice is refused as such, whatever the order and the reports. -/
theorem compare_repeated {expected₁ expected₂ : List Diagnostic} (reported : List Diagnostic)
    (hperm : expected₂.Perm expected₁)
    (hrepeated : ¬ (expected₁.map Diagnostic.position).Nodup) :
    ∃ line column, compare expected₂ reported = .error (.duplicatePosition line column) := by
  rw [← (hperm.map Diagnostic.position).nodup_iff] at hrepeated
  obtain ⟨e, he⟩ := (@compare_eq_error_iff expected₂ reported).mpr hrepeated
  unfold compare at he ⊢
  cases hfirst : repeated? [] expected₂ with
  | none => simp [hfirst] at he
  | some d => exact ⟨d.line, d.column, rfl⟩

/-- **Only the order of reports at one position matters.** Where no position is expected twice, the
comparison is the same for every order of the expected diagnostics and for every reordering of the
reported ones that keeps the order at each position; and for any other reordering the expected side
fares the same and unexpected diagnostics stand at the same positions. Where a position is expected
twice, both sides may come in any order and are refused for that: with the fault that names such a
position, unless a number in its message is too long to be written. -/
theorem compare_reordered (expected reported : List Diagnostic) :
    ((expected.map Diagnostic.position).Nodup →
      ∃ c, ofDiagnostics expected reported = .ok c ∧
        (∀ expected', expected'.Perm expected → ofDiagnostics expected' reported = .ok c) ∧
        (∀ reported', reported'.Perm reported →
          ∃ c', ofDiagnostics expected reported' = .ok c' ∧ SameFates c c' ∧
            (c.unexpected.map Diagnostic.position).Perm
              (c'.unexpected.map Diagnostic.position)) ∧
        ∀ reported', SameAtPositions reported' reported →
          ofDiagnostics expected reported' = .ok c) ∧
    (¬ (expected.map Diagnostic.position).Nodup →
      ∀ expected' reported', expected'.Perm expected → reported'.Perm reported →
        ∃ line column, 1 < (expected.map Diagnostic.position).count (line, column) ∧
          ofDiagnostics expected' reported' = .error
            (if hasNumeral (line + 1) ∧ hasNumeral (column + 1)
              then .fixture (.duplicatePosition line column) else .unwritable)) := by
  refine ⟨fun hnodup => ?_, fun hrepeated expected' reported' hperm _ => ?_⟩
  · have hc : compare expected reported = .ok (ofMatching (pair expected reported)) :=
      compare_eq_ok_iff.mpr ⟨hnodup, rfl⟩
    simp only [ofDiagnostics_eq_ok_iff]
    refine ⟨_, hc, fun expected' hperm => ?_, fun reported' hperm => ?_, fun reported' hsame => ?_⟩
    · rw [← hc]
      exact (compare_congr hnodup hperm.symm fun _ => rfl).symm
    · obtain ⟨c', hc', hfates⟩ := compare_perm hperm.symm hc
      exact ⟨c', hc', hfates, unexpected_positions_perm hperm.symm hc hc' hfates.missing⟩
    · rw [← hc]
      exact compare_congr hnodup (.refl expected) hsame
  · obtain ⟨line, column, hcompare⟩ := compare_repeated reported' hperm hrepeated
    refine ⟨line, column, ?_, ?_⟩
    · rw [← (hperm.map Diagnostic.position).count_eq]
      exact count_of_compare hcompare
    · rw [ofDiagnostics_eq_error hcompare, raised_duplicatePosition]

/-- Two contradicting reports at one position and an agreeing one at another, in three orders; and
two diagnostics that are expected at one position. -/
theorem compare_reordered_collision :
    ([⟨0, 1, some 2, "a", none⟩, ⟨0, 0, some 1, "b", none⟩].map Diagnostic.position).Nodup ∧
    ∃ c c', ofDiagnostics [⟨0, 1, some 2, "a", none⟩, ⟨0, 0, some 1, "b", none⟩]
        [⟨0, 1, none, "c", none⟩, ⟨0, 1, none, "d", none⟩, ⟨0, 0, none, "b", none⟩] = .ok c ∧
      ofDiagnostics [⟨0, 0, some 1, "b", none⟩, ⟨0, 1, some 2, "a", none⟩]
        [⟨0, 1, none, "c", none⟩, ⟨0, 1, none, "d", none⟩, ⟨0, 0, none, "b", none⟩] = .ok c ∧
      ofDiagnostics [⟨0, 1, some 2, "a", none⟩, ⟨0, 0, some 1, "b", none⟩]
        [⟨0, 0, none, "b", none⟩, ⟨0, 1, none, "c", none⟩, ⟨0, 1, none, "d", none⟩] = .ok c ∧
      ofDiagnostics [⟨0, 1, some 2, "a", none⟩, ⟨0, 0, some 1, "b", none⟩]
        [⟨0, 1, none, "d", none⟩, ⟨0, 1, none, "c", none⟩, ⟨0, 0, none, "b", none⟩] = .ok c' ∧
      SameFates c c' ∧
      ofDiagnostics [⟨0, 1, some 1, "b", none⟩, ⟨0, 1, some 2, "a", none⟩] [] =
        .error (.fixture (.duplicatePosition 0 1)) := by
  have hnodup : ([⟨0, 1, some 2, "a", none⟩, ⟨0, 0, some 1, "b", none⟩].map
      Diagnostic.position).Nodup := by decide
  have hsame : SameAtPositions
      [⟨0, 0, none, "b", none⟩, ⟨0, 1, none, "c", none⟩, ⟨0, 1, none, "d", none⟩]
      [⟨0, 1, none, "c", none⟩, ⟨0, 1, none, "d", none⟩, ⟨0, 0, none, "b", none⟩] := by
    intro p
    by_cases hp : p = (0, 0)
    · rw [hp]
      decide
    · have hne : ((0, 0) == p) = false := beq_eq_false_iff_ne.mpr (Ne.symm hp)
      simp [diagnosticsAt, Diagnostic.position, List.filter_cons, hne]
  obtain ⟨c, hc, hexpected, hreported, hties⟩ := (compare_reordered _
    [⟨0, 1, none, "c", none⟩, ⟨0, 1, none, "d", none⟩, ⟨0, 0, none, "b", none⟩]).1 hnodup
  obtain ⟨c', hc', hfates, -⟩ := hreported _ (.swap _ _ _)
  refine ⟨hnodup, c, c', hc, hexpected _ (.swap _ _ _), hties _ hsame, hc', hfates, ?_⟩
  obtain ⟨line, column, htwice, herror⟩ :=
    (compare_reordered [⟨0, 1, some 2, "a", none⟩, ⟨0, 1, some 1, "b", none⟩] []).2
      (by decide) _ _ (.swap _ _ _) (.refl _)
  have hplace : (line, column) = ((0 : Int), (1 : Int)) := by
    have hmem := List.count_pos_iff.mp (Nat.zero_lt_of_lt htwice)
    simpa [Diagnostic.position] using hmem
  obtain ⟨rfl, rfl⟩ := Prod.mk.inj hplace
  rw [herror, if_pos (by decide +kernel)]

/-- Two diagnostics are expected on a line whose number, from one, has a digit too many for a
numeral: the fault that names their position cannot be told. -/
theorem not_compare_reordered_far : ¬ ∀ expected reported : List Diagnostic,
    ¬ (expected.map Diagnostic.position).Nodup → ∃ line column,
      ofDiagnostics expected reported = .error (.fixture (.duplicatePosition line column)) := by
  intro h
  obtain ⟨n, hlong⟩ := exists_hasNumeral_succ_eq_false
  obtain ⟨line, column, hnamed⟩ := h
    [⟨n, 0, some 1, "a", none⟩, ⟨n, 0, some 1, "b", none⟩] [] (by simp [Diagnostic.position])
  have hrefused : compare [⟨n, 0, some 1, "a", none⟩, ⟨n, 0, some 1, "b", none⟩] [] =
      .error (.duplicatePosition n 0) := by
    simp [compare, repeated?, Diagnostic.position]
  have hunwritable : ¬ (hasNumeral ((n : Int) + 1) ∧ hasNumeral ((0 : Int) + 1)) := fun h => by
    rw [hlong] at h
    exact Bool.false_ne_true h.1
  rw [ofDiagnostics_eq_error hrefused, raised_duplicatePosition, if_neg hunwritable] at hnamed
  cases hnamed

end Comparison

end LintFixture
