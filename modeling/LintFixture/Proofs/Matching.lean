import LintFixture.Comparison
import Mathlib.Data.List.Nodup
import Mathlib.Data.List.Perm.Basic

/-!
# What a comparison does with the diagnostics of both sides

`Comparison.pair` lets every expected diagnostic in turn claim a reported one. A claim takes one
diagnostic out of those at the position of the one that claims and leaves every other position as
it was (`Claimed.mem_iff`), so where no position is expected twice a claim never finds less at its
position than was reported there.

* Nothing gets lost and nothing is counted twice (`pair_conserves`).
* What becomes of an expected diagnostic depends on what is reported at its position: it is
  `Absent`, `Contradicted` or `Answered` there, and `pair_sound` says that these are the missing,
  the mismatched and the satisfied ones.
* Sorting keeps the order at each position (`mergeSort_filter`).

Headline: `compare_accounts`, all of this for the comparison. `compare_passed_iff` says when a
comparison has no discrepancy.
-/

namespace LintFixture

/-! ## The order of positions -/

namespace Position

/-- A position comes before another one. -/
def Before (a b : Position) : Prop := a.1 < b.1 ∨ (a.1 = b.1 ∧ a.2 < b.2)

theorem le_iff {a b : Position} : a.le b = true ↔ a.1 < b.1 ∨ (a.1 = b.1 ∧ a.2 ≤ b.2) := by
  simp [Position.le]

theorem le_trans {a b c : Position} (hab : a.le b = true) (hbc : b.le c = true) :
    a.le c = true := by
  rw [le_iff] at *
  omega

theorem le_total (a b : Position) : (a.le b || b.le a) = true := by
  rw [Bool.or_eq_true, le_iff, le_iff]
  omega

theorem le_self (a : Position) : a.le a = true := le_iff.mpr (Or.inr ⟨rfl, Int.le_refl _⟩)

theorem before_of_le {a b : Position} (h : a.le b = true) (hne : a ≠ b) : a.Before b := by
  obtain ⟨a₁, a₂⟩ := a
  obtain ⟨b₁, b₂⟩ := b
  rw [le_iff] at h
  have hne' : ¬ (a₁ = b₁ ∧ a₂ = b₂) := fun ⟨h₁, h₂⟩ => hne (by rw [h₁, h₂])
  unfold Before
  dsimp only at h ⊢
  omega

end Position

/-! ## Sorting by position -/

section Sorting

variable {α : Type} (place : α → Position)

theorem place_trans (a b c : α) (hab : (place a).le (place b) = true)
    (hbc : (place b).le (place c) = true) : (place a).le (place c) = true :=
  Position.le_trans hab hbc

theorem place_total (a b : α) : ((place a).le (place b) || (place b).le (place a)) = true :=
  Position.le_total _ _

/-- Sorting by a position sorts. -/
theorem mergeSort_pairwise (l : List α) :
    (l.mergeSort fun a b => (place a).le (place b)).Pairwise fun a b =>
      (place a).le (place b) = true :=
  List.pairwise_mergeSort (place_trans place) (place_total place) l

/-- Where no two positions are equal, the sorted positions rise. -/
theorem mergeSort_before {l : List α} (h : (l.map place).Nodup) :
    (l.mergeSort fun a b => (place a).le (place b)).Pairwise fun a b =>
      (place a).Before (place b) := by
  have hperm := (List.mergeSort_perm l fun a b => (place a).le (place b)).map place
  have hne := List.pairwise_map.mp (hperm.nodup_iff.mpr h)
  exact (mergeSort_pairwise place l).imp₂ (fun _ _ => Position.before_of_le) hne

/-- Sorting keeps the order of what stands at one position. -/
theorem mergeSort_filter (l : List α) (p : Position) :
    (l.mergeSort fun a b => (place a).le (place b)).filter (fun a => place a == p) =
      l.filter (fun a => place a == p) := by
  have hplace : ∀ a ∈ l.filter (fun a => place a == p), place a = p := fun a ha => by
    simpa using List.of_mem_filter ha
  have hsorted : (l.filter (fun a => place a == p)).Pairwise fun a b =>
      (place a).le (place b) = true := by
    refine List.pairwise_of_forall_mem_list fun a ha b hb => ?_
    rw [hplace a ha, hplace b hb]
    exact Position.le_self p
  -- What stands at `p` is sorted as it is, so sorting keeps it as a sublist; the lengths decide.
  have hsub := (List.sublist_mergeSort (place_trans place) (place_total place) hsorted
    List.filter_sublist).filter fun a => place a == p
  have hself : (l.filter (fun a => place a == p)).filter (fun a => place a == p) =
      l.filter (fun a => place a == p) :=
    List.filter_eq_self.mpr fun a ha => by rw [hplace a ha]; exact beq_self_eq_true p
  rw [hself] at hsub
  have hlength := ((List.mergeSort_perm l fun a b => (place a).le (place b)).filter
    fun a => place a == p).length_eq
  exact (hsub.eq_of_length hlength.symm).symm

end Sorting

/-! ## Claims -/

/-- What is taken out of a list is the first element with the property. -/
theorem extractFirst_eq_some {α : Type} {p : α → Bool} : ∀ {l rest : List α} {a : α},
    extractFirst p l = some (a, rest) →
      p a = true ∧ ∃ before after, l = before ++ a :: after ∧ rest = before ++ after
  | b :: l, rest, a, h => by
    unfold extractFirst at h
    split at h
    · rename_i hb
      cases h
      exact ⟨hb, [], _, rfl, rfl⟩
    · obtain ⟨⟨c, rest'⟩, hc, heq⟩ := Option.map_eq_some_iff.mp h
      cases heq
      obtain ⟨ha, before, after, rfl, rfl⟩ := extractFirst_eq_some hc
      exact ⟨ha, b :: before, after, rfl, rfl⟩

theorem extractFirst_eq_none_iff {α : Type} {p : α → Bool} : ∀ {l : List α},
    extractFirst p l = none ↔ ∀ a ∈ l, p a = false
  | [] => by simp [extractFirst]
  | b :: l => by
    unfold extractFirst
    split
    · rename_i hb
      simp [hb]
    · rename_i hb
      rw [Option.map_eq_none_iff, extractFirst_eq_none_iff, List.forall_mem_cons]
      exact ⟨fun h => ⟨by simpa using hb, h⟩, fun h => h.2⟩

/-- Nothing is reported at the position of an expected diagnostic. -/
def Absent (reported : List Diagnostic) (e : Diagnostic) : Prop :=
  ∀ a ∈ reported, a.position ≠ e.position

/-- A diagnostic is reported at the position that agrees. -/
def Answered (reported : List Diagnostic) (e : Diagnostic) : Prop :=
  ∃ a ∈ reported, a.position = e.position ∧ e.agrees a = true

/-- Diagnostics are reported at the position, and none of them agrees. -/
def Contradicted (reported : List Diagnostic) (e : Diagnostic) : Prop :=
  (∃ a ∈ reported, a.position = e.position) ∧
    ∀ a ∈ reported, a.position = e.position → e.agrees a = false

/-- The three cases exclude each other and there is no fourth one. -/
theorem answer_cases (reported : List Diagnostic) (e : Diagnostic) :
    (Absent reported e ∧ ¬ Answered reported e ∧ ¬ Contradicted reported e) ∨
    (¬ Absent reported e ∧ Answered reported e ∧ ¬ Contradicted reported e) ∨
    (¬ Absent reported e ∧ ¬ Answered reported e ∧ Contradicted reported e) := by
  by_cases habsent : Absent reported e
  · refine Or.inl ⟨habsent, ?_, ?_⟩
    · rintro ⟨a, ha, hp, -⟩
      exact habsent a ha hp
    · rintro ⟨⟨a, ha, hp⟩, -⟩
      exact habsent a ha hp
  have hsome : ∃ a ∈ reported, a.position = e.position := by
    unfold Absent at habsent
    push Not at habsent
    exact habsent
  by_cases hanswered : Answered reported e
  · refine Or.inr (Or.inl ⟨habsent, hanswered, ?_⟩)
    rintro ⟨-, hnone⟩
    obtain ⟨a, ha, hp, hagrees⟩ := hanswered
    rw [hnone a ha hp] at hagrees
    cases hagrees
  · refine Or.inr (Or.inr ⟨habsent, hanswered, hsome, fun a ha hp => ?_⟩)
    by_contra hagrees
    exact hanswered ⟨a, ha, hp, by simpa using hagrees⟩

namespace Comparison

/-- `claimed` is taken out of `reported`, at the position of `wanted`, and it agrees where anything
there does. -/
structure Claimed (wanted claimed : Diagnostic) (reported left : List Diagnostic) : Prop where
  position : claimed.position = wanted.position
  best : wanted.agrees claimed = true ∨ Contradicted reported wanted
  taken : ∃ before after, reported = before ++ claimed :: after ∧ left = before ++ after

section Claimed

variable {wanted claimed : Diagnostic} {reported left : List Diagnostic}

theorem Claimed.perm (h : Claimed wanted claimed reported left) :
    reported.Perm (claimed :: left) := by
  obtain ⟨before, after, rfl, rfl⟩ := h.taken
  exact List.perm_middle

theorem Claimed.sublist (h : Claimed wanted claimed reported left) : left.Sublist reported := by
  obtain ⟨before, after, rfl, rfl⟩ := h.taken
  exact (List.Sublist.refl before).append (List.sublist_cons_self claimed after)

/-- **A claim leaves every other position as it was.** -/
theorem Claimed.mem_iff (h : Claimed wanted claimed reported left) {a : Diagnostic}
    (ha : a.position ≠ wanted.position) : a ∈ left ↔ a ∈ reported := by
  rw [h.perm.mem_iff, List.mem_cons]
  refine ⟨Or.inr, fun hm => hm.resolve_left ?_⟩
  rintro rfl
  exact ha h.position

end Claimed

theorem claim_eq_none {wanted : Diagnostic} {reported : List Diagnostic}
    (h : claim wanted reported = none) : Absent reported wanted := by
  have hsecond : extractFirst (fun d => d.position == wanted.position) reported = none := by
    unfold claim at h
    cases hfirst : extractFirst (fun d => d.position == wanted.position && wanted.agrees d)
        reported with
    | some found =>
      rw [hfirst] at h
      cases h
    | none =>
      rw [hfirst] at h
      exact h
  intro a ha hp
  have hne := extractFirst_eq_none_iff.mp hsecond a ha
  rw [hp, beq_self_eq_true] at hne
  cases hne

theorem claim_eq_some {wanted claimed : Diagnostic} {reported left : List Diagnostic}
    (h : claim wanted reported = some (claimed, left)) :
    Claimed wanted claimed reported left := by
  unfold claim at h
  cases hfirst : extractFirst (fun d => d.position == wanted.position && wanted.agrees d)
      reported with
  | some found =>
    rw [hfirst] at h
    cases h
    obtain ⟨hp, htaken⟩ := extractFirst_eq_some hfirst
    rw [Bool.and_eq_true, beq_iff_eq] at hp
    exact ⟨hp.1, Or.inl hp.2, htaken⟩
  | none =>
    rw [hfirst] at h
    obtain ⟨hp, htaken⟩ := extractFirst_eq_some (show extractFirst _ reported = _ from h)
    rw [beq_iff_eq] at hp
    have hmem : claimed ∈ reported := by
      obtain ⟨before, after, rfl, -⟩ := htaken
      exact List.mem_append_right _ List.mem_cons_self
    refine ⟨hp, Or.inr ⟨⟨claimed, hmem, hp⟩, fun a ha hpos => ?_⟩, htaken⟩
    have hnone := extractFirst_eq_none_iff.mp hfirst a ha
    simpa [hpos] using hnone

/-! ## The run of all claims -/

/-- **What one expected diagnostic does to a matching.** Either nothing is reported at its position
and it is missing, or it claims one that agrees, or it claims one although none agrees. -/
theorem pair_cons (wanted : Diagnostic) (rest reported : List Diagnostic) :
    (Absent reported wanted ∧ pair (wanted :: rest) reported =
      { pair rest reported with missing := wanted :: (pair rest reported).missing }) ∨
    (∃ claimed left, Claimed wanted claimed reported left ∧ wanted.agrees claimed = true ∧
      pair (wanted :: rest) reported =
        { pair rest left with satisfied := (wanted, claimed) :: (pair rest left).satisfied }) ∨
    (∃ claimed left, Claimed wanted claimed reported left ∧ wanted.agrees claimed = false ∧
      Contradicted reported wanted ∧ pair (wanted :: rest) reported =
        { pair rest left with
          mismatched := ⟨wanted, claimed⟩ :: (pair rest left).mismatched }) := by
  cases h : claim wanted reported with
  | none => exact Or.inl ⟨claim_eq_none h, by simp only [pair, h]⟩
  | some found =>
    obtain ⟨claimed, left⟩ := found
    have hclaimed := claim_eq_some h
    cases hagrees : wanted.agrees claimed with
    | true =>
      refine Or.inr (Or.inl ⟨claimed, left, hclaimed, hagrees, ?_⟩)
      simp only [pair, h, hagrees, if_true]
    | false =>
      have hcontra : Contradicted reported wanted :=
        hclaimed.best.resolve_left (by rw [hagrees]; exact Bool.false_ne_true)
      refine Or.inr (Or.inr ⟨claimed, left, hclaimed, hagrees, hcontra, ?_⟩)
      simp only [pair, h, hagrees, Bool.false_eq_true, if_false]

/-- A matching accounts for both sides: nothing is lost, nothing occurs twice, what is left keeps
its order, and the two halves of every pair stand at one position. -/
structure Matching.Conserves (expected reported : List Diagnostic) (m : Matching) : Prop where
  expected_perm : expected.Perm
    (m.satisfied.map (·.1) ++ (m.missing ++ m.mismatched.map (·.expected)))
  reported_perm : reported.Perm
    (m.satisfied.map (·.2) ++ (m.mismatched.map (·.actual) ++ m.unclaimed))
  unclaimed : m.unclaimed.Sublist reported
  satisfied : ∀ s ∈ m.satisfied, s.2.position = s.1.position ∧ s.1.agrees s.2 = true
  mismatched : ∀ x ∈ m.mismatched,
    x.actual.position = x.expected.position ∧ x.expected.agrees x.actual = false

/-- **Claims conserve the diagnostics of both sides.** -/
theorem pair_conserves : ∀ expected reported : List Diagnostic,
    (pair expected reported).Conserves expected reported
  | [], reported => by
    refine ⟨.refl _, .refl _, .refl _, ?_, ?_⟩
    · exact fun _ h => absurd h List.not_mem_nil
    · exact fun _ h => absurd h List.not_mem_nil
  | wanted :: rest, reported => by
    rcases pair_cons wanted rest reported with
      ⟨-, he⟩ | ⟨claimed, left, hc, hagrees, he⟩ | ⟨claimed, left, hc, hagrees, -, he⟩
    · obtain ⟨hexp, hrep, hun, hsat, hmis⟩ := pair_conserves rest reported
      rw [he]
      exact ⟨(hexp.cons wanted).trans List.perm_middle.symm, hrep, hun, hsat, hmis⟩
    · obtain ⟨hexp, hrep, hun, hsat, hmis⟩ := pair_conserves rest left
      rw [he]
      refine ⟨hexp.cons wanted, hc.perm.trans (hrep.cons claimed), hun.trans hc.sublist, ?_, hmis⟩
      rw [List.forall_mem_cons]
      exact ⟨⟨hc.position, hagrees⟩, hsat⟩
    · obtain ⟨hexp, hrep, hun, hsat, hmis⟩ := pair_conserves rest left
      rw [he]
      refine ⟨?_, ?_, hun.trans hc.sublist, hsat, ?_⟩
      · refine (hexp.cons wanted).trans ?_
        rw [List.map_cons, ← List.append_assoc, ← List.append_assoc]
        exact List.perm_middle.symm
      · exact hc.perm.trans ((hrep.cons claimed).trans List.perm_middle.symm)
      · rw [List.forall_mem_cons]
        exact ⟨⟨hc.position, hagrees⟩, hmis⟩

/-- A case that depends on the reported diagnostics at one position only is not changed by a claim
at another one. -/
theorem absent_of_claimed {wanted claimed e : Diagnostic} {reported left : List Diagnostic}
    (h : Claimed wanted claimed reported left) (hne : e.position ≠ wanted.position)
    (habsent : Absent left e) : Absent reported e := by
  intro a ha hp
  exact habsent a ((h.mem_iff (hp ▸ hne)).mpr ha) hp

theorem contradicted_of_claimed {wanted claimed e : Diagnostic} {reported left : List Diagnostic}
    (h : Claimed wanted claimed reported left) (hne : e.position ≠ wanted.position)
    (hcontra : Contradicted left e) : Contradicted reported e := by
  obtain ⟨⟨a, ha, hp⟩, hnone⟩ := hcontra
  refine ⟨⟨a, h.sublist.subset ha, hp⟩, fun b hb hpb => ?_⟩
  exact hnone b ((h.mem_iff (hpb ▸ hne)).mpr hb) hpb

/-- **Claims are sound.** Where no position is expected twice, nothing is reported at the position
of a missing diagnostic, and nothing that agrees at that of a mismatch. -/
theorem pair_sound : ∀ {expected reported : List Diagnostic},
    (expected.map Diagnostic.position).Nodup →
      (∀ e ∈ (pair expected reported).missing, Absent reported e) ∧
      ∀ x ∈ (pair expected reported).mismatched, Contradicted reported x.expected
  | [], reported, _ => by
    constructor
    · exact fun _ h => absurd h List.not_mem_nil
    · exact fun _ h => absurd h List.not_mem_nil
  | wanted :: rest, reported, h => by
    rw [List.map_cons, List.nodup_cons] at h
    obtain ⟨hwanted, hrest⟩ := h
    -- Nobody else is expected at the position of `wanted`, where its claim takes something away.
    have hne : ∀ {l : List Diagnostic} {e}, e ∈ (pair rest l).missing ∨
        e ∈ (pair rest l).mismatched.map (·.expected) → e.position ≠ wanted.position := by
      intro l e he hp
      have hmem : e ∈ rest := by
        refine (pair_conserves rest l).expected_perm.mem_iff.mpr (List.mem_append_right _ ?_)
        exact List.mem_append.mpr he
      exact hwanted (hp ▸ List.mem_map_of_mem hmem)
    rcases pair_cons wanted rest reported with
      ⟨habsent, he⟩ | ⟨claimed, left, hc, -, he⟩ | ⟨claimed, left, hc, -, hcontra, he⟩
    · obtain ⟨hmissing, hmismatched⟩ := @pair_sound rest reported hrest
      rw [he]
      exact ⟨List.forall_mem_cons.mpr ⟨habsent, hmissing⟩, hmismatched⟩
    all_goals
      obtain ⟨hmissing, hmismatched⟩ := @pair_sound rest left hrest
      have hmissing' : ∀ e ∈ (pair rest left).missing, Absent reported e := fun e hm =>
        absent_of_claimed hc (hne (Or.inl hm)) (hmissing e hm)
      have hmismatched' : ∀ x ∈ (pair rest left).mismatched, Contradicted reported x.expected :=
        fun x hm => contradicted_of_claimed hc (hne (Or.inr (List.mem_map_of_mem hm)))
          (hmismatched x hm)
      rw [he]
    · exact ⟨hmissing', hmismatched'⟩
    · exact ⟨hmissing', List.forall_mem_cons.mpr ⟨hcontra, hmismatched'⟩⟩

/-- **What becomes of an expected diagnostic** depends on what is reported at its position. -/
theorem pair_fate {expected : List Diagnostic} (h : (expected.map Diagnostic.position).Nodup)
    (reported : List Diagnostic) {e : Diagnostic} (he : e ∈ expected) :
    (e ∈ (pair expected reported).missing ↔ Absent reported e) ∧
    (e ∈ (pair expected reported).satisfied.map (·.1) ↔ Answered reported e) ∧
    (e ∈ (pair expected reported).mismatched.map (·.expected) ↔ Contradicted reported e) := by
  have hc := pair_conserves expected reported
  obtain ⟨hmissing, hmismatched⟩ := @pair_sound expected reported h
  have hsatisfied : e ∈ (pair expected reported).satisfied.map (·.1) → Answered reported e := by
    intro hm
    obtain ⟨s, hs, rfl⟩ := List.mem_map.mp hm
    have hmem : s.2 ∈ reported :=
      hc.reported_perm.mem_iff.mpr (List.mem_append_left _ (List.mem_map_of_mem hs))
    exact ⟨s.2, hmem, hc.satisfied s hs⟩
  have hcontra : e ∈ (pair expected reported).mismatched.map (·.expected) →
      Contradicted reported e := by
    intro hm
    obtain ⟨x, hx, rfl⟩ := List.mem_map.mp hm
    exact hmismatched x hx
  have hsomewhere := hc.expected_perm.mem_iff.mp he
  rw [List.mem_append, List.mem_append] at hsomewhere
  have habsent := hmissing e
  have hexclusive := answer_cases reported e
  tauto

/-! ## Positions that are expected twice -/

theorem repeated?_eq_none_iff : ∀ {seen : List Position} {ds : List Diagnostic},
    repeated? seen ds = none ↔
      (ds.map Diagnostic.position).Nodup ∧ ∀ d ∈ ds, d.position ∉ seen
  | seen, [] => by simp [repeated?]
  | seen, d :: rest => by
    rw [repeated?, List.map_cons, List.nodup_cons, List.forall_mem_cons]
    by_cases hseen : d.position ∈ seen
    · simp [hseen]
    · rw [if_neg (by simpa using hseen), repeated?_eq_none_iff]
      simp only [List.mem_cons, not_or, List.mem_map, not_exists, not_and]
      constructor
      · rintro ⟨hnodup, hall⟩
        exact ⟨⟨fun x hx => (hall x hx).1, hnodup⟩, hseen, fun x hx => (hall x hx).2⟩
      · rintro ⟨⟨hfirst, hnodup⟩, -, hall⟩
        exact ⟨hnodup, fun x hx => ⟨hfirst x hx, hall x hx⟩⟩

/-- A comparison is made exactly where no position is expected twice. -/
theorem compare_eq_ok_iff {expected reported : List Diagnostic} {c : Comparison} :
    compare expected reported = .ok c ↔
      (expected.map Diagnostic.position).Nodup ∧ c = ofMatching (pair expected reported) := by
  have hnone := @repeated?_eq_none_iff [] expected
  simp only [List.not_mem_nil, not_false_eq_true, implies_true, and_true] at hnone
  unfold compare
  rw [← hnone]
  cases repeated? [] expected with
  | none =>
    refine ⟨fun h => ⟨rfl, ?_⟩, fun h => congrArg Except.ok h.2.symm⟩
    cases h
    rfl
  | some d =>
    constructor
    · intro h
      cases h
    · rintro ⟨h, -⟩
      cases h

/-- Nothing is compared exactly where a position is expected twice. -/
theorem compare_eq_error_iff {expected reported : List Diagnostic} :
    (∃ e, compare expected reported = .error e) ↔ ¬ (expected.map Diagnostic.position).Nodup := by
  cases hcompare : compare expected reported with
  | ok c => simp [(compare_eq_ok_iff.mp hcompare).1]
  | error e =>
    refine iff_of_true ⟨e, rfl⟩ fun hnodup => ?_
    rw [compare_eq_ok_iff.mpr ⟨hnodup, rfl⟩] at hcompare
    cases hcompare

/-- The first diagnostic whose position an earlier one has stands behind diagnostics that have
different positions. -/
theorem repeated?_eq_some_iff {p : Position} : ∀ {seen : List Position} {ds : List Diagnostic},
    (∃ d, repeated? seen ds = some d ∧ d.position = p) ↔
      ∃ before after, ds.map Diagnostic.position = before ++ p :: after ∧ before.Nodup ∧
        (∀ q ∈ before, q ∉ seen) ∧ (p ∈ seen ∨ p ∈ before)
  | seen, [] => by simp [repeated?]
  | seen, d :: rest => by
    rw [repeated?]
    by_cases hseen : d.position ∈ seen
    · rw [if_pos (by simpa using hseen)]
      constructor
      · rintro ⟨_, hd, rfl⟩
        cases hd
        exact ⟨[], _, rfl, .nil, by simp, Or.inl hseen⟩
      · rintro ⟨before, after, hcut, -, hnew, -⟩
        rw [List.map_cons] at hcut
        rcases List.cons_eq_append_iff.mp hcut with ⟨-, hp⟩ | ⟨more, rfl, -⟩
        · exact ⟨d, rfl, (List.cons.inj hp).1.symm⟩
        · exact absurd hseen (hnew _ List.mem_cons_self)
    · rw [if_neg (by simpa using hseen), repeated?_eq_some_iff, List.map_cons]
      constructor
      · rintro ⟨before, after, hcut, hnodup, hnew, hp⟩
        refine ⟨d.position :: before, after, by rw [hcut]; rfl, ?_, ?_, ?_⟩
        · refine List.nodup_cons.mpr ⟨fun hmem => hnew _ hmem List.mem_cons_self, hnodup⟩
        · exact List.forall_mem_cons.mpr
            ⟨hseen, fun q hq hmem => hnew q hq (List.mem_cons_of_mem _ hmem)⟩
        · rw [List.mem_cons] at hp ⊢
          tauto
      · rintro ⟨before, after, hcut, hnodup, hnew, hp⟩
        rcases List.cons_eq_append_iff.mp hcut with ⟨rfl, hd⟩ | ⟨more, rfl, hmore⟩
        · -- The first diagnostic repeats nothing.
          obtain ⟨rfl, -⟩ := List.cons.inj hd
          exact absurd (hp.resolve_right List.not_mem_nil) hseen
        · obtain ⟨hd, hmore'⟩ := List.nodup_cons.mp hnodup
          refine ⟨more, after, hmore, hmore', fun q hq => ?_, ?_⟩
          · rw [List.mem_cons, not_or]
            exact ⟨fun he => hd (he ▸ hq), hnew q (List.mem_cons_of_mem _ hq)⟩
          · rw [List.mem_cons] at hp ⊢
            tauto

/-- **What a comparison refuses** is a position that an earlier diagnostic has. -/
theorem compare_eq_duplicate_iff {expected reported : List Diagnostic} {e : FixtureError} :
    compare expected reported = .error e ↔
      ∃ p : Position, (∃ before after, expected.map Diagnostic.position = before ++ p :: after ∧
        before.Nodup ∧ p ∈ before) ∧ e = .duplicatePosition p.1 p.2 := by
  have hfirst : ∀ p, (∃ d, repeated? [] expected = some d ∧ d.position = p) ↔
      ∃ before after, expected.map Diagnostic.position = before ++ p :: after ∧ before.Nodup ∧
        p ∈ before := fun p => by rw [repeated?_eq_some_iff]; simp
  simp only [← hfirst, compare]
  cases repeated? [] expected with
  | none => simp
  | some d =>
    constructor
    · intro h
      cases h
      exact ⟨_, ⟨d, rfl, rfl⟩, rfl⟩
    · rintro ⟨p, ⟨d', hd, rfl⟩, rfl⟩
      cases hd
      rfl

/-- The position that is refused is expected twice. -/
theorem count_of_compare {expected reported : List Diagnostic} {line column : Int}
    (h : compare expected reported = .error (.duplicatePosition line column)) :
    1 < (expected.map Diagnostic.position).count (line, column) := by
  obtain ⟨⟨_, _⟩, ⟨before, after, hcut, -, hp⟩, he⟩ := compare_eq_duplicate_iff.mp h
  obtain ⟨rfl, rfl⟩ := FixtureError.duplicatePosition.inj he
  have hearlier : 0 < before.count (line, column) := List.count_pos_iff.mpr hp
  rw [hcut, List.count_append, List.count_cons_self]
  omega

/-- The fault of a position that is expected twice names it where it can be written. -/
theorem raised_duplicatePosition (line column : Int) :
    (FixtureError.duplicatePosition line column).raised =
      if hasNumeral (line + 1) ∧ hasNumeral (column + 1)
        then .fixture (.duplicatePosition line column) else .unwritable := by
  simp [FixtureError.raised, FixtureError.isWritable, FixtureError.numbers]

/-- Comparing any diagnostics succeeds like comparing those that can be refused. -/
theorem ofDiagnostics_eq_ok_iff {expected reported : List Diagnostic} {c : Comparison} :
    ofDiagnostics expected reported = .ok c ↔ compare expected reported = .ok c := by
  unfold ofDiagnostics
  cases compare expected reported <;> simp [Except.mapError]

theorem ofDiagnostics_eq_error {expected reported : List Diagnostic} {e : FixtureError}
    (h : compare expected reported = .error e) :
    ofDiagnostics expected reported = .error e.raised := by
  rw [ofDiagnostics, h, Except.mapError]

theorem kind_of_compare {expected reported : List Diagnostic} {e : FixtureError}
    (h : compare expected reported = .error e) : e.kind = "duplicate-position" := by
  unfold compare at h
  split at h
  · cases h
    rfl
  · cases h

/-! ## Comparisons -/

/-- A comparison accounts for every expected and every reported diagnostic, the `satisfied` pairs
being those of which it says nothing. -/
structure Accounts (expected reported : List Diagnostic)
    (satisfied : List (Diagnostic × Diagnostic)) (c : Comparison) : Prop where
  /-- Every expected diagnostic is satisfied, missing or the expected half of a mismatch. -/
  expected_perm : expected.Perm
    (satisfied.map (·.1) ++ (c.missing ++ c.mismatched.map (·.expected)))
  /-- Every reported diagnostic satisfies, is the actual half of a mismatch or unexpected. -/
  reported_perm : reported.Perm
    (satisfied.map (·.2) ++ (c.mismatched.map (·.actual) ++ c.unexpected))
  missing_iff : ∀ e ∈ expected, (e ∈ c.missing ↔ Absent reported e)
  mismatched_iff : ∀ e ∈ expected,
    ((c.mismatched.map (·.expected)).count e = 1 ↔ Contradicted reported e)
  satisfied_iff : ∀ e ∈ expected, ((satisfied.map (·.1)).count e = 1 ↔ Answered reported e)
  satisfied_agree : ∀ s ∈ satisfied, s.2.position = s.1.position ∧ s.1.agrees s.2 = true
  mismatched_differ : ∀ x ∈ c.mismatched,
    x.actual.position = x.expected.position ∧ x.expected.agrees x.actual = false
  missing_rises : c.missing.Pairwise fun a b => a.position.Before b.position
  mismatched_rises : c.mismatched.Pairwise fun a b => a.expected.position.Before b.expected.position
  unexpected_sorted : c.unexpected.Pairwise fun a b => a.position.le b.position = true
  /-- The unexpected ones at a position stand in the order in which they were reported. -/
  unexpected_stable : ∀ p, (c.unexpected.filter (·.position == p)).Sublist reported

/-- In a list without repetition, to be in it and to be in it once is the same. -/
theorem count_eq_one_iff {α : Type} [DecidableEq α] {l : List α} (h : l.Nodup) {a : α} :
    l.count a = 1 ↔ a ∈ l :=
  ⟨fun hc => List.count_pos_iff.mp (by omega), List.count_eq_one_of_mem h⟩

/-- **The discrepancies of a matching account for both sides.** -/
theorem accounts_ofMatching {expected : List Diagnostic}
    (h : (expected.map Diagnostic.position).Nodup) (reported : List Diagnostic) :
    Accounts expected reported (pair expected reported).satisfied
      (ofMatching (pair expected reported)) := by
  have hc := pair_conserves expected reported
  have hfate := fun e he => @pair_fate expected h reported e he
  generalize pair expected reported = m at hc hfate
  have hmissing : (Diagnostic.sorted m.missing).Perm m.missing := List.mergeSort_perm _ _
  have hunclaimed : (Diagnostic.sorted m.unclaimed).Perm m.unclaimed := List.mergeSort_perm _ _
  have hmismatched : (ofMatching m).mismatched.Perm m.mismatched := List.mergeSort_perm _ _
  have hpositions := (hc.expected_perm.map Diagnostic.position).nodup_iff.mp h
  rw [List.map_append, List.map_append, List.nodup_append, List.nodup_append] at hpositions
  obtain ⟨hsat, ⟨hmis, hmm, -⟩, -⟩ := hpositions
  rw [List.map_map] at hmm
  refine ⟨?_, ?_, fun e he => ?_, fun e he => ?_, fun e he => ?_, hc.satisfied, fun x hx => ?_,
    ?_, ?_, ?_, fun p => ?_⟩
  · exact hc.expected_perm.trans (.append_left _
      (hmissing.symm.append (hmismatched.map (·.expected)).symm))
  · exact hc.reported_perm.trans (.append_left _
      ((hmismatched.map (·.actual)).symm.append hunclaimed.symm))
  · rw [← (hfate e he).1]
    exact hmissing.mem_iff
  · rw [← (hfate e he).2.2, (hmismatched.map (·.expected)).count_eq e]
    exact count_eq_one_iff (List.Nodup.of_map _ (by rw [List.map_map]; exact hmm))
  · rw [← (hfate e he).2.1]
    exact count_eq_one_iff (List.Nodup.of_map _ hsat)
  · exact hc.mismatched x (hmismatched.mem_iff.mp hx)
  · exact mergeSort_before Diagnostic.position hmis
  · exact mergeSort_before (fun x : Mismatch => x.expected.position) hmm
  · exact mergeSort_pairwise Diagnostic.position m.unclaimed
  · refine List.Sublist.trans ?_ hc.unclaimed
    rw [show (ofMatching m).unexpected.filter (·.position == p) =
      m.unclaimed.filter (·.position == p) from mergeSort_filter Diagnostic.position m.unclaimed p]
    exact List.filter_sublist

/-- **A comparison partitions both sides.** Where no position is expected twice, each expected
diagnostic is missing, mismatched or satisfied as what is reported at its position says, each
reported one is used once, and the discrepancies are sorted. -/
theorem compare_accounts {expected : List Diagnostic}
    (h : (expected.map Diagnostic.position).Nodup) (reported : List Diagnostic) :
    ∃ c satisfied, compare expected reported = .ok c ∧
      Accounts expected reported satisfied c :=
  ⟨_, _, compare_eq_ok_iff.mpr ⟨h, rfl⟩, accounts_ofMatching h reported⟩

/-- Three diagnostics at one position, of which the second one agrees, and one that is missing. -/
theorem compare_accounts_collision :
    ([⟨0, 1, some 2, "a", none⟩, ⟨0, 0, some 1, "b", none⟩].map Diagnostic.position).Nodup ∧
    ∃ c satisfied, compare [⟨0, 1, some 2, "a", none⟩, ⟨0, 0, some 1, "b", none⟩]
        [⟨0, 1, none, "c", none⟩, ⟨0, 1, none, "a", some "r"⟩, ⟨0, 1, some 2, "a", none⟩] = .ok c ∧
      Accounts [⟨0, 1, some 2, "a", none⟩, ⟨0, 0, some 1, "b", none⟩]
        [⟨0, 1, none, "c", none⟩, ⟨0, 1, none, "a", some "r"⟩, ⟨0, 1, some 2, "a", none⟩]
        satisfied c :=
  ⟨by decide, compare_accounts (by decide) _⟩

/-! ## Comparisons that pass -/

theorem passed_ofMatching_iff {m : Matching} :
    (ofMatching m).passed = true ↔ m.missing = [] ∧ m.unclaimed = [] ∧ m.mismatched = [] := by
  have hempty : ∀ {α : Type} (l : List α) (le : α → α → Bool),
      (l.mergeSort le).isEmpty = true ↔ l = [] := fun l le => by
    rw [List.isEmpty_iff, ← List.length_eq_zero_iff, List.length_mergeSort,
      List.length_eq_zero_iff]
  simp only [passed, ofMatching, Diagnostic.sorted, Bool.and_eq_true, hempty, and_assoc]

/-- **A comparison passes** exactly where no position is expected twice and the reported
diagnostics, in some order, agree with the expected ones one by one. -/
theorem compare_passed_iff {expected reported : List Diagnostic} :
    (∃ c, compare expected reported = .ok c ∧ c.passed = true) ↔
      (expected.map Diagnostic.position).Nodup ∧ ∃ ds : List Diagnostic, ds.Perm reported ∧
        List.Forall₂ (fun e d => d.position = e.position ∧ e.agrees d = true) expected ds := by
  have hc := pair_conserves expected reported
  constructor
  · rintro ⟨c, hcompare, hpassed⟩
    obtain ⟨hnodup, rfl⟩ := compare_eq_ok_iff.mp hcompare
    obtain ⟨hmissing, hunclaimed, hmismatched⟩ := passed_ofMatching_iff.mp hpassed
    obtain ⟨hexp, hrep, -, hsat, -⟩ := hc
    rw [hmissing, hmismatched, List.map_nil, List.append_nil, List.append_nil] at hexp
    rw [hmismatched, hunclaimed, List.map_nil, List.append_nil, List.append_nil] at hrep
    have hpairs : List.Forall₂ (fun e d => d.position = e.position ∧ e.agrees d = true)
        ((pair expected reported).satisfied.map (·.1))
        ((pair expected reported).satisfied.map (·.2)) := by
      rw [List.forall₂_map_left_iff, List.forall₂_map_right_iff, List.forall₂_same]
      exact hsat
    obtain ⟨ds, hforall, hperm⟩ := List.perm_comp_forall₂ hexp hpairs
    exact ⟨hnodup, ds, hperm.trans hrep.symm, hforall⟩
  · rintro ⟨hnodup, ds, hperm, hforall⟩
    have hanswered : ∀ e ∈ expected, Answered reported e := by
      intro e he
      obtain ⟨i, hi, rfl⟩ := List.mem_iff_getElem.mp he
      have hi' : i < ds.length := hforall.length_eq ▸ hi
      exact ⟨ds[i], hperm.mem_iff.mp (List.getElem_mem hi'), hforall.get hi hi'⟩
    have hmissing : (pair expected reported).missing = [] := by
      refine List.eq_nil_iff_forall_not_mem.mpr fun e hm => ?_
      have he := hc.expected_perm.mem_iff.mpr
        (List.mem_append_right _ (List.mem_append_left _ hm))
      obtain ⟨a, ha, hp, -⟩ := hanswered e he
      exact (pair_fate hnodup reported he).1.mp hm a ha hp
    have hmismatched : (pair expected reported).mismatched = [] := by
      refine List.eq_nil_iff_forall_not_mem.mpr fun x hx => ?_
      have hm := List.mem_map_of_mem (f := (·.expected)) hx
      have he := hc.expected_perm.mem_iff.mpr
        (List.mem_append_right _ (List.mem_append_right _ hm))
      obtain ⟨a, ha, hp, hagrees⟩ := hanswered _ he
      rw [((pair_fate hnodup reported he).2.2.mp hm).2 a ha hp] at hagrees
      cases hagrees
    have hunclaimed : (pair expected reported).unclaimed = [] := by
      -- As many are satisfied as are expected, and these are as many as are reported.
      have hexp := hc.expected_perm.length_eq
      have hrep := hc.reported_perm.length_eq
      have hpaired := hforall.length_eq
      have hlength := hperm.length_eq
      simp only [hmissing, hmismatched, List.map_nil, List.append_nil, List.nil_append,
        List.length_append, List.length_map] at hexp hrep
      exact List.length_eq_zero_iff.mp (by omega)
    exact ⟨_, compare_eq_ok_iff.mpr ⟨hnodup, rfl⟩,
      passed_ofMatching_iff.mpr ⟨hmissing, hunclaimed, hmismatched⟩⟩

end Comparison

end LintFixture
