import LintFixture.Rule.BannedWords

/-!
# Letters and blanks

What a table of ranges or runs says of every entry is found by going through it; what it says of a
character is that of an entry in which the character lies (`exists_of_inRanges`, `lowerIn_cases`).

Beyond the basic plane a character has no relatives by case but its own lower case, and that has no
other one. So a last letter that is compared by its lower case is compared as in any other place
(`sameLastLetter_iff`), unless it is a capital there, which no lower case is equal to.
-/

namespace LintFixture

namespace Text

/-! ## Tables -/

/-- What lies in ranges lies in one of them. -/
theorem exists_of_inRanges {n : Nat} : ∀ {ranges : List CodeRange}, inRanges ranges n = true →
    ∃ r ∈ ranges, r.1 ≤ n ∧ n ≤ r.2
  | (lo, hi) :: rest, h => by
    rw [inRanges] at h
    split at h
    · cases h
    · rename_i hlo
      rw [Bool.or_eq_true, decide_eq_true_iff] at h
      obtain hhi | hrest := h
      · exact ⟨_, List.mem_cons_self, Nat.le_of_not_lt hlo, hhi⟩
      · obtain ⟨r, hr, hn⟩ := exists_of_inRanges hrest
        exact ⟨r, List.mem_cons_of_mem _ hr, hn⟩

/-- A code point has no lower case of its own, or that of a run in which it lies. -/
theorem lowerIn_cases (n : Nat) : ∀ runs : List CaseRun, lowerIn runs n = n ∨
    ∃ r ∈ runs, r.first ≤ n ∧ n ≤ r.last ∧ lowerIn runs n = (n + r.shift).toNat
  | [] => Or.inl rfl
  | r :: rest => by
    rw [lowerIn]
    split
    · exact Or.inl rfl
    · rename_i hfirst
      split
      · rename_i hlast
        exact Or.inr ⟨r, List.mem_cons_self, Nat.le_of_not_lt hfirst, hlast.1, rfl⟩
      · obtain h | ⟨r', hr', h⟩ := lowerIn_cases n rest
        · exact Or.inl h
        · exact Or.inr ⟨r', List.mem_cons_of_mem _ hr', h⟩

/-- The lower case of a code point of the basic plane lies in it. -/
theorem lower_below : ∀ r ∈ caseRuns, r.first < 0x10000 → r.last + r.shift < 0x10000 := by
  decide +kernel

/-- Beyond the basic plane, what a run leads to lies in no run. -/
theorem lower_beyond : ∀ r ∈ caseRuns, 0x10000 ≤ r.first → ∀ r' ∈ caseRuns,
    r.last + r.shift < r'.first ∨ r'.last < r.first + r.shift := by
  decide +kernel

theorem caseVariants_below : ∀ v ∈ caseVariants, v.1 < 0x10000 ∧ v.2 < 0x10000 := by
  decide +kernel

theorem variant_below {n m : Nat} (h : caseVariants.lookup n = some m) :
    n < 0x10000 ∧ m < 0x10000 := by
  obtain ⟨before, after, hsplit, -⟩ := List.lookup_eq_some_iff.mp h
  exact caseVariants_below (n, m) (hsplit ▸ List.mem_append_right _ List.mem_cons_self)

theorem toLower_ascii : ∀ n ∈ List.range 0x80, (Char.ofNat n).toLower.toNat < 0x80 := by
  decide +kernel

theorem lowerIn_lowerIn {n : Nat} (h : 0x10000 ≤ lowerIn caseRuns n) :
    lowerIn caseRuns (lowerIn caseRuns n) = lowerIn caseRuns n := by
  obtain hsame | ⟨r, hr, hfirst, hlast, hlower⟩ := lowerIn_cases n caseRuns
  · rw [hsame, hsame]
  · rw [hlower] at h ⊢
    by_cases hbelow : r.first < 0x10000
    · have hvalue := lower_below r hr hbelow
      omega
    · obtain hfixed | ⟨r', hr', hin⟩ := lowerIn_cases (n + r.shift).toNat caseRuns
      · exact hfixed
      · have hout := lower_beyond r hr (Nat.le_of_not_lt hbelow) r' hr'
        omega

/-! ## Letters beyond the basic plane -/

variable {c d : Char}

theorem toNat_ofNat_of_le {n : Nat} (h : 0x10000 ≤ (Char.ofNat n).toNat) :
    (Char.ofNat n).toNat = n := by
  by_cases hvalid : n.isValidChar
  · rw [Char.ofNat, dif_pos hvalid]
    rfl
  · rw [Char.ofNat, dif_neg hvalid] at h
    exact absurd h (by decide)

theorem toLower_toLower (h : 0x10000 ≤ (toLower c).toNat) : toLower (toLower c) = toLower c := by
  unfold toLower at h
  split at h
  · rename_i hascii
    have hsmall := toLower_ascii c.toNat (List.mem_range.mpr (UInt32.lt_iff_toNat_lt.mp hascii))
    rw [Char.ofNat_toNat] at hsmall
    omega
  · rename_i hascii
    have hvalue := toNat_ofNat_of_le h
    have hlower : toLower c = Char.ofNat (lowerIn caseRuns c.toNat) := if_neg hascii
    have hbeyond : ¬ (Char.ofNat (lowerIn caseRuns c.toNat)).val < 0x80 := fun hlt => by
      have hlt := UInt32.lt_iff_toNat_lt.mp hlt
      have : (Char.ofNat (lowerIn caseRuns c.toNat)).toNat < 0x80 := hlt
      omega
    rw [hlower, toLower, if_neg hbeyond, hvalue, lowerIn_lowerIn (hvalue ▸ h)]

theorem fold_congr (h : toLower c = toLower d) : fold c = fold d := by
  rw [fold, fold, h]

/-- A fold lies beyond the basic plane where the lower case does, and is the same then. -/
theorem fold_of_beyond (h : 0x10000 ≤ (toLower c).toNat) : fold c = toLower c := by
  unfold fold
  dsimp only
  split
  · rename_i n hlookup
    have := (variant_below hlookup).1
    omega
  · rfl

theorem toLower_of_fold (h : 0x10000 ≤ (fold c).toNat) : toLower c = fold c := by
  unfold fold at h ⊢
  dsimp only at h ⊢
  split at h
  · rename_i n hlookup
    have hsmall := (variant_below hlookup).2
    rw [toNat_ofNat_of_le h] at h
    omega
  · rfl

theorem blanks_not_words : ∀ r ∈ (0x1c, 0x1f) :: spaceRanges,
    ∀ k ∈ List.range (r.2 + 1 - r.1), isWord (Char.ofNat (r.1 + k)) = false := by
  decide +kernel

/-- Blanks are no word characters. -/
theorem isWord_of_isBlank (h : isBlank c = true) : isWord c = false := by
  have hranges : ∃ r ∈ (0x1c, 0x1f) :: spaceRanges, r.1 ≤ c.toNat ∧ c.toNat ≤ r.2 := by
    simp only [isBlank, isSpace, Bool.or_eq_true, Bool.and_eq_true, decide_eq_true_iff] at h
    obtain h | h := h
    · obtain ⟨r, hr, hc⟩ := exists_of_inRanges h
      exact ⟨r, List.mem_cons_of_mem _ hr, hc⟩
    · exact ⟨_, List.mem_cons_self, h⟩
  obtain ⟨r, hr, hfirst, hlast⟩ := hranges
  have hword := blanks_not_words r hr (c.toNat - r.1) (List.mem_range.mpr (by omega))
  rwa [Nat.add_sub_cancel' hfirst, Char.ofNat_toNat] at hword

end Text

/-! ## Comparing letters -/

namespace Rule

variable {w c : Char}

/-- A last letter is not looked for in its other case: it lies beyond the basic plane and is no
lower case letter. -/
def IsBeyondCapital (w : Char) : Prop := 0x10000 ≤ w.toNat ∧ Text.toLower w ≠ w

/-- **Among several last letters** a letter stands for what it is equal to, cases aside, unless it
is a capital beyond the basic plane, which stands for nothing. -/
theorem sameLastLetter_iff :
    sameLastLetter w c = true ↔ sameLetter w c = true ∧ ¬ IsBeyondCapital w := by
  unfold sameLastLetter IsBeyondCapital
  split
  · rename_i hbasic
    simp [Nat.not_le.mpr hbasic]
  · rename_i hbeyond
    have hbeyond : 0x10000 ≤ w.toNat := Nat.le_of_not_lt hbeyond
    rw [sameLetter, beq_iff_eq, beq_iff_eq, not_and, ne_eq, Classical.not_not,
      forall_prop_of_true hbeyond]
    constructor
    · intro h
      have hw : Text.toLower w = w := by
        rw [← h]
        exact Text.toLower_toLower (h ▸ hbeyond)
      exact ⟨Text.fold_congr (hw.trans h.symm), hw⟩
    · rintro ⟨h, hw⟩
      have hfold : Text.fold w = w := (Text.fold_of_beyond (hw.symm ▸ hbeyond)).trans hw
      rw [Text.toLower_of_fold (by rwa [← h, hfold]), ← h, hfold]

end Rule

end LintFixture
