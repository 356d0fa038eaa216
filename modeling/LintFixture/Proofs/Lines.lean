import LintFixture.Text.Lines

/-!
# Cutting texts into lines and joining lines

`Text.splitLines` cuts a text at its line feeds and `Text.joinLines` puts lines together again.
They undo each other, the one way for every text (`joinLines_splitLines`), the other way for every
list of lines that has a line and no line feed within one (`splitLines_joinLines`). Of no line at
all joining makes the empty text, which has one line. Texts that are put together with a line feed
in between have the lines of the one and then those of the other (`splitLines_append`).
-/

namespace LintFixture.Text

/-- No piece of a cut list has what the list is cut at. -/
theorem not_mem_of_mem_splitOn {α : Type} [BEq α] [LawfulBEq α] {a : α} :
    ∀ {cs piece : List α}, piece ∈ cs.splitOn a → a ∉ piece
  | [], piece, h => by
    rw [List.splitOn_nil, List.mem_singleton] at h
    rw [h]
    exact List.not_mem_nil
  | c :: cs, piece, h => by
    rw [List.splitOn_cons_eq_if_modifyHead] at h
    obtain ⟨first, more, hcs⟩ := List.exists_cons_of_ne_nil (List.splitOn_ne_nil a cs)
    have ih : ∀ {piece}, piece ∈ first :: more → a ∉ piece := fun hp =>
      not_mem_of_mem_splitOn (hcs ▸ hp)
    rw [hcs] at h
    split at h
    · rcases List.mem_cons.mp h with rfl | h
      · exact List.not_mem_nil
      · exact ih h
    · rename_i hc
      rcases List.mem_cons.mp h with rfl | h
      · rw [List.mem_cons, not_or]
        exact ⟨fun e => hc (by simp [e]), ih List.mem_cons_self⟩
      · exact ih (List.mem_cons_of_mem _ h)

/-- A line has no line feed. -/
theorem not_mem_of_mem_splitLines {text line : String} (h : line ∈ splitLines text) :
    '\n' ∉ line.toList := by
  obtain ⟨piece, hp, rfl⟩ := List.mem_map.mp h
  rw [String.toList_ofList]
  exact not_mem_of_mem_splitOn hp

/-- Every text has a line. -/
theorem splitLines_ne_nil (text : String) : splitLines text ≠ [] := by
  unfold splitLines
  rw [ne_eq, List.map_eq_nil_iff]
  exact List.splitOn_ne_nil _ _

theorem joinLines_splitLines (text : String) : joinLines (splitLines text) = text := by
  simp only [joinLines, splitLines, List.map_map, Function.comp_def, String.toList_ofList,
    List.map_id']
  rw [List.intercalate_splitOn, String.ofList_toList]

theorem splitLines_joinLines {lines : List String} (hne : lines ≠ [])
    (hfeed : ∀ line ∈ lines, '\n' ∉ line.toList) : splitLines (joinLines lines) = lines := by
  have hpieces : ∀ piece ∈ lines.map String.toList, '\n' ∉ piece := by
    intro piece hp
    obtain ⟨line, hline, rfl⟩ := List.mem_map.mp hp
    exact hfeed line hline
  unfold splitLines joinLines
  rw [String.toList_ofList, List.splitOn_intercalate '\n' hpieces (by simpa using hne)]
  simp only [List.map_map, Function.comp_def, String.ofList_toList, List.map_id']

/-! ## Texts put together -/

theorem joinLines_cons (line : String) {lines : List String} (hne : lines ≠ []) :
    joinLines (line :: lines) = line ++ "\n" ++ joinLines lines := by
  refine String.toList_injective ?_
  have hmap : lines.map String.toList ≠ [] := by simpa using hne
  simp [joinLines, List.intercalate_cons_of_ne_nil hmap]

/-- A text is as long as each of its lines and has a line feed for each line but one. -/
theorem length_joinLines : ∀ {lines : List String}, lines ≠ [] →
    (∀ line ∈ lines, line.length ≤ (joinLines lines).length) ∧
      lines.length ≤ (joinLines lines).length + 1
  | [line], _ => by simp [joinLines]
  | line :: next :: rest, _ => by
    obtain ⟨hline, hlength⟩ := length_joinLines (List.cons_ne_nil next rest)
    rw [joinLines_cons line (List.cons_ne_nil next rest), String.length_append,
      String.length_append, List.length_cons]
    have hfeed : "\n".length = 1 := rfl
    refine ⟨List.forall_mem_cons.mpr ⟨by omega, fun l hl => ?_⟩, by omega⟩
    have hl' := hline l hl
    omega

theorem joinLines_append {lines more : List String} (hne : lines ≠ []) (hmore : more ≠ []) :
    joinLines (lines ++ more) = joinLines lines ++ "\n" ++ joinLines more := by
  induction lines with
  | nil => exact absurd rfl hne
  | cons line rest ih =>
    by_cases hrest : rest = []
    · rw [hrest, List.singleton_append, joinLines_cons line hmore]
      simp [joinLines]
    · rw [List.cons_append, joinLines_cons line (by simp [hrest]), joinLines_cons line hrest,
        ih hrest]
      simp only [String.append_assoc]

theorem splitLines_append (t₁ t₂ : String) :
    splitLines (t₁ ++ "\n" ++ t₂) = splitLines t₁ ++ splitLines t₂ := by
  have hjoin := joinLines_append (splitLines_ne_nil t₁) (splitLines_ne_nil t₂)
  rw [joinLines_splitLines, joinLines_splitLines] at hjoin
  rw [← hjoin]
  refine splitLines_joinLines (by simp [splitLines_ne_nil]) fun line hline => ?_
  rcases List.mem_append.mp hline with h | h
  · exact not_mem_of_mem_splitLines h
  · exact not_mem_of_mem_splitLines h

end LintFixture.Text
