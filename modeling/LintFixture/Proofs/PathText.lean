import LintFixture.Proofs.Lines
import LintFixture.Storage.Path

/-!
# Paths and their texts

Of a path nothing is lost where it is written: `ofText_text` reads it back, so two paths with one
text are equal (`text_inj`). The anchor is read back because no name begins with a slash, and the
names because cutting at slashes undoes joining with them.

A path that is shortened to what is left of it below a directory is had again by joining the two
(`relativeTo?_eq_some_iff`).
-/

namespace LintFixture

namespace Name

variable {name other : Name} {s : String}

theorem text_inj (h : name.text = other.text) : name = other := by
  cases name
  cases other
  cases h
  rfl

theorem text_ne_empty (name : Name) : name.text ≠ "" := by
  have hvalid := name.valid
  simp only [isName, Bool.and_eq_true, bne_iff_ne] at hvalid
  exact hvalid.1.1

theorem slash_not_mem (name : Name) : '/' ∉ name.text.toList := by
  have hvalid := name.valid
  simp only [isName, Bool.and_eq_true, Bool.not_eq_true', List.contains_eq_mem,
    decide_eq_false_iff_not] at hvalid
  exact hvalid.2

theorem ofText?_eq_some_iff : ofText? s = some name ↔ name.text = s := by
  unfold ofText?
  split
  · rw [Option.some_inj]
    exact ⟨fun h => h ▸ rfl, fun h => text_inj h.symm⟩
  · rename_i hinvalid
    exact iff_of_false nofun fun h => hinvalid (h ▸ name.valid)

end Name

namespace Path

theorem namesOf_slash (cs : List Char) : namesOf ('/' :: cs) = namesOf cs := by
  have hcut : ('/' :: cs).splitOn '/' = [] :: cs.splitOn '/' := by
    rw [List.splitOn_cons_eq_if_modifyHead, if_pos (beq_self_eq_true '/')]
  rw [namesOf, namesOf, hcut]
  rfl

/-- The anchor of a text is what stands before its names. -/
theorem ofText_append (anchor : Anchor) {s : String} (h : s.toList.head? ≠ some '/') :
    ofText (anchor.text ++ s) = ⟨anchor, namesOf s.toList⟩ := by
  have hnames : namesOf (anchor.text ++ s).toList = namesOf s.toList := by
    cases anchor <;> simp [Anchor.text, namesOf_slash]
  unfold ofText
  rw [hnames]
  cases hs : s.toList with
  | nil => cases anchor <;> simp [Anchor.text, hs]
  | cons c cs =>
    have hc : c ≠ '/' := fun e => h (by rw [hs, e]; rfl)
    cases anchor <;> simp [Anchor.text, hs, hc]

/-- Names that are joined with slashes are cut at them again. -/
theorem namesOf_intercalate (names : List Name) :
    namesOf (String.intercalate "/" (names.map (·.text))).toList = names := by
  by_cases hne : names = []
  · rw [hne]
    rfl
  have hpieces : ∀ piece ∈ (names.map (·.text)).map String.toList, '/' ∉ piece := by
    simp only [List.map_map, List.forall_mem_map]
    exact fun name _ => name.slash_not_mem
  have hcut : (String.intercalate "/" (names.map (·.text))).toList.splitOn '/' =
      (names.map (·.text)).map String.toList := by
    rw [String.toList_intercalate]
    exact List.splitOn_intercalate '/' hpieces (by simpa using hne)
  have hread : ∀ name : Name, Name.ofText? name.text = some name := fun name =>
    Name.ofText?_eq_some_iff.mpr rfl
  rw [namesOf, hcut, List.map_map, List.filterMap_map]
  simp [Function.comp_def, hread]

/-- What is joined with slashes does not begin with one. -/
theorem head?_intercalate (names : List Name) :
    (String.intercalate "/" (names.map (·.text))).toList.head? ≠ some '/' := by
  cases names with
  | nil => exact fun e => Option.some_ne_none _ e.symm
  | cons name rest =>
    have hchars : name.text.toList ≠ [] := fun e =>
      name.text_ne_empty (String.toList_eq_nil_iff.mp e)
    obtain ⟨c, cs, hname⟩ := List.exists_cons_of_ne_nil hchars
    have hc : c ≠ '/' := fun e =>
      name.slash_not_mem (by rw [hname, e]; exact List.mem_cons_self)
    have hhead :
        (String.intercalate "/" ((name :: rest).map (·.text))).toList.head? = some c := by
      cases rest <;> simp [String.intercalate_cons_cons, hname]
    rw [hhead]
    exact fun e => hc (Option.some.inj e)

/-- **A path is read back from its text.** -/
theorem ofText_text (p : Path) : ofText p.text = p := by
  obtain ⟨anchor, names⟩ := p
  unfold text parts
  dsimp only
  split
  · rename_i hempty
    obtain ⟨rfl, rfl⟩ := hempty
    rfl
  · rw [ofText_append anchor (head?_intercalate names), namesOf_intercalate]

theorem text_inj {p q : Path} (h : p.text = q.text) : p = q := by
  rw [← ofText_text p, ← ofText_text q, h]

theorem parts_inj {p q : Path} (hanchor : p.anchor = q.anchor) (h : p.parts = q.parts) :
    p = q := by
  obtain ⟨anchor, names⟩ := p
  obtain ⟨anchor', names'⟩ := q
  have hnames : names = names' :=
    (List.map_inj_right fun _ _ heq => Name.text_inj heq).mp h
  rw [Path.mk.injEq]
  exact ⟨hanchor, hnames⟩

/-! ## Names at the end, and shortened paths -/

theorem name_child (directory : Path) (name : Name) : (directory.child name).name = name.text := by
  rw [Path.name, parts, child, List.map_append, List.map_singleton, List.getLastD_concat]

/-- A path is what is left of it below a directory, seen from that directory. -/
theorem relativeTo?_eq_some_iff {top p short : Path} :
    top.relativeTo? p = some short ↔ short.anchor = .here ∧ top.join short = p := by
  obtain ⟨anchor, names⟩ := p
  obtain ⟨anchor', names'⟩ := short
  unfold relativeTo?
  constructor
  · intro h
    split at h
    · rename_i hbelow
      obtain ⟨rfl, rest, rfl⟩ := hbelow
      cases h
      simp [join, isAbsolute]
    · cases h
  · rintro ⟨rfl, hjoin⟩
    obtain ⟨rfl, rfl⟩ := Path.mk.inj hjoin
    simp [List.prefix_append]

end Path

end LintFixture
