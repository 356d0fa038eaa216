import LintFixture.Proofs.Reading
import LintFixture.Storage.Search

/-!
# Searching directories

A node lies at names below another one (`FileNode.At`); a tree is unambiguous if no directory has
two entries of one name, and then names lead to one node. The directories that are gone through
below a node are those at and below it, each under its path.

A search takes one step after the other. `Visits` follows it from place to place, so what it
`Leads` to and where it `Stumbles` are told without a word of how places are gathered:

* `finds_of_select`: what is found are places that the search leads to, one under every path.
* `exists_select_eq_error_iff`: a search fails where it comes to a place at which a name that
  stands for itself is too long to be looked up.
-/

namespace LintFixture

/-! ## Trees -/

namespace FileNode

/-- A node lies at names below another one. -/
inductive At : FileNode → List Name → FileNode → Prop
  | here {node : FileNode} : At node [] node
  | entry {entries : List (Name × FileNode)} {name : Name} {next node : FileNode}
    {names : List Name} : (name, next) ∈ entries → At next names node →
    At (.directory entries) (name :: names) node

/-- No directory of a tree has two entries with one name. -/
def Unambiguous (tree : FileNode) : Prop :=
  ∀ names entries, tree.At names (.directory entries) → (entries.map (·.1)).Nodup

variable {tree node a b : FileNode} {names : List Name}

theorem At.concat {entries : List (Name × FileNode)} {name : Name}
    (h : tree.At names (.directory entries)) (hmem : (name, node) ∈ entries) :
    tree.At (names ++ [name]) node := by
  generalize hdir : FileNode.directory entries = dir at h
  induction h with
  | here =>
    subst hdir
    exact .entry hmem .here
  | entry hname _ ih => exact .entry hname (ih hdir)

theorem At.of_concat {name : Name} (h : tree.At (names ++ [name]) node) :
    ∃ entries, tree.At names (.directory entries) ∧ (name, node) ∈ entries := by
  induction names generalizing tree with
  | nil =>
    obtain _ | ⟨hmem, hrest⟩ := h
    cases hrest
    exact ⟨_, .here, hmem⟩
  | cons first names ih =>
    obtain _ | ⟨hmem, hrest⟩ := h
    obtain ⟨entries, hdir, hname⟩ := ih hrest
    exact ⟨entries, .entry hmem hdir, hname⟩

/-- In an unambiguous tree names lead to one node. -/
theorem At.unique (h : tree.Unambiguous) (ha : tree.At names a) (hb : tree.At names b) :
    a = b := by
  induction ha with
  | here =>
    cases hb
    rfl
  | entry hmem _ ih =>
    obtain _ | ⟨hmem', hb⟩ := hb
    have hnodup := h [] _ .here
    obtain rfl := (Prod.mk.inj (List.inj_on_of_nodup_map hnodup hmem hmem' rfl)).2
    exact ih (fun names entries hat => h (_ :: names) entries (.entry hmem hat)) hb

/-- A directory is unambiguous where its names differ and its nodes are. -/
theorem unambiguous_directory_iff {entries : List (Name × FileNode)} :
    (directory entries).Unambiguous ↔
      (entries.map (·.1)).Nodup ∧ ∀ e ∈ entries, e.2.Unambiguous := by
  constructor
  · exact fun h => ⟨h [] _ .here, fun e he names below hat =>
      h (e.1 :: names) below (.entry he hat)⟩
  · rintro ⟨hnodup, hrest⟩ names below hat
    obtain _ | ⟨hentry, hat⟩ := hat
    · exact hnodup
    · exact hrest _ hentry _ _ hat

theorem unambiguous_file (bytes : List UInt8) : (file bytes).Unambiguous := by
  rintro names entries ⟨⟩

mutual

/-- The test for unambiguous trees goes through all of their directories. -/
theorem isUnambiguous_iff : ∀ {tree : FileNode}, tree.isUnambiguous = true ↔ tree.Unambiguous
  | .file bytes => iff_of_true (by rw [isUnambiguous]) (unambiguous_file bytes)
  | .directory entries => by
    rw [isUnambiguous, areUnambiguous_iff, unambiguous_directory_iff]

theorem areUnambiguous_iff : ∀ {entries : List (Name × FileNode)},
    areUnambiguous entries = true ↔
      (entries.map (·.1)).Nodup ∧ ∀ e ∈ entries, e.2.Unambiguous
  | [] => by simp [areUnambiguous]
  | (name, node) :: rest => by
    have hnew : (rest.lookup name).isNone = true ↔ name ∉ rest.map (·.1) := by
      simp only [Option.isNone_iff_eq_none, List.lookup_eq_none_iff, bne_iff_ne, List.mem_map,
        not_exists, not_and]
      exact forall₂_congr fun e _ => ne_comm
    rw [areUnambiguous, Bool.and_eq_true, Bool.and_eq_true, hnew, isUnambiguous_iff,
      areUnambiguous_iff, List.map_cons, List.nodup_cons, List.forall_mem_cons]
    tauto

end

end FileNode

/-- The path at names below a directory. -/
def Path.below (directory : Path) (names : List Name) : Path :=
  ⟨directory.anchor, directory.names ++ names⟩

namespace Path

variable {p : Path} {names names' : List Name} {name : Name}

@[simp] theorem below_nil : p.below [] = p := by
  simp [below]

theorem below_child : (p.below names).child name = p.below (names ++ [name]) := by
  simp [below, child]

theorem child_below : (p.child name).below names = p.below (name :: names) := by
  simp [below, child]

theorem below_inj : p.below names = p.below names' ↔ names = names' := by
  simp [below]

end Path

namespace Place

/-! ## The directories of a tree -/

theorem mem_directoriesIn_iff {q : Place} {path : Path} {above : List FileNode} :
    ∀ {entries : List (Name × FileNode)}, q ∈ directoriesIn path above entries ↔
      ∃ e ∈ entries, q ∈ directoriesAt (path.child e.1) above e.2
  | [] => by simp [directoriesIn]
  | (name, node) :: rest => by
    rw [directoriesIn, List.mem_append, mem_directoriesIn_iff]
    simp

/-- Every directory at or below a node is among those that are gone through. -/
theorem exists_mem_directoriesAt {node dir : FileNode} {names : List Name}
    (h : node.At names dir) (hdir : dir.isDirectory = true) (path : Path)
    (above : List FileNode) :
    ∃ q ∈ directoriesAt path above node, q.path = path.below names ∧ q.node = dir := by
  induction h generalizing path above with
  | @here node =>
    cases node with
    | directory entries => exact ⟨⟨path, above, _⟩, by simp [directoriesAt], by simp, rfl⟩
    | _ => cases hdir
  | @entry entries name next node names hmem _ ih =>
    obtain ⟨q, hq, hpath, hnode⟩ := ih hdir (path.child name) (.directory entries :: above)
    refine ⟨q, ?_, by rw [hpath, Path.child_below], hnode⟩
    rw [directoriesAt]
    exact List.mem_cons_of_mem _ (mem_directoriesIn_iff.mpr ⟨_, hmem, hq⟩)

mutual

/-- What is gone through are the directories at and below a node, each under its path. -/
theorem at_of_mem_directoriesAt {q : Place} : ∀ {node : FileNode} {path : Path}
    {above : List FileNode}, q ∈ directoriesAt path above node →
    ∃ names, q.path = path.below names ∧ node.At names q.node ∧ q.node.isDirectory = true
  | .file _, _, _, h => absurd h (by simp [directoriesAt])
  | .directory entries, path, above, h => by
    rw [directoriesAt] at h
    obtain rfl | h := List.mem_cons.mp h
    · exact ⟨[], by simp, .here, rfl⟩
    · obtain ⟨e, he, names, hpath, hat, hdir⟩ := at_of_mem_directoriesIn h
      exact ⟨e.1 :: names, by rw [hpath, Path.child_below], .entry he hat, hdir⟩

theorem at_of_mem_directoriesIn {q : Place} : ∀ {entries : List (Name × FileNode)} {path : Path}
    {above : List FileNode}, q ∈ directoriesIn path above entries →
    ∃ e ∈ entries, ∃ names, q.path = (path.child e.1).below names ∧ e.2.At names q.node ∧
      q.node.isDirectory = true
  | [], _, _, h => absurd h (by simp [directoriesIn])
  | (name, node) :: rest, path, above, h => by
    rw [directoriesIn] at h
    obtain h | h := List.mem_append.mp h
    · exact ⟨_, List.mem_cons_self, at_of_mem_directoriesAt h⟩
    · obtain ⟨e, he, hplace⟩ := at_of_mem_directoriesIn h
      exact ⟨e, List.mem_cons_of_mem _ he, hplace⟩

end

/-! ## Looking a name up -/

/-- A name cannot be looked up at a place: it is too long for a directory, or the path for it. -/
def TooLong (p : Place) (name : Name) : Prop :=
  p.node.isDirectory = true ∧ FileNode.longestName < name.text.utf8ByteSize ∨
    FileSystem.longestPath < (p.path.child name).text.utf8ByteSize

end Place

namespace SearchStep

variable {p q r : Place} {ps found : List Place} {step : SearchStep}
  {steps rest left : List SearchStep} {name : Name} {fault : Fault}

theorem checkSize_eq_error_iff : checkSize p name = .error fault ↔
    p.TooLong name ∧ fault = .path .nameTooLong (p.path.child name).text := by
  simp only [checkSize, Bool.or_eq_true, Bool.and_eq_true, decide_eq_true_iff, Place.TooLong]
  split
  · rename_i h
    simp only [Except.error.injEq, h, true_and]
    exact eq_comm
  · rename_i h
    simp only [reduceCtorEq, h, false_and]

/-! ## Several searches -/

section SelectAll

variable {select : Place → Except Fault (List Place)}

theorem selectAll_cons_eq_ok_iff : selectAll select (p :: ps) = .ok found ↔
    ∃ part later, select p = .ok part ∧ selectAll select ps = .ok later ∧
      found = part ++ later.filter fun q => !part.any (·.path = q.path) := by
  rw [selectAll]
  cases select p with
  | error fault => simp
  | ok part =>
    simp only [map_eq_ok_iff, Except.ok.injEq]
    constructor
    · rintro ⟨later, hlater, rfl⟩
      exact ⟨part, later, rfl, hlater, rfl⟩
    · rintro ⟨_, later, rfl, hlater, rfl⟩
      exact ⟨later, hlater, rfl⟩

/-- Several searches fail where one of them does. -/
theorem exists_selectAll_eq_error_iff : ∀ {ps : List Place},
    (∃ fault, selectAll select ps = .error fault) ↔ ∃ p ∈ ps, ∃ fault, select p = .error fault
  | [] => by simp [selectAll]
  | p :: ps => by
    rw [selectAll]
    cases hp : select p with
    | error fault => simp [hp]
    | ok part =>
      simp only [map_eq_error_iff, exists_selectAll_eq_error_iff, List.mem_cons,
        exists_eq_or_imp, hp, reduceCtorEq, exists_false, false_or]

theorem exists_of_selectAll_eq_error : ∀ {ps : List Place},
    selectAll select ps = .error fault → ∃ p ∈ ps, select p = .error fault
  | p :: ps, h => by
    rw [selectAll] at h
    cases hp : select p with
    | error cause =>
      rw [hp] at h
      exact ⟨p, List.mem_cons_self, hp.trans h⟩
    | ok part =>
      rw [hp] at h
      obtain ⟨q, hq, hfault⟩ := exists_of_selectAll_eq_error (map_eq_error_iff.mp h)
      exact ⟨q, List.mem_cons_of_mem _ hq, hfault⟩

theorem exists_of_mem_of_selectAll (h : selectAll select ps = .ok found) (hp : p ∈ ps) :
    ∃ part, select p = .ok part := by
  cases hselect : select p with
  | ok part => exact ⟨part, rfl⟩
  | error fault =>
    obtain ⟨cause, hcause⟩ := exists_selectAll_eq_error_iff.mpr ⟨p, hp, fault, hselect⟩
    cases h.symm.trans hcause

theorem exists_of_mem_selectAll : ∀ {ps found : List Place}, selectAll select ps = .ok found →
    q ∈ found → ∃ p ∈ ps, ∃ part, select p = .ok part ∧ q ∈ part
  | [], _, h, hq => by
    cases h
    cases hq
  | p :: ps, found, h, hq => by
    obtain ⟨part, later, hpart, hlater, rfl⟩ := selectAll_cons_eq_ok_iff.mp h
    obtain hq | hq := List.mem_append.mp hq
    · exact ⟨p, List.mem_cons_self, part, hpart, hq⟩
    · obtain ⟨p', hp', hfound⟩ := exists_of_mem_selectAll hlater (List.mem_filter.mp hq).1
      exact ⟨p', List.mem_cons_of_mem _ hp', hfound⟩

/-- What a search finds is found by several ones with it, if not under the same place. -/
theorem exists_mem_selectAll : ∀ {ps found part : List Place}, selectAll select ps = .ok found →
    p ∈ ps → select p = .ok part → q ∈ part → ∃ q' ∈ found, q'.path = q.path
  | p' :: ps, found, part, h, hp, hpart, hq => by
    obtain ⟨first, later, hfirst, hlater, rfl⟩ := selectAll_cons_eq_ok_iff.mp h
    obtain rfl | hp := List.mem_cons.mp hp
    · cases hfirst.symm.trans hpart
      exact ⟨q, List.mem_append_left _ hq, rfl⟩
    · obtain ⟨q', hq', hpath⟩ := exists_mem_selectAll hlater hp hpart hq
      by_cases hseen : ∃ q'' ∈ first, q''.path = q'.path
      · obtain ⟨q'', hq'', hpath'⟩ := hseen
        exact ⟨q'', List.mem_append_left _ hq'', hpath'.trans hpath⟩
      · refine ⟨q', List.mem_append_right _ (List.mem_filter.mpr ⟨hq', ?_⟩), hpath⟩
        simpa using hseen

/-- No path is found twice, if none is by a single search. -/
theorem nodup_selectAll : ∀ {ps found : List Place}, selectAll select ps = .ok found →
    (∀ p ∈ ps, ∀ part, select p = .ok part → (part.map (·.path)).Nodup) →
    (found.map (·.path)).Nodup
  | [], _, h, _ => by
    cases h
    exact List.nodup_nil
  | p :: ps, found, h, hparts => by
    obtain ⟨part, later, hpart, hlater, rfl⟩ := selectAll_cons_eq_ok_iff.mp h
    obtain ⟨hfirst, hrest⟩ := List.forall_mem_cons.mp hparts
    rw [List.map_append, List.nodup_append]
    refine ⟨hfirst part hpart, ?_, ?_⟩
    · exact (nodup_selectAll hlater hrest).sublist (List.filter_sublist.map _)
    · intro path hpath path' hpath' heq
      subst heq
      obtain ⟨q, hq, rfl⟩ := List.mem_map.mp hpath
      obtain ⟨q', hq', heq⟩ := List.mem_map.mp hpath'
      have hnew := (List.mem_filter.mp hq').2
      simp only [Bool.not_eq_true', List.any_eq_false, decide_eq_true_iff] at hnew
      exact hnew q hq heq.symm

end SelectAll

/-! ## One step after the other -/

/-- The places that one step of a search leads to. Before a further step only directories
count. -/
def nexts (rest : List SearchStep) (p : Place) : SearchStep → Except Fault (List Place)
  | .deep => .ok (Place.directoriesAt p.path p.above p.node)
  | .matching pattern =>
    .ok ((p.node.entries.filter fun e =>
      matchesPattern pattern e.1.text.toList && (rest.isEmpty || e.2.isDirectory)).map
        fun e => p.enter e.1 e.2)
  | .exactly name =>
    (checkSize p name).map fun _ =>
      (p.child? name).toList.filter fun q => rest.isEmpty || q.node.isDirectory
  | .itself => .ok [p]

theorem selectAll_singleton (select : Place → Except Fault (List Place)) (p : Place) :
    selectAll select [p] = select p := by
  rw [selectAll]
  cases select p with
  | error fault => rfl
  | ok part => simp [selectAll, Except.map]

/-- A search goes on from all places of its first step. -/
theorem select_cons (hstep : step ≠ .itself) :
    select (step :: rest) p = nexts rest p step >>= selectAll (select rest) := by
  cases step with
  | itself => exact absurd rfl hstep
  | deep => rfl
  | matching pattern => rfl
  | exactly name =>
    rw [select, nexts]
    cases checkSize p name with
    | error fault => rfl
    | ok _ =>
      cases p.child? name with
      | none => rfl
      | some q =>
        dsimp only [Except.map, Option.toList, bind, Except.bind]
        rw [List.filter_singleton]
        cases rest.isEmpty || q.node.isDirectory with
        | false => rfl
        | true => exact (selectAll_singleton _ q).symm

/-- A search for steps at a place comes to another place with steps that are left. -/
inductive Visits : List SearchStep → Place → List SearchStep → Place → Prop
  | here {steps : List SearchStep} {p : Place} : Visits steps p steps p
  | next {step : SearchStep} {rest left : List SearchStep} {p q r : Place} {qs : List Place} :
    step ≠ .itself → nexts rest p step = .ok qs → q ∈ qs → Visits rest q left r →
    Visits (step :: rest) p left r

/-- A search leads to a place: nothing is left to do there. -/
def Leads (steps : List SearchStep) (p q : Place) : Prop :=
  ∃ left, Visits steps p left q ∧ (left = [] ∨ left.head? = some .itself)

/-- What a search finds: the places that it leads to, and under every path one of them. -/
structure Finds (steps : List SearchStep) (p : Place) (found : List Place) : Prop where
  leads : ∀ q ∈ found, Leads steps p q
  complete : ∀ q, Leads steps p q → ∃ q' ∈ found, q'.path = q.path
  nodup : (found.map (·.path)).Nodup

theorem leads_nil_iff : Leads [] p q ↔ q = p := by
  constructor
  · rintro ⟨left, ⟨⟩, -⟩
    rfl
  · rintro rfl
    exact ⟨[], .here, Or.inl rfl⟩

theorem leads_itself_iff : Leads (.itself :: rest) p q ↔ q = p := by
  constructor
  · rintro ⟨left, hvisits, -⟩
    cases hvisits with
    | here => rfl
    | next hstep => exact absurd rfl hstep
  · rintro rfl
    exact ⟨_, .here, Or.inr rfl⟩

theorem leads_cons_iff (hstep : step ≠ .itself) : Leads (step :: rest) p r ↔
    ∃ qs, nexts rest p step = .ok qs ∧ ∃ q ∈ qs, Leads rest q r := by
  constructor
  · rintro ⟨left, hvisits, hleft⟩
    cases hvisits with
    | here => simp [hstep] at hleft
    | next _ hqs hq hrest => exact ⟨_, hqs, _, hq, left, hrest, hleft⟩
  · rintro ⟨qs, hqs, q, hq, left, hrest, hleft⟩
    exact ⟨left, .next hstep hqs hq hrest, hleft⟩

/-- What a search finds at a single place. -/
theorem finds_singleton (h : ∀ q, Leads steps p q ↔ q = p) : Finds steps p [p] where
  leads q hq := (h q).mpr (List.mem_singleton.mp hq)
  complete q hq := ⟨p, List.mem_singleton_self p, by rw [(h q).mp hq]⟩
  nodup := List.nodup_singleton _

/-- **A search finds what it leads to**, and nothing twice. -/
theorem finds_of_select : ∀ {steps : List SearchStep} {p : Place} {found : List Place},
    select steps p = .ok found → Finds steps p found
  | [], p, found, h => by
    cases h
    exact finds_singleton fun q => leads_nil_iff
  | step :: rest, p, found, h => by
    by_cases hstep : step = .itself
    · subst hstep
      cases h
      exact finds_singleton fun q => leads_itself_iff
    · rw [select_cons hstep, bind_eq_ok_iff] at h
      obtain ⟨qs, hqs, hfound⟩ := h
      refine ⟨fun r hr => ?_, fun r hr => ?_, ?_⟩
      · obtain ⟨q, hq, part, hpart, hrpart⟩ := exists_of_mem_selectAll hfound hr
        exact (leads_cons_iff hstep).mpr ⟨qs, hqs, q, hq, (finds_of_select hpart).leads r hrpart⟩
      · obtain ⟨_, hqs', q, hq, hleads⟩ := (leads_cons_iff hstep).mp hr
        cases hqs.symm.trans hqs'
        obtain ⟨part, hpart⟩ := exists_of_mem_of_selectAll hfound hq
        obtain ⟨r', hr', hpath⟩ := (finds_of_select hpart).complete r hleads
        obtain ⟨r'', hr'', hpath'⟩ := exists_mem_selectAll hfound hq hpart hr'
        exact ⟨r'', hr'', hpath'.trans hpath⟩
      · exact nodup_selectAll hfound fun q _ part hpart => (finds_of_select hpart).nodup

/-- A fault on the way: at a place that a search comes to, its next step fails. -/
def Stumbles (steps : List SearchStep) (p : Place) : Prop :=
  ∃ name rest q, Visits steps p (.exactly name :: rest) q ∧ q.TooLong name

theorem nexts_eq_error_iff : nexts rest p step = .error fault ↔
    ∃ name, step = .exactly name ∧ p.TooLong name ∧
      fault = .path .nameTooLong (p.path.child name).text := by
  cases step with
  | exactly name => simp [nexts, map_eq_error_iff, checkSize_eq_error_iff]
  | _ => simp [nexts]

theorem stumbles_cons_iff : Stumbles (step :: rest) p ↔
    (∃ name, step = .exactly name ∧ p.TooLong name) ∨
      step ≠ .itself ∧ ∃ qs, nexts rest p step = .ok qs ∧ ∃ q ∈ qs, Stumbles rest q := by
  constructor
  · rintro ⟨name, left, r, hvisits, hlong⟩
    cases hvisits with
    | here => exact Or.inl ⟨name, rfl, hlong⟩
    | next hstep hqs hq hrest => exact Or.inr ⟨hstep, _, hqs, _, hq, name, left, r, hrest, hlong⟩
  · rintro (⟨name, rfl, hlong⟩ | ⟨hstep, qs, hqs, q, hq, name, left, r, hrest, hlong⟩)
    · exact ⟨name, rest, p, .here, hlong⟩
    · exact ⟨name, left, r, .next hstep hqs hq hrest, hlong⟩

/-- **A search fails** where it comes to a place at which a name cannot be looked up. -/
theorem exists_select_eq_error_iff : ∀ {steps : List SearchStep} {p : Place},
    (∃ fault, select steps p = .error fault) ↔ Stumbles steps p
  | [], p => by
    refine iff_of_false (by simp [select]) ?_
    rintro ⟨name, rest, q, hvisits, -⟩
    cases hvisits
  | step :: rest, p => by
    rw [stumbles_cons_iff]
    by_cases hstep : step = .itself
    · subst hstep
      simp [select]
    · rw [select_cons hstep]
      cases hnexts : nexts rest p step with
      | error fault =>
        obtain ⟨name, rfl, hlong, -⟩ := nexts_eq_error_iff.mp hnexts
        exact iff_of_true ⟨fault, rfl⟩ (Or.inl ⟨name, rfl, hlong⟩)
      | ok qs =>
        have hshort : ¬ ∃ name, step = .exactly name ∧ p.TooLong name := by
          rintro ⟨name, hname, hlong⟩
          cases hnexts.symm.trans (nexts_eq_error_iff.mpr ⟨name, hname, hlong, rfl⟩)
        have hrest : (∃ fault, selectAll (select rest) qs = .error fault) ↔
            ∃ q ∈ qs, Stumbles rest q := by
          rw [exists_selectAll_eq_error_iff]
          simp only [exists_select_eq_error_iff]
        simpa [hshort, hstep, bind, Except.bind] using hrest

/-- The faults of a search are those of too long names. -/
theorem nameTooLong_of_select : ∀ {steps : List SearchStep} {p : Place},
    select steps p = .error fault → ∃ path, fault = .path .nameTooLong path
  | [], p, h => by cases h
  | step :: rest, p, h => by
    by_cases hstep : step = .itself
    · subst hstep
      cases h
    · rw [select_cons hstep] at h
      cases hnexts : nexts rest p step with
      | error cause =>
        rw [hnexts] at h
        cases h
        obtain ⟨name, -, -, rfl⟩ := nexts_eq_error_iff.mp hnexts
        exact ⟨_, rfl⟩
      | ok qs =>
        rw [hnexts] at h
        obtain ⟨q, -, hq⟩ := exists_of_selectAll_eq_error h
        exact nameTooLong_of_select hq

theorem Visits.suffix (h : Visits steps p left q) : left <:+ steps := by
  induction h with
  | here => exact List.suffix_refl _
  | next _ _ _ _ ih => exact ih.trans (List.suffix_cons _ _)

/-- A search without names that stand for themselves does not fail. -/
theorem not_stumbles (h : ∀ name, .exactly name ∉ steps) :
    ¬ Stumbles steps p := by
  rintro ⟨name, rest, q, hvisits, -⟩
  exact h name (hvisits.suffix.subset List.mem_cons_self)

theorem exists_select (h : ∀ name, .exactly name ∉ steps) :
    ∃ found, select steps p = .ok found := by
  cases hselect : select steps p with
  | ok found => exact ⟨found, rfl⟩
  | error fault => exact (not_stumbles h (exists_select_eq_error_iff.mp ⟨fault, hselect⟩)).elim

end SearchStep

end LintFixture
