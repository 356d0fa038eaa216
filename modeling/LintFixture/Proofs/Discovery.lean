import LintFixture.Proofs.Batches
import LintFixture.Proofs.Linting
import LintFixture.Proofs.Loading
import LintFixture.Proofs.NamePatterns
import LintFixture.Proofs.Searching
import LintFixture.Proofs.Spellings

/-!
# Discovering fixtures

The fixtures of a directory are what a search for a star and the suffix of the configuration
finds. For a suffix without pattern characters and slashes these are the files at any depth whose
name ends in the suffix (`discoverFixtures_exact`): a search finds what it leads to, and no two of
its places share a path. A tree has one node at each path, so the place that is kept for a path is
that of the file there.

A suffix only has to start with a dot, and is made part of the pattern as it is. What that comes to
is `load_searchable`: a directory with a configuration that is accepted can be set up exactly where
the search for its fixtures comes to an end, and what it ends with otherwise is no fault of a
configuration.
-/

namespace LintFixture

namespace SearchStep

/-! ## Searching for a name at any depth -/

/-- A search for entries with a matching name at any depth. -/
theorem leads_deep_matching_iff {p q : Place} {name : List Char} :
    Leads [.deep, .matching name] p q ↔
      ∃ r ∈ Place.directoriesAt p.path p.above p.node, ∃ e ∈ r.node.entries,
        matchesPattern name e.1.text.toList = true ∧ q = r.enter e.1 e.2 := by
  have hdeep : SearchStep.deep ≠ .itself := nofun
  have hmatching : SearchStep.matching name ≠ .itself := nofun
  simp only [leads_cons_iff hdeep, leads_cons_iff hmatching, leads_nil_iff, nexts,
    Except.ok.injEq, exists_eq_left', List.isEmpty_nil, Bool.true_or, Bool.and_true, List.mem_map,
    List.mem_filter]
  constructor
  · rintro ⟨r, hr, _, ⟨e, he, rfl⟩, hq⟩
    exact ⟨r, hr, e, he.1, he.2, hq⟩
  · rintro ⟨r, hr, e, he, hmatch, hq⟩
    exact ⟨r, hr, _, ⟨e, ⟨he, hmatch⟩, rfl⟩, hq⟩

section Matching

variable {p q : Place} {pattern : List Char} {names : List Name} {node : FileNode}

theorem at_of_leads (h : Leads [.deep, .matching pattern] p q) :
    ∃ names, p.node.At names q.node ∧ q.path = p.path.below names ∧
      matchesPattern pattern q.path.name.toList = true := by
  obtain ⟨r, hr, ⟨name, node⟩, hentry, hmatch, rfl⟩ := leads_deep_matching_iff.mp h
  obtain ⟨names, hpath, hat, hdir⟩ := Place.at_of_mem_directoriesAt hr
  obtain ⟨rpath, rabove, rnode⟩ := r
  dsimp only at hpath hat hdir hentry
  cases rnode with
  | directory entries =>
    refine ⟨names ++ [name], hat.concat hentry, ?_, ?_⟩
    · rw [Place.enter, hpath, Path.below_child]
    · rwa [Place.enter, Path.name_child]
  | _ => cases hdir

theorem exists_leads {name : Name} (hat : p.node.At (names ++ [name]) node)
    (hmatch : matchesPattern pattern name.text.toList = true) :
    ∃ q, Leads [.deep, .matching pattern] p q ∧ q.path = p.path.below (names ++ [name]) ∧
      q.node = node := by
  obtain ⟨entries, hdir, hentry⟩ := hat.of_concat
  obtain ⟨r, hr, hpath, hnode⟩ := Place.exists_mem_directoriesAt hdir rfl p.path p.above
  refine ⟨r.enter name node, leads_deep_matching_iff.mpr ⟨r, hr, (name, node), ?_, hmatch, rfl⟩,
    ?_, rfl⟩
  · rwa [hnode]
  · rw [Place.enter, hpath, Path.below_child]

end Matching

end SearchStep

variable {fs : FileSystem} {directory : Path} {tree : FileNode} {suffix : String}

/-! ## Searching a directory -/

/-- What is found at the end of names is part of an unambiguous tree as well. -/
theorem FileNode.unambiguous_of_follow {above : List FileNode} {here : FileNode} {names : List Name}
    (habove : ∀ up ∈ above, up.Unambiguous) (hhere : here.Unambiguous)
    (h : follow above here names = .ok tree) : tree.Unambiguous := by
  fun_induction follow above here names with
  | case1 above here =>
    cases h
    exact hhere
  | case2 rest entries ih => exact ih (List.forall_mem_nil _) hhere h
  | case3 rest entries up more ih =>
    obtain ⟨hup, hmore⟩ := List.forall_mem_cons.mp habove
    exact ih hmore hup h
  | case4 => cases h
  | case5 above name rest entries hname hshort next hnext ih =>
    obtain ⟨before, after, hentries, -⟩ := List.lookup_eq_some_iff.mp hnext
    have hmem : (name, next) ∈ entries := hentries ▸ by simp
    exact ih (List.forall_mem_cons.mpr ⟨hhere, habove⟩)
      ((unambiguous_directory_iff.mp hhere).2 _ hmem) h
  | case6 => cases h
  | case7 => cases h

namespace FileSystem

theorem exists_placeFrom? : ∀ {names : List Name} {above : List FileNode} {here node : FileNode},
    FileNode.follow above here names = .ok node →
      ∃ above', placeFrom? above here names = some (above', node)
  | [], above, here, node, h => by
    cases h
    exact ⟨above, rfl⟩
  | name :: rest, above, .file _, node, h => by cases h
  | name :: rest, above, .directory entries, node, h => by
    rw [FileNode.follow.eq_def] at h
    rw [placeFrom?.eq_def]
    dsimp only at h
    simp only [FileNode.isDirectory, Bool.not_true, Bool.false_eq_true, if_false,
      FileNode.entries]
    split at h
    · rename_i hup
      rw [if_pos hup]
      cases above with
      | nil => exact exists_placeFrom? h
      | cons up more => exact exists_placeFrom? h
    · rename_i hup
      rw [if_neg hup]
      split at h
      · cases h
      · cases hnext : entries.lookup name with
        | none =>
          rw [hnext] at h
          cases h
        | some next =>
          rw [hnext] at h
          exact exists_placeFrom? h

/-- The place of a directory that is there. -/
theorem exists_directory? (hnode : fs.node directory = .ok tree) (hdir : tree.isDirectory = true) :
    ∃ above, fs.directory? directory = some ⟨directory, above, tree⟩ := by
  unfold node at hnode
  split at hnode
  · cases hnode
  · split at hnode
    · cases hnode
    · obtain ⟨above, hplace⟩ := exists_placeFrom? hnode
      exact ⟨above, by simp [directory?, hplace, hdir]⟩

/-- What lies at a path is part of the tree, in which no name leads to two nodes. -/
theorem unambiguous_of_node (hnode : fs.node directory = .ok tree) : tree.Unambiguous := by
  unfold node at hnode
  split at hnode
  · cases hnode
  · split at hnode
    · cases hnode
    · have hroot := FileNode.isUnambiguous_iff.mp fs.unambiguous
      exact FileNode.unambiguous_of_follow (List.forall_mem_nil _) hroot hnode

theorem isDirectory_eq_true_iff : fs.isDirectory directory = .ok true ↔
    ∃ tree, fs.node directory = .ok tree ∧ tree.isDirectory = true := by
  unfold isDirectory holds
  cases fs.node directory with
  | ok node => simp
  | error cause => cases cause <;> simp

/-- The files among the places that are found, in the order of their paths. -/
def filesOf (found : List Place) : List Path :=
  ((found.filter fun q => !q.node.isDirectory).map (·.path)).mergeSort pathLe

/-- Searching a directory is reading the pattern and following it from the place of the
directory. -/
theorem filesMatching_eq {p : Place} (hdir : fs.isDirectory directory = .ok true)
    (hplace : fs.directory? directory = some p) (pattern : String) :
    fs.filesMatching directory pattern =
      SearchStep.ofText pattern >>= fun steps =>
        (SearchStep.select (.deep :: steps) p).map filesOf := by
  unfold filesMatching
  rw [hdir, hplace]
  refine bind_congr fun steps => ?_
  dsimp only [bind, Except.bind]
  cases SearchStep.select (.deep :: steps) p <;> rfl

theorem mem_filesOf_iff {found : List Place} {path : Path} : path ∈ filesOf found ↔
    ∃ q ∈ found, q.node.isDirectory = false ∧ q.path = path := by
  simp [filesOf, and_assoc]

theorem nodup_filesOf {found : List Place} (h : (found.map (·.path)).Nodup) :
    (filesOf found).Nodup :=
  (List.mergeSort_perm _ _).nodup_iff.mpr (h.sublist (List.filter_sublist.map _))

theorem pathLe_iff {a b : Path} : pathLe a b = true ↔ a.parts ≤ b.parts := by
  rw [pathLe, Bool.not_eq_true', Bool.eq_false_iff, Ne, List.lex_eq_true_iff_lt]
  exact not_lt

/-- The order is that of the names, not of the texts, in which a hyphen comes before a slash. -/
example : pathLe ⟨.here, [.of "a", .of "x"]⟩ ⟨.here, [.of "a-b", .of "x"]⟩ = true := by
  decide +kernel

/-- Files below one directory that are found once each go up strictly. -/
theorem pairwise_filesOf {found : List Place} (h : (found.map (·.path)).Nodup)
    (hbelow : ∀ p ∈ filesOf found, ∃ names, p = directory.below names) :
    (filesOf found).Pairwise fun a b => a.parts < b.parts := by
  have hsorted : (filesOf found).Pairwise fun a b => pathLe a b = true := by
    refine List.pairwise_mergeSort (fun a b c hab hbc => ?_) (fun a b => ?_) _
    · rw [pathLe_iff] at hab hbc ⊢
      exact le_trans hab hbc
    · rw [Bool.or_eq_true, pathLe_iff, pathLe_iff]
      exact le_total _ _
  refine (hsorted.and (nodup_filesOf h)).imp_of_mem fun ha hb hab => ?_
  obtain ⟨names, rfl⟩ := hbelow _ ha
  obtain ⟨names', rfl⟩ := hbelow _ hb
  exact lt_of_le_of_ne (pathLe_iff.mp hab.1) fun hparts => hab.2 (Path.parts_inj rfl hparts)

end FileSystem

/-! ## Fixtures -/

/-- The fixtures of a directory with a tree below it: the files at any depth whose name ends in
the suffix, each once, in the order of their names, and no directories. -/
structure Discovered (tree : FileNode) (directory : Path) (suffix : String)
    (found : List Path) : Prop where
  mem_iff : ∀ p, p ∈ found ↔ ∃ names node, tree.At names node ∧ node.isDirectory = false ∧
    p = directory.below names ∧ suffix.toList <:+ p.name.toList
  no_directory : ∀ names node, tree.At names node → node.isDirectory = true →
    directory.below names ∉ found
  nodup : found.Nodup
  ascending : found.Pairwise fun a b => a.parts < b.parts

/-- The files that a search for a star and a suffix finds. -/
theorem mem_filesOf_star_iff {above : List FileNode} {places : List Place}
    (hfinds : SearchStep.Finds [.deep, .matching ('*' :: suffix.toList)] ⟨directory, above, tree⟩
      places)
    (hdir : tree.isDirectory = true) (htree : tree.Unambiguous) (hplain : IsPlain suffix.toList)
    (path : Path) :
    path ∈ FileSystem.filesOf places ↔ ∃ names node, tree.At names node ∧
      node.isDirectory = false ∧ path = directory.below names ∧
        suffix.toList <:+ path.name.toList := by
  rw [FileSystem.mem_filesOf_iff]
  constructor
  · rintro ⟨q, hq, hfile, rfl⟩
    obtain ⟨names, hat, hpath, hmatch⟩ := SearchStep.at_of_leads (hfinds.leads q hq)
    exact ⟨names, q.node, hat, hfile, hpath, (matchesPattern_star_iff hplain).mp hmatch⟩
  · rintro ⟨names, node, hat, hfile, rfl, hsuffix⟩
    obtain rfl | ⟨names, name, rfl⟩ := names.eq_nil_or_concat'
    · cases hat
      rw [hdir] at hfile
      cases hfile
    · rw [← Path.below_child, Path.name_child] at hsuffix
      obtain ⟨q, hleads, hpath, rfl⟩ := SearchStep.exists_leads (p := ⟨directory, above, tree⟩)
        hat ((matchesPattern_star_iff hplain).mpr hsuffix)
      -- The place that is kept under this path is that of the same node.
      obtain ⟨q', hq', hpath'⟩ := hfinds.complete q hleads
      obtain ⟨names', hat', hbelow, -⟩ := SearchStep.at_of_leads (hfinds.leads q' hq')
      obtain rfl := Path.below_inj.mp (hpath.symm.trans (hpath'.symm.trans hbelow))
      exact ⟨q', hq', by rw [← hat.unique htree hat', hfile], hpath'.trans hpath⟩

/-- **The fixtures of a directory are discovered exactly**, for every suffix without pattern
characters and slashes. -/
theorem discoverFixtures_exact (hnode : fs.node directory = .ok tree)
    (hdir : tree.isDirectory = true) (hplain : IsPlain suffix.toList)
    (hslash : '/' ∉ suffix.toList) :
    ∃ found, discoverFixtures fs directory suffix = .ok found ∧
      Discovered tree directory suffix found := by
  have htree := FileSystem.unambiguous_of_node hnode
  obtain ⟨above, hplace⟩ := FileSystem.exists_directory? hnode hdir
  have hsteps : ∀ name, SearchStep.exactly name ∉ [.deep, .matching ('*' :: suffix.toList)] := by
    simp
  obtain ⟨places, hselect⟩ := SearchStep.exists_select (p := ⟨directory, above, tree⟩) hsteps
  have hfinds := SearchStep.finds_of_select hselect
  have hfound : discoverFixtures fs directory suffix = .ok (FileSystem.filesOf places) := by
    rw [discoverFixtures, FileSystem.filesMatching_eq
      (FileSystem.isDirectory_eq_true_iff.mpr ⟨tree, hnode, hdir⟩) hplace,
      SearchStep.ofText_star hplain hslash]
    exact congrArg (·.map FileSystem.filesOf) hselect
  have hmem := mem_filesOf_star_iff hfinds hdir htree hplain
  have hbelow : ∀ p ∈ FileSystem.filesOf places, ∃ names, p = directory.below names := by
    intro p hp
    obtain ⟨names, -, -, -, hpath, -⟩ := (hmem p).mp hp
    exact ⟨names, hpath⟩
  refine ⟨_, hfound, hmem, fun names node hat hisdir hin => ?_,
    FileSystem.nodup_filesOf hfinds.nodup, FileSystem.pairwise_filesOf hfinds.nodup hbelow⟩
  obtain ⟨names', node', hat', hfile, hpath, -⟩ := (hmem _).mp hin
  obtain rfl := Path.below_inj.mp hpath
  rw [hat.unique htree hat', hfile] at hisdir
  cases hisdir

/-- A directory with files at several depths, and a directory named like one of them. -/
def nestedFixtures : FileNode :=
  .directory [(.of "a-b", .directory [(.of "x.lint", .file [])]),
    (.of "a", .directory [(.of ".lint", .file [])]),
    (.of "d.lint", .directory [(.of ".h.lint.lint", .file []), (.of "notes.txt", .file [])])]

/-- Fixtures below several directories, with a suffix that starts with a dot. -/
theorem discoverFixtures_exact_nested :
    nestedFixtures.isDirectory = true ∧ IsPlain ".lint".toList ∧ '/' ∉ ".lint".toList ∧
      ∃ found, discoverFixtures (.ofTree (.directory [(.of "t", nestedFixtures)]))
          ⟨.here, [.of "t"]⟩ ".lint" = .ok found ∧
        Discovered nestedFixtures ⟨.here, [.of "t"]⟩ ".lint" found := by
  have hplain : IsPlain ".lint".toList := by decide
  have hslash : '/' ∉ ".lint".toList := by decide
  exact ⟨rfl, hplain, hslash, discoverFixtures_exact rfl rfl hplain hslash⟩

/-! ## Setups -/

namespace Config

variable {config : Config}

/-- A configuration that is loaded is the default one, or is described by its document. -/
theorem exists_describes_of_load (h : load fs directory = .ok config) :
    ∃ place entries, Describes place entries config := by
  have hdefault : Describes Path.ofText [] default :=
    ⟨Or.inl ⟨rfl, rfl⟩, Or.inl rfl, Or.inl ⟨rfl, rfl⟩, by simp⟩
  rw [load_eq] at h
  split at h
  · cases h
  · cases h
    exact ⟨_, _, hdefault⟩
  · split at h
    · cases h
    · unfold ofDocument at h
      split at h
      · cases h
      · cases h
      · cases h
      · split at h
        · cases h
        · split at h
          · rename_i hentries
            cases h
            exact ⟨_, _, ofEntries_eq_ok_iff.mp hentries⟩
          · cases h

/-- **The suffix of a configuration that is loaded starts with a dot.** -/
theorem fixtureSuffix_of_load (h : load fs directory = .ok config) :
    config.fixtureSuffix.toList.head? = some '.' := by
  obtain ⟨place, entries, hdescribes⟩ := exists_describes_of_load h
  exact hdescribes.head?_fixtureSuffix

theorem fixtureSuffix_of_withRulesDirectory {rules : Option Path} {c : Config}
    (h : c.withRulesDirectory fs rules = .ok config) :
    config.fixtureSuffix = c.fixtureSuffix := by
  cases rules with
  | none =>
    cases h
    rfl
  | some rules =>
    obtain ⟨place, -, rfl⟩ := map_eq_ok_iff.mp h
    rfl

end Config

namespace TestSetup

/-- Searching a directory for a pattern comes to an end. -/
structure Searchable (p : Place) (pattern : String) : Prop where
  /-- The pattern can be read, -/
  readable : ∀ fault, ¬ SearchStep.Unreadable pattern fault
  /-- and no name that it gives as such is too long where it is looked up. -/
  short : ¬ SearchStep.Stumbles (.deep :: SearchStep.stepsOf pattern) p

section Loading

variable {rules : Option Path} {loaded config : Config} {p : Place}

theorem load_eq (hdir : fs.isDirectory directory = .ok true)
    (hload : Config.load fs directory = .ok loaded)
    (hrules : loaded.withRulesDirectory fs rules = .ok config) :
    TestSetup.load fs directory rules =
      (discoverFixtures fs directory config.fixtureSuffix).map (⟨directory, ·, config⟩) := by
  rw [TestSetup.load, hdir, hload]
  simp only [bind, Except.bind, hrules]

theorem filesMatching_eq_ok_iff (hdir : fs.isDirectory directory = .ok true)
    (hplace : fs.directory? directory = some p) {pattern : String} :
    (∃ found, fs.filesMatching directory pattern = .ok found) ↔ Searchable p pattern := by
  rw [FileSystem.filesMatching_eq hdir hplace]
  by_cases hread : ∃ fault, SearchStep.Unreadable pattern fault
  · obtain ⟨fault, hfault⟩ := hread
    rw [SearchStep.ofText_eq_error_iff.mpr hfault]
    exact iff_of_false (by rintro ⟨found, ⟨⟩⟩) fun h => h.readable fault hfault
  · have hread : ∀ fault, ¬ SearchStep.Unreadable pattern fault := not_exists.mp hread
    have hsearchable : Searchable p pattern ↔
        ¬ SearchStep.Stumbles (.deep :: SearchStep.stepsOf pattern) p :=
      ⟨(·.short), (⟨hread, ·⟩)⟩
    rw [SearchStep.ofText_eq_ok hread, hsearchable, ← SearchStep.exists_select_eq_error_iff]
    cases hselect : SearchStep.select (.deep :: SearchStep.stepsOf pattern) p <;>
      simp [bind, Except.bind, Except.map, hselect]

/-- A search fails for its pattern or for a name that is too long. -/
theorem fault_of_filesMatching (hdir : fs.isDirectory directory = .ok true)
    (hplace : fs.directory? directory = some p) {pattern : String} {fault : Fault}
    (h : fs.filesMatching directory pattern = .error fault) :
    SearchStep.Unreadable pattern fault ∨ ∃ path, fault = .path .nameTooLong path := by
  rw [FileSystem.filesMatching_eq hdir hplace] at h
  cases hread : SearchStep.ofText pattern with
  | error cause =>
    rw [hread] at h
    cases h
    exact Or.inl (SearchStep.ofText_eq_error_iff.mp hread)
  | ok steps =>
    rw [hread] at h
    exact Or.inr (SearchStep.nameTooLong_of_select (map_eq_error_iff.mp h))

/-- A search for a suffix without slashes fails where two stars stand side by side in it. -/
theorem searchable_star_iff {suffix : String} (hstar : suffix.toList.head? ≠ some '*')
    (hslash : '/' ∉ suffix.toList) :
    Searchable p ("*" ++ suffix) ↔ ¬ ['*', '*'] <:+: suffix.toList := by
  have hread : ∀ fault, SearchStep.Unreadable ("*" ++ suffix) fault ↔
      ['*', '*'] <:+: suffix.toList ∧ fault = .badPattern :=
    fun _ => SearchStep.unreadable_star_iff hstar hslash
  constructor
  · exact fun h hstars => h.readable _ ((hread _).mpr ⟨hstars, rfl⟩)
  · refine fun h => ⟨fun fault hfault => h ((hread fault).mp hfault).1, ?_⟩
    rw [SearchStep.stepsOf_star hstar hslash]
    exact SearchStep.not_stumbles (by simp)

/-- **A test directory with a configuration that is accepted** can be set up exactly where the
search for its fixtures comes to an end. For a suffix without slashes this is where no two stars
stand side by side in it. What it ends with otherwise is no fault of a configuration. -/
theorem load_searchable (hdir : fs.isDirectory directory = .ok true)
    (hload : Config.load fs directory = .ok loaded)
    (hrules : loaded.withRulesDirectory fs rules = .ok config) :
    ∃ p, fs.directory? directory = some p ∧
      ((∃ fixtures, TestSetup.load fs directory rules = .ok ⟨directory, fixtures, config⟩) ↔
        Searchable p ("*" ++ config.fixtureSuffix)) ∧
      (∀ fault, TestSetup.load fs directory rules = .error fault →
        (SearchStep.Unreadable ("*" ++ config.fixtureSuffix) fault ∨
          ∃ path, fault = .path .nameTooLong path) ∧ ∀ c, fault ≠ .config c) ∧
      ('/' ∉ config.fixtureSuffix.toList →
        ((∃ fixtures, TestSetup.load fs directory rules = .ok ⟨directory, fixtures, config⟩) ↔
          ¬ ['*', '*'] <:+: config.fixtureSuffix.toList)) := by
  obtain ⟨tree, hnode, htree⟩ := FileSystem.isDirectory_eq_true_iff.mp hdir
  obtain ⟨above, hplace⟩ := FileSystem.exists_directory? hnode htree
  have hsetup : (∃ fixtures,
      TestSetup.load fs directory rules = .ok ⟨directory, fixtures, config⟩) ↔
        Searchable ⟨directory, above, tree⟩ ("*" ++ config.fixtureSuffix) := by
    rw [← filesMatching_eq_ok_iff hdir hplace, load_eq hdir hload hrules, discoverFixtures]
    simp [map_eq_ok_iff]
  refine ⟨_, hplace, hsetup, fun fault hfault => ?_, fun hslash => ?_⟩
  · rw [load_eq hdir hload hrules] at hfault
    have hcause := fault_of_filesMatching hdir hplace (map_eq_error_iff.mp hfault)
    refine ⟨hcause, fun c hc => ?_⟩
    subst hc
    obtain hpattern | ⟨path, hpath⟩ := hcause
    · cases hpattern
    · cases hpath
  · have hdot := Config.fixtureSuffix_of_load hload
    rw [← Config.fixtureSuffix_of_withRulesDirectory hrules] at hdot
    rw [hsetup, searchable_star_iff (by simp [hdot]) hslash]

end Loading

/-- A directory with the usual suffix can be set up. -/
theorem load_searchable_default :
    twoDirectories.isDirectory ⟨.root, [.of "a"]⟩ = .ok true ∧
      Config.load twoDirectories ⟨.root, [.of "a"]⟩ = .ok .default ∧
      Config.default.withRulesDirectory twoDirectories none = .ok .default ∧
      ∃ fixtures, TestSetup.load twoDirectories ⟨.root, [.of "a"]⟩ none =
        .ok ⟨⟨.root, [.of "a"]⟩, fixtures, .default⟩ := by
  have hdir : twoDirectories.isDirectory ⟨.root, [.of "a"]⟩ = .ok true := by rfl
  have hload : Config.load twoDirectories ⟨.root, [.of "a"]⟩ = .ok .default := by rfl
  have hrules : Config.default.withRulesDirectory twoDirectories none = .ok .default := by rfl
  obtain ⟨p, -, -, -, hsetup⟩ := load_searchable hdir hload hrules
  exact ⟨hdir, hload, hrules, (hsetup (by decide)).mpr (by decide)⟩

/-- A directory whose configuration ends the names of fixtures in two stars. -/
def doubleStarred : FileSystem :=
  .ofTree (.directory [(.of "t", .directory [(.of "ruletest.toml",
    .file (Text.encodeUtf8 "fixture_suffix = '.**'\n".toList))])])

theorem load_doubleStarred :
    Config.load doubleStarred ⟨.here, [.of "t"]⟩ = .ok ⟨[], none, ".**"⟩ := by
  have hfile : doubleStarred.read (Path.child ⟨.here, [.of "t"]⟩ Config.fileName) =
      .ok (Text.encodeUtf8 "fixture_suffix = '.**'\n".toList) := by rfl
  have hread : Toml.read "fixture_suffix = '.**'\n".toList =
      .ok [("fixture_suffix", .text ".**")] := by cbv
  have hentries : ∀ place, Config.ofEntries place [("fixture_suffix", .text ".**")] =
      .ok ⟨[], none, ".**"⟩ := fun place => by rfl
  rw [Config.load_eq, hfile]
  simp only [Text.decodeUtf8_eq_ok_iff.mpr rfl, Config.ofDocument, hread, hentries]
  rfl

/-- **A configuration that is accepted and cannot be used**: its suffix is no part of a pattern. -/
theorem not_load_doubleStarred :
    ¬ ∀ (fs : FileSystem) (directory : Path) (config : Config),
      fs.isDirectory directory = .ok true → Config.load fs directory = .ok config →
        ∃ setup, TestSetup.load fs directory none = .ok setup := by
  intro h
  have hdir : doubleStarred.isDirectory ⟨.here, [.of "t"]⟩ = .ok true := by rfl
  have hfault : TestSetup.load doubleStarred ⟨.here, [.of "t"]⟩ none = .error .badPattern := by
    rw [load_eq hdir load_doubleStarred rfl]
    rfl
  obtain ⟨setup, hsetup⟩ := h doubleStarred ⟨.here, [.of "t"]⟩ _ hdir load_doubleStarred
  cases hfault.symm.trans hsetup

end TestSetup

end LintFixture
