import LintFixture.Config.Load
import LintFixture.Proofs.Utf8

/-!
# What escapes while a configuration is loaded

A test directory without a configuration file has the default one. A file that is there is decoded,
read as TOML, looked through for a rules directory and read as a configuration, and two of the
faults on this way are told as faults of the configuration: the document is not TOML, or it does
not describe a configuration. `Escapes` lists the others, each with the file that brings it about.

Results:
* `load_escapes_iff`: these are the faults that escape, and there are no others.
* `load_usable_iff`: everything else comes to a configuration or to a fault of it.
* `not_load_undecodable`: a file of one byte that is not UTF-8 comes to neither.
-/

namespace LintFixture

/-! ## Reading the file -/

namespace FileSystem

variable {fs : FileSystem} {p : Path}

/-- A file lies where its bytes can be read; looking fails where the path is too long. -/
theorem isFile_eq (fs : FileSystem) (p : Path) :
    fs.isFile p =
      match fs.read p with
      | .ok _ => .ok true
      | .error .nameTooLong => .error (.path .nameTooLong p.text)
      | .error _ => .ok false := by
  unfold isFile holds read
  cases fs.node p with
  | error fault => cases fault <;> rfl
  | ok node => cases node <;> rfl

end FileSystem

namespace Config

/-- **Loading a configuration** is reading its file. -/
theorem load_eq (fs : FileSystem) (directory : Path) :
    load fs directory =
      match fs.read (directory.child fileName) with
      | .error .nameTooLong => .error (.path .nameTooLong (directory.child fileName).text)
      | .error _ => .ok default
      | .ok bytes =>
        match Text.decodeUtf8 bytes with
        | .error fault => .error (.undecodable fault)
        | .ok text => ofDocument fs directory text := by
  unfold load
  simp only [FileSystem.isFile_eq]
  cases hread : fs.read (directory.child fileName) with
  | error fault => cases fault <;> rfl
  | ok bytes => rfl

/-! ## Finding the rules directory -/

/-- Why the place of a rules directory is not found. -/
inductive Misplaced (fs : FileSystem) (directory : Path) (text : String) : Fault → Prop
  /-- A tilde stands before a name that no user has, -/
  | noHome {first : Name} {user : String} {rest : List Name} :
    Path.ofText text = ⟨.here, first :: rest⟩ → first.text = "~" ++ user →
      '\x00' ∉ user.toList → user ≠ "" → fs.homes.lookup user = none →
      Misplaced fs directory text .noHome
  /-- or that no user can have, -/
  | badHome {first : Name} {user : String} {rest : List Name} :
    Path.ofText text = ⟨.here, first :: rest⟩ → first.text = "~" ++ user →
      '\x00' ∈ user.toList → Misplaced fs directory text (.path .embeddedNull user)
  /-- or the path seen from the test directory is none. -/
  | null {p : Path} : fs.expandHome (Path.ofText text) = .ok p → p.isAbsolute = false →
      (directory.join p).hasNull = true →
      Misplaced fs directory text (.path .embeddedNull (directory.join p).text)

theorem homeOf_eq_error_iff {fs : FileSystem} {user : String} {fault : Fault} :
    fs.homeOf user = .error fault ↔
      ('\x00' ∈ user.toList ∧ fault = .path .embeddedNull user) ∨
      ('\x00' ∉ user.toList ∧ user ≠ "" ∧ fs.homes.lookup user = none ∧ fault = .noHome) := by
  simp only [FileSystem.homeOf, List.contains_iff_mem]
  by_cases hnull : '\x00' ∈ user.toList
  · rw [if_pos hnull]
    simp [hnull, @eq_comm _ fault]
  · rw [if_neg hnull]
    by_cases hempty : user = ""
    · simp [hempty]
    · rw [if_neg hempty]
      cases fs.homes.lookup user <;> simp [hnull, hempty, @eq_comm _ fault]

/-- Only the home directory of a user that is named can be missing. -/
theorem expandHome_eq_error_iff {fs : FileSystem} {p : Path} {fault : Fault} :
    fs.expandHome p = .error fault ↔
      ∃ first user rest, p = ⟨.here, first :: rest⟩ ∧ first.text = "~" ++ user ∧
        fs.homeOf user = .error fault := by
  have htilde : ∀ user : String, ("~" ++ user).toList = '~' :: user.toList := fun user => by simp
  constructor
  · intro h
    unfold FileSystem.expandHome at h
    split at h
    · rename_i first rest hanchor hnames
      split at h
      · rename_i user hfirst
        refine ⟨first, String.ofList user, rest, ?_, ?_, ?_⟩
        · obtain ⟨anchor, names⟩ := p
          exact congrArg₂ Path.mk hanchor hnames
        · exact String.toList_injective (by rw [hfirst, htilde, String.toList_ofList])
        · cases hhome : fs.homeOf (String.ofList user) with
          | error cause =>
            rw [hhome] at h
            exact congrArg _ (Except.error.inj h)
          | ok home =>
            rw [hhome] at h
            cases h
      · cases h
    · cases h
  · rintro ⟨first, user, rest, rfl, hfirst, hhome⟩
    simp only [FileSystem.expandHome, hfirst, htilde, String.ofList_toList, hhome]
    rfl

theorem placeOf_eq_error_iff {fs : FileSystem} {directory : Path} {text : String} {fault : Fault} :
    placeOf fs directory text = .error fault ↔ Misplaced fs directory text fault := by
  have hplace : placeOf fs directory text = .error fault ↔
      fs.expandHome (Path.ofText text) = .error fault ∨
        ∃ p, fs.expandHome (Path.ofText text) = .ok p ∧ p.isAbsolute = false ∧
          (directory.join p).hasNull = true ∧
          fault = .path .embeddedNull (directory.join p).text := by
    unfold placeOf FileSystem.resolve
    cases fs.expandHome (Path.ofText text) with
    | error cause => simp
    | ok p =>
      cases habsolute : p.isAbsolute <;> cases hnull : (directory.join p).hasNull <;>
        simp [habsolute, hnull, @eq_comm _ fault]
  rw [hplace, expandHome_eq_error_iff]
  constructor
  · rintro (⟨first, user, rest, hp, hfirst, hhome⟩ | ⟨p, hp, habsolute, hnull, rfl⟩)
    · obtain ⟨hnull, rfl⟩ | ⟨hnull, hne, hlookup, rfl⟩ := homeOf_eq_error_iff.mp hhome
      · exact .badHome hp hfirst hnull
      · exact .noHome hp hfirst hnull hne hlookup
    · exact .null hp habsolute hnull
  · intro h
    cases h with
    | noHome hp hfirst hnull hne hlookup =>
      have hhome := homeOf_eq_error_iff.mpr (Or.inr ⟨hnull, hne, hlookup, rfl⟩)
      exact Or.inl ⟨_, _, _, hp, hfirst, hhome⟩
    | badHome hp hfirst hnull =>
      exact Or.inl ⟨_, _, _, hp, hfirst, homeOf_eq_error_iff.mpr (Or.inl ⟨hnull, rfl⟩)⟩
    | null hp habsolute hnull => exact Or.inr ⟨_, hp, habsolute, hnull, rfl⟩

theorem rulesPlace_eq_error_iff {fs : FileSystem} {directory : Path}
    {entries : List (String × Value)} {fault : Fault} :
    rulesPlace fs directory entries = .error fault ↔
      ∃ text, entries.lookup "rules_directory" = some (.text text) ∧
        Misplaced fs directory text fault := by
  simp only [← placeOf_eq_error_iff]
  unfold rulesPlace
  split
  · rename_i text hlookup
    rw [hlookup]
    cases hplace : placeOf fs directory text <;> simp [Except.map, hplace]
  · rename_i hlookup
    refine iff_of_false (fun h => by cases h) ?_
    rintro ⟨text, htext, -⟩
    exact hlookup text htext

/-! ## What escapes -/

/-- The configuration file of a directory holds a text: its bytes are UTF-8 for it. -/
def FileHolds (fs : FileSystem) (directory : Path) (text : List Char) : Prop :=
  fs.read (directory.child fileName) = .ok (Text.encodeUtf8 text)

/-- What is raised while a configuration is loaded and is not told as a fault of it. -/
inductive Escapes (fs : FileSystem) (directory : Path) : Fault → Prop
  /-- The path of the file is too long to look at. -/
  | place : fs.read (directory.child fileName) = .error .nameTooLong →
    Escapes fs directory (.path .nameTooLong (directory.child fileName).text)
  /-- The file is not UTF-8. -/
  | bytes {bytes : List UInt8} {fault : Text.Utf8Fault} :
    fs.read (directory.child fileName) = .ok bytes → Text.decodeUtf8 bytes = .error fault →
      Escapes fs directory (.undecodable fault)
  /-- A number has more digits than are read. -/
  | numeral {text : List Char} {digits : Nat} :
    FileHolds fs directory text → Toml.read text = .error (.longNumeral digits) →
      Escapes fs directory (.longNumeral digits)
  /-- Values are nested more deeply than is followed. -/
  | depth {text : List Char} :
    FileHolds fs directory text → Toml.read text = .error .tooDeep → Escapes fs directory .tooDeep
  /-- The rules directory is named so that its place is not found. -/
  | rules {text : List Char} {entries : Toml.Table} {name : String} {fault : Fault} :
    FileHolds fs directory text → Toml.read text = .ok entries →
      entries.lookup "rules_directory" = some (.text name) → Misplaced fs directory name fault →
      Escapes fs directory fault

theorem Misplaced.not_config {fs : FileSystem} {directory : Path} {text : String} {fault : Fault}
    (h : Misplaced fs directory text fault) (c : ConfigFault) : fault ≠ .config c := by
  cases h <;> exact Fault.noConfusion

theorem Escapes.not_config {fs : FileSystem} {directory : Path} {fault : Fault}
    (h : Escapes fs directory fault) (c : ConfigFault) : fault ≠ .config c := by
  cases h with
  | rules _ _ _ hplace => exact hplace.not_config c
  | _ => exact Fault.noConfusion

section Loading

variable {fs : FileSystem} {directory : Path} {fault : Fault}

/-- A document comes to a fault of the configuration, or to one of its limits. -/
theorem ofDocument_escapes {text : List Char} (hfile : FileHolds fs directory text)
    (h : ofDocument fs directory text = .error fault) :
    (∃ c, fault = .config c) ∨ Escapes fs directory fault := by
  unfold ofDocument at h
  split at h
  · exact Or.inl ⟨_, (Except.error.inj h).symm⟩
  · rename_i digits hread
    cases h
    exact Or.inr (.numeral hfile hread)
  · rename_i hread
    cases h
    exact Or.inr (.depth hfile hread)
  · rename_i entries hread
    split at h
    · rename_i cause hplace
      cases h
      obtain ⟨name, hname, hmisplaced⟩ := rulesPlace_eq_error_iff.mp hplace
      exact Or.inr (.rules hfile hread hname hmisplaced)
    · split at h
      · cases h
      · exact Or.inl ⟨_, (Except.error.inj h).symm⟩

/-- **What escapes**, and by which content of the file. -/
theorem load_escapes_iff :
    (load fs directory = .error fault ∧ ∀ c, fault ≠ .config c) ↔ Escapes fs directory fault := by
  constructor
  · rintro ⟨h, hconfig⟩
    rw [load_eq] at h
    split at h
    · rename_i hread
      cases h
      exact .place hread
    · cases h
    · rename_i bytes hread
      split at h
      · rename_i cause hdecode
        cases h
        exact .bytes hread hdecode
      · rename_i text hdecode
        have hfile : FileHolds fs directory text := by
          rw [FileHolds, hread, Text.decodeUtf8_eq_ok_iff.mp hdecode]
        obtain ⟨c, rfl⟩ | hescapes := ofDocument_escapes hfile h
        · exact absurd rfl (hconfig c)
        · exact hescapes
  · intro h
    refine ⟨?_, h.not_config⟩
    have hdocument : ∀ {text}, FileHolds fs directory text →
        load fs directory = ofDocument fs directory text := fun {text} hfile => by
      rw [load_eq, hfile]
      simp only [Text.decodeUtf8_eq_ok_iff.mpr rfl]
    cases h with
    | place hread => simp only [load_eq, hread]
    | bytes hread hdecode => simp only [load_eq, hread, hdecode]
    | numeral hfile hread => simp only [hdocument hfile, ofDocument, hread]
    | depth hfile hread => simp only [hdocument hfile, ofDocument, hread]
    | rules hfile hread hname hplace =>
      simp only [hdocument hfile, ofDocument, hread, rulesPlace_eq_error_iff.mpr ⟨_, hname, hplace⟩]

end Loading

/-- **Loading comes to a configuration or to a fault of it** exactly where nothing escapes. -/
theorem load_usable_iff (fs : FileSystem) (directory : Path) :
    ((∃ config, load fs directory = .ok config) ∨
        ∃ c, load fs directory = .error (.config c)) ↔
      ∀ fault, ¬ Escapes fs directory fault := by
  simp only [← load_escapes_iff]
  cases load fs directory with
  | ok config => simp
  | error fault => cases fault <;> simp

/-- **A file of one byte that is not UTF-8** comes to neither. -/
theorem not_load_undecodable :
    ¬ ((∃ config, load (.ofTree (.directory
          [(.of "t", .directory [(.of "ruletest.toml", .file [0xff])])]))
          ⟨.here, [.of "t"]⟩ = .ok config) ∨
        ∃ c, load (.ofTree (.directory
          [(.of "t", .directory [(.of "ruletest.toml", .file [0xff])])]))
          ⟨.here, [.of "t"]⟩ = .error (.config c)) := by
  have hload : load (.ofTree (.directory
      [(.of "t", .directory [(.of "ruletest.toml", .file [0xff])])])) ⟨.here, [.of "t"]⟩ =
      .error (.undecodable ⟨0, 1, 0xff, .start⟩) := rfl
  rw [hload]
  rintro (⟨config, h⟩ | ⟨c, h⟩) <;> cases h

end Config

end LintFixture
