import RollupBridge.Artifact.Search
import RollupBridge.Proofs.Files.Visit

namespace RollupBridge.Artifact

variable {α : Type} {contract root : String} {tree : FileTree α} {names : List String} {content : α}

/-- A path below a root ends with the names of an artifact: `N.sol` and in it `N.json`. The root goes
by the last name in its own path. -/
def IsArtifact (contract root : String) (names : List String) : Prop :=
  ∃ above, Path.names root ++ names = above ++ [contract ++ ".sol", contract ++ ".json"]

/-- A regular file that is an artifact of a contract, with the smallest path of all of them. -/
structure First (contract root : String) (tree : FileTree α) (names : List String) (content : α) :
    Prop where
  holds : tree.Holds names content
  isArtifact : IsArtifact contract root names
  least : ∀ other stored, tree.Holds other stored → IsArtifact contract root other → names ≤ other

/-- The bytecode at a path, by what reading the file came to. -/
def outcome (path : String) : Except String Bytes → Except ArtifactError Bytes
  | .error cause => .error (.unreadable path cause)
  | .ok content => parse path content

theorem isArtifactPath_iff {path : List String} :
    isArtifactPath contract path = true ↔
      ∃ above, path = above ++ [contract ++ ".sol", contract ++ ".json"] := by
  constructor
  · intro hpath
    unfold isArtifactPath at hpath
    split at hpath
    case h_1 file parent above hreverse =>
      rw [Bool.and_eq_true, beq_iff_eq, beq_iff_eq] at hpath
      obtain ⟨rfl, rfl⟩ := hpath
      refine ⟨above.reverse, ?_⟩
      simpa using congrArg List.reverse hreverse
    case h_2 => contradiction
  · rintro ⟨above, rfl⟩
    simp [isArtifactPath]

instance : Decidable (IsArtifact contract root names) :=
  decidable_of_iff (isArtifactPath contract (Path.names root ++ names) = true) isArtifactPath_iff

/-- A file gives a bytecode exactly if it can be read, is text and has one. -/
theorem outcome_eq_ok_iff {path : String} {got : Except String Bytes} {code : Bytes} :
    outcome path got = .ok code ↔
      ∃ bytes text, got = .ok bytes ∧ Text.ofUtf8? bytes = some text ∧ bytecode? text = some code := by
  cases got with
  | error cause => simp [outcome]
  | ok bytes =>
    rw [outcome, parse]
    cases htext : Text.ofUtf8? bytes with
    | none => simp [htext]
    | some text => cases hcode : bytecode? text <;> simp [htext, hcode]

/-- What a file is read as is an error of the file, never that there is none. -/
theorem outcome_ne_missing (path name directory : String) (got : Except String Bytes) :
    outcome path got ≠ .error (.missing name directory) := by
  cases got with
  | error cause => simp [outcome]
  | ok bytes =>
    rw [outcome, parse]
    cases Text.ofUtf8? bytes with
    | none => simp
    | some text => cases hcode : bytecode? text <;> simp [hcode]

/-- There is only one first artifact. -/
theorem First.unique {other : List String} {stored : α} (hdistinct : tree.Distinct)
    (hfirst : First contract root tree names content) (hother : First contract root tree other stored) :
    names = other ∧ content = stored := by
  have hnames : names = other :=
    le_antisymm (hfirst.least other stored hother.holds hother.isArtifact)
      (hother.least names content hfirst.holds hfirst.isArtifact)
  refine ⟨hnames, ?_⟩
  apply hdistinct.content_unique hfirst.holds
  rw [hnames]
  exact hother.holds

/-- The file at which the search ends is the first artifact: what it comes by later has a greater path. -/
theorem first_of_find? (hdistinct : tree.Distinct)
    (hfind : (tree.files.find? fun (path, _) => isArtifactPath contract (Path.names root ++ path)) =
      some (names, content)) :
    First contract root tree names content := by
  obtain ⟨hnamed, before, after, hfiles, hbefore⟩ := List.find?_eq_some_iff_append.mp hfind
  have hsorted := hdistinct.files_pairwise
  rw [hfiles] at hsorted
  refine ⟨?_, isArtifactPath_iff.mp hnamed, ?_⟩
  · apply FileTree.mem_files.mp
    simp [hfiles]
  · intro other stored hholds hother
    have hmem : (other, stored) ∈ before ++ (names, content) :: after := by
      rw [← hfiles]
      exact FileTree.mem_files.mpr hholds
    rw [List.mem_append, List.mem_cons] at hmem
    obtain hmem | heq | hmem := hmem
    · have hskipped : (!isArtifactPath contract (Path.names root ++ other)) = true := hbefore _ hmem
      rw [isArtifactPath_iff.mpr hother] at hskipped
      contradiction
    · cases heq
      exact le_refl _
    · have htail := (List.pairwise_append.mp hsorted).2.1
      exact le_of_lt ((List.pairwise_cons.mp htail).1 _ hmem)

/-- The search ends without a file only where there is no artifact. -/
theorem find?_eq_none_iff :
    (tree.files.find? fun (path, _) => isArtifactPath contract (Path.names root ++ path)) = none ↔
      ∀ path stored, tree.Holds path stored → ¬ IsArtifact contract root path := by
  rw [List.find?_eq_none]
  constructor
  · intro hnone path stored hholds hartifact
    exact hnone _ (FileTree.mem_files.mpr hholds) (isArtifactPath_iff.mpr hartifact)
  · rintro hnone ⟨path, stored⟩ hmem hnamed
    exact hnone path stored (FileTree.mem_files.mp hmem) (isArtifactPath_iff.mp hnamed)

/-- There is no artifact at all, or one is the first. -/
theorem none_or_first (contract root : String) (hdistinct : tree.Distinct) :
    (∀ path stored, tree.Holds path stored → ¬ IsArtifact contract root path) ∨
      ∃ names content, First contract root tree names content := by
  cases hfind : tree.files.find? fun (path, _) => isArtifactPath contract (Path.names root ++ path) with
  | none => exact .inl (find?_eq_none_iff.mp hfind)
  | some found => exact .inr ⟨found.1, found.2, first_of_find? hdistinct hfind⟩

theorem locate?_of_first (hdistinct : tree.Distinct) (hfirst : First contract root tree names content) :
    locate? root tree contract = some (Path.joinAll root names, content) := by
  unfold locate?
  cases hfind : tree.files.find? fun (path, _) => isArtifactPath contract (Path.names root ++ path) with
  | none => exact absurd hfirst.isArtifact (find?_eq_none_iff.mp hfind names content hfirst.holds)
  | some found =>
    obtain ⟨rfl, rfl⟩ := hfirst.unique hdistinct (first_of_find? hdistinct hfind)
    rfl

section Read

variable {m : Type → Type} [Monad m] {fetch : String → α → m (Except String Bytes)}

/-- Where there is no artifact no file is read at all. -/
theorem read_of_none
    (hnone : ∀ path stored, tree.Holds path stored → ¬ IsArtifact contract root path) :
    read fetch root tree contract = pure (.error (.missing contract root)) := by
  rw [read, locate?, find?_eq_none_iff.mpr hnone]
  rfl

variable [LawfulMonad m]

/-- Of all files only the first artifact is read. -/
theorem read_of_first (hdistinct : tree.Distinct) (hfirst : First contract root tree names content) :
    read fetch root tree contract =
      outcome (Path.joinAll root names) <$> fetch (Path.joinAll root names) content := by
  rw [read, locate?_of_first hdistinct hfirst, map_eq_pure_bind]
  apply bind_congr
  intro got
  cases got <;> rfl

/-- A tree is read alike that has the file of the first artifact, and artifacts at no other paths. -/
theorem read_congr {other : FileTree α} (hdistinct : tree.Distinct) (hother : other.Distinct)
    (hpaths : ∀ path stored, other.Holds path stored → IsArtifact contract root path →
      ∃ content, tree.Holds path content)
    (hcontent : ∀ names content, First contract root tree names content → other.Holds names content) :
    read fetch root other contract = read fetch root tree contract := by
  obtain hnone | ⟨names, content, hfirst⟩ := none_or_first contract root hdistinct
  · have hnoneOther : ∀ path stored, other.Holds path stored → ¬ IsArtifact contract root path := by
      intro path stored hholds hartifact
      obtain ⟨content, hcontent⟩ := hpaths path stored hholds hartifact
      exact hnone path content hcontent hartifact
    rw [read_of_none hnone, read_of_none hnoneOther]
  · have hfirstOther : First contract root other names content := by
      refine ⟨hcontent names content hfirst, hfirst.isArtifact, ?_⟩
      intro path stored hholds hartifact
      obtain ⟨content, hcontent⟩ := hpaths path stored hholds hartifact
      exact hfirst.least path content hcontent hartifact
    rw [read_of_first hdistinct hfirst, read_of_first hother hfirstOther]

/-- Trees that differ in their links are read alike. -/
theorem read_congr_of_withoutLinks {other : FileTree α} (hdistinct : tree.Distinct) (hother : other.Distinct)
    (hlinks : other.withoutLinks = tree.withoutLinks) :
    read fetch root other contract = read fetch root tree contract := by
  have hsame : ∀ names content, other.Holds names content ↔ tree.Holds names content := by
    intro names content
    rw [← FileTree.holds_withoutLinks, hlinks, FileTree.holds_withoutLinks]
  apply read_congr hdistinct hother
  · intro path stored hholds _
    exact ⟨stored, (hsame path stored).mp hholds⟩
  · intro names content hfirst
    exact (hsame names content).mpr hfirst.holds

end Read

variable {fetch : String → α → Except String Bytes}

theorem read_eq_missing_iff (hdistinct : tree.Distinct) :
    read (m := Id) fetch root tree contract = .error (.missing contract root) ↔
      ∀ path stored, tree.Holds path stored → ¬ IsArtifact contract root path := by
  constructor
  · intro hmissing
    obtain hnone | ⟨names, content, hfirst⟩ := none_or_first contract root hdistinct
    · exact hnone
    · rw [read_of_first hdistinct hfirst] at hmissing
      exact absurd hmissing (outcome_ne_missing _ _ _ _)
  · exact read_of_none

theorem read_eq_ok_iff {code : Bytes} (hdistinct : tree.Distinct) :
    read (m := Id) fetch root tree contract = .ok code ↔
      ∃ names content bytes text, First contract root tree names content ∧
        fetch (Path.joinAll root names) content = .ok bytes ∧
        Text.ofUtf8? bytes = some text ∧ bytecode? text = some code := by
  constructor
  · intro hcode
    obtain hnone | ⟨names, content, hfirst⟩ := none_or_first contract root hdistinct
    · rw [(read_eq_missing_iff hdistinct).mpr hnone] at hcode
      contradiction
    · rw [read_of_first hdistinct hfirst] at hcode
      obtain ⟨bytes, text, hwell⟩ := outcome_eq_ok_iff.mp hcode
      exact ⟨names, content, bytes, text, hfirst, hwell⟩
  · rintro ⟨names, content, bytes, text, hfirst, hwell⟩
    rw [read_of_first hdistinct hfirst]
    exact outcome_eq_ok_iff.mpr ⟨bytes, text, hwell⟩

/-- The bytecode of a contract is read from the artifact with the smallest path, names compared one by
one, and the search fails for want of a file exactly if there is no artifact at any depth. That one file
decides: no bytecode is read unless it has one, the content of every other file may be different, and so
may be the links. -/
theorem read_decided_by_first (fetch : String → α → Except String Bytes) (root contract : String)
    (tree : FileTree α) (hdistinct : tree.Distinct) :
    (∀ path stored, tree.Holds path stored → IsArtifact contract root path →
      ∃ names content, First contract root tree names content ∧
        read (m := Id) fetch root tree contract =
          outcome (Path.joinAll root names) (fetch (Path.joinAll root names) content)) ∧
    (read (m := Id) fetch root tree contract = .error (.missing contract root) ↔
      ∀ path stored, tree.Holds path stored → ¬ IsArtifact contract root path) ∧
    (∀ code, read (m := Id) fetch root tree contract = .ok code ↔
      ∃ names content bytes text, First contract root tree names content ∧
        fetch (Path.joinAll root names) content = .ok bytes ∧
        Text.ofUtf8? bytes = some text ∧ bytecode? text = some code) ∧
    (∀ other : FileTree α, other.Distinct →
      (∀ names, (∃ content, other.Holds names content) ↔ ∃ content, tree.Holds names content) →
      (∀ names content, First contract root tree names content → other.Holds names content) →
      read (m := Id) fetch root other contract = read (m := Id) fetch root tree contract) ∧
    (∀ other : FileTree α, other.Distinct → other.withoutLinks = tree.withoutLinks →
      read (m := Id) fetch root other contract = read (m := Id) fetch root tree contract) := by
  refine ⟨?_, read_eq_missing_iff hdistinct, fun _ => read_eq_ok_iff hdistinct, ?_, ?_⟩
  · intro path stored hholds hartifact
    obtain hnone | ⟨names, content, hfirst⟩ := none_or_first contract root hdistinct
    · exact absurd hartifact (hnone path stored hholds)
    · exact ⟨names, content, hfirst, read_of_first (m := Id) hdistinct hfirst⟩
  · intro other hother hpaths hcontent
    apply read_congr hdistinct hother
    · intro path stored hholds _
      exact (hpaths path).mp ⟨stored, hholds⟩
    · exact hcontent
  · intro other hother hlinks
    exact read_congr_of_withoutLinks hdistinct hother hlinks

/-- A tree in which two files are artifacts of `T`, the first without a bytecode. Before it stand a
directory of its name and a file outside of `T.sol`, and links lead to the other one and in a circle. -/
def lookAlikes : FileTree String :=
  .directory [
    ("T.json", .file "\x7b\"bytecode\":\"0x09\"\x7d"),
    ("T.sol", .link "c/T.sol"),
    ("c", .directory [("T.sol", .directory [("T.json", .file "\x7b\"bytecode\":\"0x01\"\x7d")])]),
    ("b", .directory [("T.sol", .directory [("up", .link "b"), ("T.json", .file "[]")])]),
    ("a", .directory [("T.sol", .directory [("T.json", .directory [])])])]

theorem holds_lookAlikes_iff {content : String} :
    lookAlikes.Holds names content ↔
      names = ["T.json"] ∧ content = "\x7b\"bytecode\":\"0x09\"\x7d" ∨
      names = ["c", "T.sol", "T.json"] ∧ content = "\x7b\"bytecode\":\"0x01\"\x7d" ∨
      names = ["b", "T.sol", "T.json"] ∧ content = "[]" := by
  simp [lookAlikes, FileTree.holds_directory, or_and_right, exists_or]

theorem read_decided_by_first_of_lookAlikes :
    lookAlikes.Distinct ∧
      read (m := Id) (fun _ text => .ok (Text.toUtf8 text.toList)) "out" lookAlikes "T" =
        .error (.malformed "out/b/T.sol/T.json" "not an artifact with a bytecode") := by
  have hdistinct : lookAlikes.Distinct := by
    simp [lookAlikes, FileTree.distinct_directory]
  have hbroken : lookAlikes.Holds ["b", "T.sol", "T.json"] "[]" := by
    simp [holds_lookAlikes_iff]
  have hartifact : IsArtifact "T" "out" ["b", "T.sol", "T.json"] := by decide
  have hmalformed : outcome (Path.joinAll "out" ["b", "T.sol", "T.json"]) (.ok (Text.toUtf8 "[]".toList)) =
      .error (.malformed "out/b/T.sol/T.json" "not an artifact with a bytecode") := by
    decide +kernel
  obtain ⟨hdecided, _⟩ := read_decided_by_first (fun _ text => .ok (Text.toUtf8 text.toList)) "out" "T"
    lookAlikes hdistinct
  obtain ⟨names, content, hfirst, hread⟩ := hdecided _ _ hbroken hartifact
  have hplace : names = ["b", "T.sol", "T.json"] ∧ content = "[]" := by
    obtain ⟨rfl, _⟩ | ⟨rfl, _⟩ | hplace := holds_lookAlikes_iff.mp hfirst.holds
    · exact absurd hfirst.isArtifact (by decide)
    · exact absurd (hfirst.least _ _ hbroken hartifact) (by decide)
    · exact hplace
  rw [hplace.1, hplace.2] at hread
  exact ⟨hdistinct, hread.trans hmalformed⟩

end RollupBridge.Artifact
