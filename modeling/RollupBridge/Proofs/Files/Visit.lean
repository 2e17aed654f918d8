import Mathlib.Data.List.Lex
import Mathlib.Data.List.Nodup
import Mathlib.Data.String.Basic
import RollupBridge.Files.Tree

namespace RollupBridge.FileTree

variable {α : Type} {tree : FileTree α} {entries : List (String × FileTree α)} {names : List String}
  {content : α}

/-- A regular file stands at a path in a tree. Nothing stands behind a link. -/
inductive Holds : FileTree α → List String → α → Prop
  | file (content : α) : Holds (.file content) [] content
  | entry {entries : List (String × FileTree α)} {name : String} {tree : FileTree α}
      {names : List String} {content : α} :
      (name, tree) ∈ entries → Holds tree names content →
        Holds (.directory entries) (name :: names) content

/-- No two entries of a directory have the same name, anywhere in the tree. -/
inductive Distinct : FileTree α → Prop
  | file (content : α) : Distinct (.file content)
  | link (target : String) : Distinct (.link target)
  | directory {entries : List (String × FileTree α)} :
      (entries.map Prod.fst).Nodup → (∀ entry ∈ entries, Distinct entry.2) →
        Distinct (.directory entries)

/-- The entries of a directory with one more in front, unless that is a link. -/
def consUnlessLink (name : String) (tree : FileTree α) (rest : List (String × FileTree α)) :
    List (String × FileTree α) :=
  match tree with
  | .link _ => rest
  | tree => (name, tree) :: rest

mutual

/-- A tree without the links below its root. -/
def withoutLinks : FileTree α → FileTree α
  | .file content => .file content
  | .link target => .link target
  | .directory entries => .directory (entriesWithoutLinks entries)

def entriesWithoutLinks : List (String × FileTree α) → List (String × FileTree α)
  | [] => []
  | (name, tree) :: rest => consUnlessLink name (withoutLinks tree) (entriesWithoutLinks rest)

end

@[simp]
theorem holds_file {stored : α} : (file stored).Holds names content ↔ names = [] ∧ content = stored := by
  constructor
  · intro hholds
    cases hholds
    exact ⟨rfl, rfl⟩
  · rintro ⟨rfl, rfl⟩
    exact .file content

@[simp]
theorem not_holds_link {target : String} : ¬ (link target).Holds names content := by
  intro hholds
  cases hholds

theorem holds_directory {path : List String} :
    (directory entries).Holds path content ↔
      ∃ name tree names, (name, tree) ∈ entries ∧ path = name :: names ∧ tree.Holds names content := by
  constructor
  · intro hholds
    cases hholds with
    | entry hentry hbelow => exact ⟨_, _, _, hentry, rfl, hbelow⟩
  · rintro ⟨name, tree, names, hentry, rfl, hbelow⟩
    exact .entry hentry hbelow

attribute [simp] Distinct.file Distinct.link

theorem distinct_directory :
    (directory entries).Distinct ↔
      (entries.map Prod.fst).Nodup ∧ ∀ entry ∈ entries, entry.2.Distinct := by
  constructor
  · intro hdistinct
    cases hdistinct with
    | directory hnames hbelow => exact ⟨hnames, hbelow⟩
  · rintro ⟨hnames, hbelow⟩
    exact .directory hnames hbelow

/-- At most one regular file stands at a path. -/
theorem Distinct.content_unique {other : α} (hdistinct : tree.Distinct)
    (hcontent : tree.Holds names content) (hother : tree.Holds names other) : content = other := by
  induction hcontent generalizing other with
  | file content => exact (holds_file.mp hother).2.symm
  | @entry entries name tree names content hentry _ ih =>
    cases hother with
    | @entry _ _ tree' _ _ hentry' hother =>
      obtain ⟨hnames, hbelow⟩ := distinct_directory.mp hdistinct
      have heq : (name, tree) = (name, tree') := List.inj_on_of_nodup_map hnames hentry hentry' rfl
      cases heq
      exact ih (hbelow _ hentry) hother

theorem inNameOrder_perm {β : Type} (entries : List (String × β)) : (inNameOrder entries).Perm entries :=
  List.mergeSort_perm entries _

/-- Distinct names come in strictly ascending order. -/
theorem inNameOrder_pairwise {β : Type} {entries : List (String × β)}
    (hdistinct : (entries.map Prod.fst).Nodup) :
    (inNameOrder entries).Pairwise fun a b => a.1 < b.1 := by
  have hsorted : (inNameOrder entries).Pairwise fun a b => decide (a.1 ≤ b.1) = true := by
    apply List.pairwise_mergeSort
    · intro a b c hab hbc
      exact decide_eq_true (le_trans (of_decide_eq_true hab) (of_decide_eq_true hbc))
    · intro a b
      simpa only [Bool.or_eq_true, decide_eq_true_eq] using le_total a.1 b.1
  have hnames : ((inNameOrder entries).map Prod.fst).Nodup :=
    ((inNameOrder_perm entries).map Prod.fst).nodup_iff.mpr hdistinct
  have hne : (inNameOrder entries).Pairwise fun a b => a.1 ≠ b.1 := List.pairwise_map.mp hnames
  apply (hsorted.and hne).imp
  rintro a b ⟨hle, hab⟩
  exact lt_of_le_of_ne (of_decide_eq_true hle) hab

theorem entryFiles_eq_map (entries : List (String × FileTree α)) :
    entryFiles entries = entries.map fun (name, tree) => (name, tree.files) := by
  induction entries with
  | nil => rfl
  | cons entry entries ih => rw [entryFiles, ih, List.map_cons]

/-- A visit of a directory comes by the files below its entries. -/
theorem mem_files_directory {path : List String} :
    (path, content) ∈ (directory entries).files ↔
      ∃ name tree names, (name, tree) ∈ entries ∧ path = name :: names ∧ (names, content) ∈ tree.files := by
  simp only [files, List.mem_flatMap, (inNameOrder_perm _).mem_iff, entryFiles_eq_map, List.mem_map,
    prepend, Prod.exists, Prod.mk.injEq]
  constructor
  · rintro ⟨_, _, ⟨name, tree, hentry, rfl, rfl⟩, names, _, hfile, rfl, rfl⟩
    exact ⟨name, tree, names, hentry, rfl, hfile⟩
  · rintro ⟨name, tree, names, hentry, rfl, hfile⟩
    exact ⟨name, tree.files, ⟨name, tree, hentry, rfl, rfl⟩, names, content, hfile, rfl, rfl⟩

/-- A visit comes by exactly the regular files of a tree. -/
theorem mem_files : (names, content) ∈ tree.files ↔ tree.Holds names content := by
  induction names generalizing tree with
  | nil =>
    cases tree with
    | file stored => simp [files]
    | link target => simp [files]
    | directory entries => simp [mem_files_directory, holds_directory]
  | cons name names ih =>
    cases tree with
    | file stored => simp [files]
    | link target => simp [files]
    | directory entries => simp [mem_files_directory, holds_directory, ih]

/-- A visit comes by the files in strictly ascending order of their paths. -/
theorem Distinct.files_pairwise (hdistinct : tree.Distinct) :
    tree.files.Pairwise fun a b => a.1 < b.1 := by
  induction hdistinct with
  | file content => simp [files]
  | link target => simp [files]
  | @directory entries hnames _ ih =>
    have horder : (inNameOrder (entryFiles entries)).Pairwise fun a b => a.1 < b.1 := by
      apply inNameOrder_pairwise
      rw [entryFiles_eq_map, List.map_map]
      exact hnames
    rw [files, List.pairwise_flatMap]
    constructor
    -- Below one entry the paths share their first name.
    · rintro ⟨name, below⟩ hmem
      rw [(inNameOrder_perm _).mem_iff, entryFiles_eq_map] at hmem
      obtain ⟨entry, hentry, heq⟩ := List.mem_map.mp hmem
      cases heq
      apply List.pairwise_map.mpr
      apply (ih entry hentry).imp
      intro a b hab
      exact List.cons_lt_cons_iff.mpr (.inr ⟨rfl, hab⟩)
    -- Below two of them the first name decides.
    · apply horder.imp
      intro a b hab x hx y hy
      obtain ⟨_, _, rfl⟩ := List.mem_map.mp hx
      obtain ⟨_, _, rfl⟩ := List.mem_map.mp hy
      exact List.cons_lt_cons_iff.mpr (.inl hab)

theorem mem_consUnlessLink {name : String} {entry : String × FileTree α} :
    entry ∈ consUnlessLink name tree entries ↔
      (entry = (name, tree) ∧ ∀ target, tree ≠ .link target) ∨ entry ∈ entries := by
  cases tree <;> simp [consUnlessLink]

theorem mem_entriesWithoutLinks {name : String} :
    (name, tree) ∈ entriesWithoutLinks entries ↔
      ∃ linked, (name, linked) ∈ entries ∧ linked.withoutLinks = tree ∧ ∀ target, tree ≠ .link target := by
  induction entries with
  | nil => simp [entriesWithoutLinks]
  | cons entry entries ih =>
    obtain ⟨first, linked⟩ := entry
    rw [entriesWithoutLinks, mem_consUnlessLink, ih]
    grind

/-- Without its links a tree holds the same regular files. -/
theorem holds_withoutLinks : tree.withoutLinks.Holds names content ↔ tree.Holds names content := by
  constructor
  · intro hholds
    induction names generalizing tree with
    | nil =>
      cases tree with
      | file stored => simpa only [withoutLinks] using hholds
      | link target => simpa only [withoutLinks] using hholds
      | directory entries => simp [withoutLinks, holds_directory] at hholds
    | cons name names ih =>
      cases tree with
      | file stored => simpa only [withoutLinks] using hholds
      | link target => simpa only [withoutLinks] using hholds
      | directory entries =>
        rw [withoutLinks] at hholds
        cases hholds with
        | entry hentry hbelow =>
          obtain ⟨linked, hlinked, rfl, _⟩ := mem_entriesWithoutLinks.mp hentry
          exact .entry hlinked (ih hbelow)
  · intro hholds
    induction hholds with
    | file content => simp [withoutLinks]
    | @entry entries name tree names content hentry _ ih =>
      have hfile : ∀ target, tree.withoutLinks ≠ .link target := by
        intro target hlink
        rw [hlink] at ih
        exact not_holds_link ih
      rw [withoutLinks]
      exact .entry (mem_entriesWithoutLinks.mpr ⟨tree, hentry, rfl, hfile⟩) ih

end RollupBridge.FileTree
