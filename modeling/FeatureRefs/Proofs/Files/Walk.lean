import Mathlib.Data.List.Lex
import FeatureRefs.Files.Tree
import FeatureRefs.Proofs.Files.Path
import FeatureRefs.Proofs.Lookup

/-!
# Walking a tree

What a walk of a tree finds, said without a walk. A file is found under the names that lead to it when
every beginning of these names may be entered, the file itself included. A walk compares only the entries
of one directory with each other. Where these have distinct names, no file is found twice, and the files of
the whole tree come in the strict order of their names, one name after the other.
-/

namespace FeatureRefs

namespace Tree

/-! ## What is there -/

/-- What is found in a tree under names. -/
def at? : List String → Tree → Option Tree
  | [], tree => some tree
  | name :: names, .directory entries => (entries.lookup name).bind (at? names)
  | _ :: _, .file _ => none

/-- A tree in which the entries of each directory have distinct names, and these can be names. -/
inductive IsProper : Tree → Prop where
  | file (content : ByteArray) : IsProper (.file content)
  | directory {entries : List (String × Tree)} (distinct : (entries.map Prod.fst).Nodup)
      (names : ∀ entry ∈ entries, Path.IsName entry.1)
      (below : ∀ entry ∈ entries, IsProper entry.2) : IsProper (.directory entries)

theorem at?_file_eq_some_iff {names : List String} {content : ByteArray} {tree : Tree} :
    (file content).at? names = some tree ↔ names = [] ∧ tree = .file content := by
  cases names with
  | nil => simp [at?, eq_comm]
  | cons name names => simp [at?]

/-- What is found under names is found by one name after the other. -/
theorem at?_cons (name : String) (names : List String) (tree : Tree) :
    tree.at? (name :: names) = (tree.at? [name]).bind (at? names) := by
  cases tree with
  | file content => rfl
  | directory entries =>
      simp only [at?]
      cases entries.lookup name with
      | none => rfl
      | some tree => rfl

/-- Only names that can be names lead to something in a proper tree. -/
theorem IsProper.isName_of_at? {tree found : Tree} {names : List String} (h : tree.IsProper)
    (hfound : tree.at? names = some found) : ∀ name ∈ names, Path.IsName name := by
  induction names generalizing tree with
  | nil => simp
  | cons name names ih =>
      cases h with
      | file content => simp [at?] at hfound
      | @directory entries distinct hnames below =>
          simp only [at?, Option.bind_eq_some_iff] at hfound
          obtain ⟨tree, hlookup, hrest⟩ := hfound
          have hmem : (name, tree) ∈ entries := (lookup_eq_some_iff_mem distinct).1 hlookup
          intro other hother
          rcases List.mem_cons.1 hother with rfl | hother
          · exact hnames _ hmem
          · exact ih (below _ hmem) hrest other hother

/-! ## What is found -/

section

variable {enter : List String → Bool} {above names : List String} {content : ByteArray}

theorem mem_walk_directory_iff {entries : List (String × Tree)} :
    (names, content) ∈ (directory entries).walk enter above ↔
      ∃ entry ∈ entries, enter (above ++ [entry.1]) = true ∧
        (names, content) ∈ entry.2.walk enter (above ++ [entry.1]) := by
  simp only [walk_directory, List.mem_flatMap, List.mem_mergeSort, List.mem_ite_nil_right]

/-- Every beginning of names that lead on from `above` may be entered. -/
def MayEnter (enter : List String → Bool) (above names : List String) : Prop :=
  ∀ part, part <+: names → part ≠ [] → enter (above ++ part) = true

theorem mayEnter_nil : MayEnter enter above [] := by
  intro part hpart hne
  exact absurd (List.prefix_nil.1 hpart) hne

theorem mayEnter_cons_iff {name : String} :
    MayEnter enter above (name :: names) ↔
      enter (above ++ [name]) = true ∧ MayEnter enter (above ++ [name]) names := by
  constructor
  · intro h
    refine ⟨h [name] ⟨names, rfl⟩ (by simp), fun part hpart hne => ?_⟩
    obtain ⟨rest, rfl⟩ := hpart
    have hlonger := h (name :: part) ⟨rest, rfl⟩ (by simp)
    rwa [List.append_assoc]
  · rintro ⟨hname, hrest⟩ part hpart hne
    rcases List.prefix_cons_iff.1 hpart with rfl | ⟨more, rfl, hmore⟩
    · exact absurd rfl hne
    · by_cases hnil : more = []
      · rw [hnil]
        exact hname
      · have hlonger := hrest more hmore hnil
        rwa [List.append_assoc] at hlonger

/-- A walk finds the files to which names lead that may be entered one after the other. -/
theorem IsProper.mem_walk_iff {tree : Tree} (h : tree.IsProper) :
    (names, content) ∈ tree.walk enter above ↔
      ∃ below, names = above ++ below ∧ tree.at? below = some (.file content) ∧
        MayEnter enter above below := by
  induction h generalizing above with
  | file bytes =>
      simp only [walk_file, List.mem_singleton, Prod.mk.injEq]
      constructor
      · rintro ⟨rfl, rfl⟩
        exact ⟨[], (List.append_nil _).symm, rfl, mayEnter_nil⟩
      · rintro ⟨below, rfl, hfile, -⟩
        obtain ⟨rfl, hcontent⟩ := at?_file_eq_some_iff.1 hfile
        exact ⟨List.append_nil _, Tree.file.inj hcontent⟩
  | @directory entries distinct hnames below ih =>
      rw [mem_walk_directory_iff]
      constructor
      · rintro ⟨⟨name, tree⟩, hentry, henter, hfound⟩
        obtain ⟨rest, rfl, hfile, hrest⟩ := (ih _ hentry).1 hfound
        have hlookup : entries.lookup name = some tree := (lookup_eq_some_iff_mem distinct).2 hentry
        refine ⟨name :: rest, by simp, ?_, mayEnter_cons_iff.2 ⟨henter, hrest⟩⟩
        simpa [at?, hlookup] using hfile
      · rintro ⟨path, rfl, hfile, hpath⟩
        cases path with
        | nil => simp [at?] at hfile
        | cons name rest =>
            obtain ⟨henter, hrest⟩ := mayEnter_cons_iff.1 hpath
            simp only [at?, Option.bind_eq_some_iff] at hfile
            obtain ⟨tree, hlookup, hfile⟩ := hfile
            have hentry : (name, tree) ∈ entries := (lookup_eq_some_iff_mem distinct).1 hlookup
            exact ⟨(name, tree), hentry, henter, (ih _ hentry).2 ⟨rest, by simp, hfile, hrest⟩⟩

end

/-! ## The order in which files are found -/

theorem nameOrder_trans (a b c : String × Tree) (hab : nameOrder a b = true)
    (hbc : nameOrder b c = true) : nameOrder a c = true := by
  unfold nameOrder at hab hbc ⊢
  rw [decide_eq_true_eq] at hab hbc ⊢
  exact String.le_trans hab hbc

theorem nameOrder_total (a b : String × Tree) : (nameOrder a b || nameOrder b a) = true := by
  unfold nameOrder
  rw [Bool.or_eq_true, decide_eq_true_eq, decide_eq_true_eq]
  exact String.le_total a.1 b.1

/-- The entries of a directory with distinct names are visited in the strict order of these names. -/
theorem pairwise_mergeSort_nameOrder {entries : List (String × Tree)}
    (distinct : (entries.map Prod.fst).Nodup) :
    (entries.mergeSort nameOrder).Pairwise fun a b => a.1 < b.1 := by
  have hsorted : (entries.mergeSort nameOrder).Pairwise fun a b => nameOrder a b = true :=
    List.pairwise_mergeSort nameOrder_trans nameOrder_total entries
  have hdistinct : ((entries.mergeSort nameOrder).map Prod.fst).Nodup :=
    ((List.mergeSort_perm entries nameOrder).map Prod.fst).nodup_iff.2 distinct
  refine (hsorted.and (List.pairwise_map.1 hdistinct)).imp ?_
  rintro a b ⟨hle, hne⟩
  by_contra hlt
  exact hne (String.le_antisymm (of_decide_eq_true hle) (String.not_lt.1 hlt))

/-- A walk finds files in the strict order of their names. -/
theorem IsProper.pairwise_walk {tree : Tree} (h : tree.IsProper) (enter : List String → Bool)
    (above : List String) :
    (tree.walk enter above).Pairwise fun a b => List.Lex (· < ·) a.1 b.1 := by
  induction h generalizing above with
  | file content =>
      rw [walk_file]
      exact List.pairwise_singleton _ _
  | @directory entries distinct hnames below ih =>
      rw [walk_directory, List.pairwise_flatMap]
      constructor
      · -- The files of one entry are in order by induction.
        intro entry hentry
        split
        · exact ih entry (List.mem_mergeSort.1 hentry) (above ++ [entry.1])
        · exact List.Pairwise.nil
      · -- The files of two entries are in the order of the entries, by the first names that differ.
        refine (pairwise_mergeSort_nameOrder distinct).imp_of_mem ?_
        rintro entry other hentry hother hlt ⟨names, content⟩ hfile ⟨names', content'⟩ hfile'
        rw [List.mem_ite_nil_right] at hfile hfile'
        obtain ⟨rest, rfl, -, -⟩ := (below _ (List.mem_mergeSort.1 hentry)).mem_walk_iff.1 hfile.2
        obtain ⟨rest', rfl, -, -⟩ := (below _ (List.mem_mergeSort.1 hother)).mem_walk_iff.1 hfile'.2
        rw [List.append_assoc, List.append_assoc]
        exact List.Lex.append_left _ (List.Lex.rel hlt) above

end Tree

end FeatureRefs
