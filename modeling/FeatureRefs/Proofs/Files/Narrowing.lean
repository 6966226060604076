import Mathlib.Data.List.Flatten
import Mathlib.Data.List.Forall2
import FeatureRefs.Proofs.Files.Walk

/-!
# Narrower walks

A walk that may enter less finds a part of the files, and what it finds it finds in the same order. Whether
entries have distinct names does not matter for that: both walks visit the same entries in the same order.

Two trees may have different bytes where nobody looks at them. A walk of either finds the same as far as files
are looked at, whatever it may enter.
-/

namespace FeatureRefs

/-! ## Sorting one by one -/

section

variable {α : Type} {le : α → α → Bool} (trans : ∀ a b c, le a b = true → le b c = true → le a c = true)
  (total : ∀ a b, (le a b || le b a) = true)

include trans total

/-- The first element of a list is sorted in behind all that must be before it. -/
theorem mergeSort_cons_eq (a : α) (l : List α) :
    (a :: l).mergeSort le =
      (l.mergeSort le).filter (!le a ·) ++ a :: (l.mergeSort le).filter (le a ·) := by
  obtain ⟨before, after, hcons, hsplit, hbefore⟩ := List.mergeSort_cons trans total a l
  have hsorted := List.pairwise_mergeSort trans total (a :: l)
  rw [hcons, List.pairwise_append, List.pairwise_cons] at hsorted
  have hafter : ∀ b ∈ after, le a b = true := hsorted.2.1.1
  have hkept : (before ++ after).filter (!le a ·) = before := by
    rw [List.filter_append, List.filter_eq_self.2 hbefore, List.filter_eq_nil_iff.2,
      List.append_nil]
    intro b hb
    simp [hafter b hb]
  have hrest : (before ++ after).filter (le a ·) = after := by
    rw [List.filter_append, List.filter_eq_self.2 hafter, List.filter_eq_nil_iff.2, List.nil_append]
    intro b hb
    simpa using hbefore b hb
  rw [hcons, hsplit, hkept, hrest]

/-- Lists whose elements are in the same order, one by one, are sorted one by one. -/
theorem forall₂_mergeSort {R : α → α → Prop}
    (hle : ∀ a a' b b', R a a' → R b b' → le a b = le a' b') {l l' : List α}
    (h : List.Forall₂ R l l') : List.Forall₂ R (l.mergeSort le) (l'.mergeSort le) := by
  induction h with
  | nil => simp
  | @cons a a' l l' ha h ih =>
      rw [mergeSort_cons_eq trans total, mergeSort_cons_eq trans total]
      refine List.rel_append (List.rel_filter ?_ ih) (.cons ha (List.rel_filter ?_ ih))
      · intro b b' hb
        show (!le a b) = true ↔ (!le a' b') = true
        rw [hle a a' b b' ha hb]
      · intro b b' hb
        show le a b = true ↔ le a' b' = true
        rw [hle a a' b b' ha hb]

end

namespace Tree

/-! ## Entering less -/

/-- A walk that may enter less finds a part of the files in the same order. -/
theorem walk_sublist {enter enter' : List String → Bool}
    (h : ∀ names, enter names = true → enter' names = true) (above : List String) (tree : Tree) :
    (tree.walk enter above).Sublist (tree.walk enter' above) := by
  induction above, tree using walk.induct with
  | case1 above content =>
      rw [walk_file, walk_file]
  | case2 above entries ih =>
      rw [walk_directory, walk_directory]
      apply List.Sublist.flatMap_right
      rintro ⟨name, tree⟩ hentry
      by_cases henter : enter (above ++ [name]) = true
      · rw [if_pos henter, if_pos (h _ henter)]
        exact ih name tree hentry
      · rw [if_neg henter]
        exact List.nil_sublist _

/-! ## Trees that look the same -/

/-- Two trees below `above` with the same names in the same order, whose files look the same. -/
inductive LooksSame {α : Type} (look : List String × ByteArray → α) :
    List String → Tree → Tree → Prop where
  | file {above : List String} {content content' : ByteArray}
      (look_eq : look (above, content) = look (above, content')) :
      LooksSame look above (.file content) (.file content')
  | directory {above : List String} {entries entries' : List (String × Tree)}
      (length_eq : entries.length = entries'.length)
      (name_eq : ∀ pair ∈ entries.zip entries', pair.1.1 = pair.2.1)
      (below : ∀ pair ∈ entries.zip entries',
        LooksSame look (above ++ [pair.1.1]) pair.1.2 pair.2.2) :
      LooksSame look above (.directory entries) (.directory entries')

/-- A directory looks the same when each of its entries keeps its name and looks the same. -/
theorem LooksSame.map {α : Type} {look : List String × ByteArray → α} {above : List String}
    {entries : List (String × Tree)} {change : String × Tree → String × Tree}
    (hname : ∀ entry, (change entry).1 = entry.1)
    (hbelow : ∀ entry ∈ entries, LooksSame look (above ++ [entry.1]) entry.2 (change entry).2) :
    LooksSame look above (.directory entries) (.directory (entries.map change)) := by
  have hpairs : List.Forall₂ (fun entry entry' => entry' = change entry) entries
      (entries.map change) :=
    List.forall₂_map_right_iff.2 (List.forall₂_same.2 fun _ _ => rfl)
  refine .directory (List.length_map _).symm ?_ ?_
  · rintro ⟨entry, entry'⟩ hpair
    obtain rfl := List.forall₂_zip hpairs hpair
    exact (hname entry).symm
  · rintro ⟨entry, entry'⟩ hpair
    obtain rfl := List.forall₂_zip hpairs hpair
    exact hbelow entry (List.of_mem_zip hpair).1

theorem LooksSame.refl {α : Type} (look : List String × ByteArray → α) (above : List String)
    (tree : Tree) : LooksSame look above tree tree := by
  induction above, tree using walk.induct with
  | case1 above content => exact .file rfl
  | case2 above entries ih =>
      have hsame : LooksSame look above (.directory entries) (.directory (entries.map id)) :=
        .map (fun _ => rfl) fun entry hentry => ih _ _ (List.mem_mergeSort.2 hentry)
      rwa [List.map_id] at hsame

/-- The tree with other bytes in the file under names, if there is one. -/
def replace (content : ByteArray) : List String → Tree → Tree
  | [], .file _ => .file content
  | [], .directory entries => .directory entries
  | _ :: _, .file bytes => .file bytes
  | name :: names, .directory entries =>
      .directory (entries.map fun entry =>
        (entry.1, if entry.1 == name then replace content names entry.2 else entry.2))

/-- Where the bytes of one file do not count, the tree looks the same with others in it. -/
theorem LooksSame.replace {α : Type} {look : List String × ByteArray → α} {above names : List String}
    (h : ∀ content content', look (above ++ names, content) = look (above ++ names, content'))
    (content : ByteArray) (tree : Tree) : LooksSame look above tree (tree.replace content names) := by
  induction names generalizing above tree with
  | nil =>
      cases tree with
      | file bytes =>
          rw [List.append_nil] at h
          exact .file (h bytes content)
      | directory entries => exact .refl look above _
  | cons name names ih =>
      cases tree with
      | file bytes => exact .refl look above _
      | directory entries =>
          rw [Tree.replace]
          refine .map (fun _ => rfl) fun entry _ => ?_
          dsimp only
          split
          · next heq =>
              obtain rfl : entry.1 = name := eq_of_beq heq
              exact ih (fun content content' => by simpa using h content content') entry.2
          · exact .refl look _ entry.2

/-- Files are found one by one in trees that look the same. -/
theorem LooksSame.forall₂_walk {α : Type} {look : List String × ByteArray → α}
    {above : List String} {tree tree' : Tree} (h : LooksSame look above tree tree')
    (enter : List String → Bool) :
    List.Forall₂ (fun a b => look a = look b) (tree.walk enter above) (tree'.walk enter above) := by
  induction h with
  | file look_eq =>
      rw [walk_file, walk_file]
      exact .cons look_eq .nil
  | @directory above entries entries' length_eq name_eq below ih =>
      let found (entry : String × Tree) : List (List String × ByteArray) :=
        if enter (above ++ [entry.1]) then entry.2.walk enter (above ++ [entry.1]) else []
      let R (entry entry' : String × Tree) : Prop := entry.1 = entry'.1 ∧
        List.Forall₂ (fun a b => look a = look b) (found entry) (found entry')
      have hentries : List.Forall₂ R entries entries' := by
        refine List.forall₂_iff_zip.2 ⟨length_eq, fun {entry entry'} hpair => ?_⟩
        have hname : entry.1 = entry'.1 := name_eq _ hpair
        have hfound := ih _ hpair
        refine ⟨hname, ?_⟩
        dsimp only [found] at hfound ⊢
        rw [← hname]
        split
        · exact hfound
        · exact .nil
      have hsorted : List.Forall₂ R (entries.mergeSort nameOrder) (entries'.mergeSort nameOrder) := by
        refine forall₂_mergeSort nameOrder_trans nameOrder_total ?_ hentries
        intro a a' b b' ha hb
        unfold nameOrder
        rw [ha.1, hb.1]
      rw [walk_directory, walk_directory]
      exact List.rel_flatMap hsorted fun _ _ hentry => hentry.2

/-- A walk finds the same in trees that look the same. -/
theorem LooksSame.filterMap_walk {α : Type} {look : List String × ByteArray → Option α}
    {above : List String} {tree tree' : Tree} (h : LooksSame look above tree tree')
    (enter : List String → Bool) :
    (tree.walk enter above).filterMap look = (tree'.walk enter above).filterMap look := by
  have hfound := h.forall₂_walk enter
  generalize tree.walk enter above = files, tree'.walk enter above = files' at hfound
  induction hfound with
  | nil => rfl
  | cons hfirst hothers ih => rw [List.filterMap_cons, List.filterMap_cons, hfirst, ih]

end Tree

end FeatureRefs
