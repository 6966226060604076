import FeatureRefs.Proofs.Completion.Narrowing

/-!
# The order in which items are shown

An editor sorts the items that it is given by their texts, and not by the numbers that the texts stand for.
Ranks below 100000 are written with five digits, and texts of one length are in the order of their numbers. So
up to 100000 items are shown in the order of the search, in whatever order the editor was given them.

For more items this is NOT so. The text of the rank 100000 has a digit more, and it comes before the text of the
rank 99999.
-/

namespace FeatureRefs

/-! ## Decimal digits -/

section

variable {c d : Char}

theorem toNat_sub_lt_ten (h : c.isDigit = true) : c.toNat - '0'.toNat < 10 := by
  rw [Char.isDigit_iff_toNat] at h
  simp only [Char.reduceToNat] at h ⊢
  omega

theorem toNat_sub_lt_iff (hc : c.isDigit = true) (hd : d.isDigit = true) :
    c.toNat - '0'.toNat < d.toNat - '0'.toNat ↔ c < d := by
  rw [Char.isDigit_iff_toNat] at hc hd
  rw [Char.lt_def, UInt32.lt_iff_toNat_lt, Char.toNat_val, Char.toNat_val]
  simp only [Char.reduceToNat] at hc hd ⊢
  omega

theorem toNat_sub_inj (hc : c.isDigit = true) (hd : d.isDigit = true) :
    c.toNat - '0'.toNat = d.toNat - '0'.toNat ↔ c = d := by
  rw [Char.isDigit_iff_toNat] at hc hd
  rw [← Char.toNat_inj]
  simp only [Char.reduceToNat] at hc hd ⊢
  omega

end

/-- Numbers with a place value in front are in the order of that place, and then of the rest. -/
theorem mul_add_lt_mul_add_iff {b x y m n : Nat} (hm : m < b) (hn : n < b) :
    b * x + m < b * y + n ↔ x < y ∨ x = y ∧ m < n := by
  rcases Nat.lt_trichotomy x y with hlt | rfl | hlt
  · have hplace : b * (x + 1) ≤ b * y := Nat.mul_le_mul_left b hlt
    rw [Nat.mul_succ] at hplace
    omega
  · omega
  · have hplace : b * (y + 1) ≤ b * x := Nat.mul_le_mul_left b hlt
    rw [Nat.mul_succ] at hplace
    omega

/-- The place value of the first digit has a ten for each digit behind it. -/
theorem ofDigitChars_ten_cons (c : Char) (s : List Char) :
    Nat.ofDigitChars 10 (c :: s) 0 =
      10 ^ s.length * (c.toNat - '0'.toNat) + Nat.ofDigitChars 10 s 0 := by
  rw [Nat.ofDigitChars_cons, Nat.ofDigitChars_eq_ofDigitChars_zero, Nat.mul_zero, Nat.zero_add]

theorem ofDigitChars_ten_lt {s : List Char} (h : ∀ c ∈ s, c.isDigit = true) :
    Nat.ofDigitChars 10 s 0 < 10 ^ s.length := by
  induction s with
  | nil => simp
  | cons c s ih =>
      obtain ⟨hc, hs⟩ := List.forall_mem_cons.1 h
      have hrest := ih hs
      have hfirst := toNat_sub_lt_ten hc
      rw [ofDigitChars_ten_cons, List.length_cons, Nat.pow_succ]
      calc 10 ^ s.length * (c.toNat - '0'.toNat) + Nat.ofDigitChars 10 s 0
          < 10 ^ s.length * (c.toNat - '0'.toNat) + 10 ^ s.length := Nat.add_lt_add_left hrest _
        _ = 10 ^ s.length * (c.toNat - '0'.toNat + 1) := (Nat.mul_succ _ _).symm
        _ ≤ 10 ^ s.length * 10 := Nat.mul_le_mul_left _ hfirst

/-- Decimal texts of one length are in the order of the numbers that they stand for. -/
theorem lt_iff_ofDigitChars_lt {s t : List Char} (hs : ∀ c ∈ s, c.isDigit = true)
    (ht : ∀ c ∈ t, c.isDigit = true) (hlength : s.length = t.length) :
    s < t ↔ Nat.ofDigitChars 10 s 0 < Nat.ofDigitChars 10 t 0 := by
  induction s generalizing t with
  | nil =>
      obtain rfl := List.length_eq_zero_iff.1 hlength.symm
      simp
  | cons c s ih =>
      cases t with
      | nil => exact absurd hlength (Nat.succ_ne_zero s.length)
      | cons d t =>
          obtain ⟨hc, hs⟩ := List.forall_mem_cons.1 hs
          obtain ⟨hd, ht⟩ := List.forall_mem_cons.1 ht
          have hrest : s.length = t.length := Nat.succ.inj hlength
          have hbound := ofDigitChars_ten_lt ht
          rw [← hrest] at hbound
          rw [List.cons_lt_cons_iff, ih hs ht hrest, ofDigitChars_ten_cons, ofDigitChars_ten_cons,
            ← hrest, mul_add_lt_mul_add_iff (ofDigitChars_ten_lt hs) hbound, toNat_sub_lt_iff hc hd,
            toNat_sub_inj hc hd]

/-! ## Texts of ranks -/

theorem toList_rankText (rank : Nat) :
    (rankText rank).toList =
      List.replicate (rankWidth - (Nat.toDigits 10 rank).length) '0' ++ Nat.toDigits 10 rank :=
  String.toList_ofList

example : rankText 7 = "00007" ∧ rankText 123456 = "123456" := by decide +kernel

theorem isDigit_of_mem_rankText {rank : Nat} {c : Char} (h : c ∈ (rankText rank).toList) :
    c.isDigit = true := by
  rw [toList_rankText, List.mem_append] at h
  rcases h with hzero | hdigit
  · rw [List.eq_of_mem_replicate hzero]
    rfl
  · exact Nat.isDigit_of_mem_toDigits (by decide) (by decide) hdigit

/-- The zeros in front do not change what a text stands for. -/
theorem ofDigitChars_rankText (rank : Nat) :
    Nat.ofDigitChars 10 (rankText rank).toList 0 = rank := by
  rw [toList_rankText, Nat.ofDigitChars_append, Nat.ofDigitChars_replicate_zero, Nat.mul_zero,
    Nat.ofDigitChars_ten_toDigits]

theorem rankText_injective : Function.Injective rankText := by
  intro i j h
  rw [← ofDigitChars_rankText i, h, ofDigitChars_rankText]

/-- Up to the width all texts have the same length. -/
theorem length_rankText {rank : Nat} (h : rank < 10 ^ rankWidth) :
    (rankText rank).toList.length = rankWidth := by
  have hdigits : (Nat.toDigits 10 rank).length ≤ rankWidth :=
    (Nat.length_toDigits_le_iff (by decide) (by decide)).2 h
  rw [toList_rankText, List.length_append, List.length_replicate, Nat.sub_add_cancel hdigits]

theorem rankText_lt_rankText_iff {i j : Nat} (hi : i < 10 ^ rankWidth) (hj : j < 10 ^ rankWidth) :
    rankText i < rankText j ↔ i < j := by
  have hlength := (length_rankText hi).trans (length_rankText hj).symm
  rw [String.lt_iff, lt_iff_ofDigitChars_lt (fun _ => isDigit_of_mem_rankText)
    (fun _ => isDigit_of_mem_rankText) hlength, ofDigitChars_rankText, ofDigitChars_rankText]

/-- The first text that is longer comes before the last one that is not. -/
theorem rankText_limit_lt : rankText (10 ^ rankWidth) < rankText (10 ^ rankWidth - 1) := by
  decide +kernel

theorem pairwise_rankText {n : Nat} (h : n ≤ 10 ^ rankWidth) :
    ((List.range n).map rankText).Pairwise (· < ·) := by
  rw [List.pairwise_map]
  refine List.pairwise_lt_range.imp_of_mem fun {i j} hi hj hij => ?_
  rw [List.mem_range] at hi hj
  exact (rankText_lt_rankText_iff (hi.trans_le h) (hj.trans_le h)).2 hij

/-- Texts of more ranks are not in their order, not even with equal ones side by side. -/
theorem le_of_pairwise_rankText {n : Nat}
    (h : ((List.range n).map rankText).Pairwise (· ≤ ·)) : n ≤ 10 ^ rankWidth := by
  by_contra hnot
  have hlimit : 10 ^ rankWidth < (List.range n).length := by
    rw [List.length_range]
    exact not_le.1 hnot
  rw [List.pairwise_map, List.pairwise_iff_getElem] at h
  -- The last rank with a text of the width and the rank behind it are both there.
  have hlast := h (10 ^ rankWidth - 1) (10 ^ rankWidth) ((Nat.sub_le _ _).trans_lt hlimit) hlimit
    (by decide)
  rw [List.getElem_range, List.getElem_range] at hlast
  exact absurd rankText_limit_lt (not_lt.2 hlast)

/-! ## The order of the items -/

/-- The order of items by their texts. -/
def textOrder (a b : CompletionItem) : Bool :=
  decide (a.sortText ≤ b.sortText)

theorem textOrder_iff (a b : CompletionItem) : textOrder a b = true ↔ a.sortText ≤ b.sortText :=
  decide_eq_true_iff

/-- The items as an editor shows them. -/
def shown (items : List CompletionItem) : List CompletionItem :=
  items.mergeSort textOrder

theorem length_completionItems (t : Trigger) (registry : Registry) :
    (completionItems t registry).length = (registry.search t.typed).length := by
  rw [completionItems, List.length_map, List.length_zipIdx]

/-- The items have the ranks from 0 on, in the order of the search. -/
theorem map_sortText_completionItems (t : Trigger) (registry : Registry) :
    (completionItems t registry).map CompletionItem.sortText =
      (List.range (completionItems t registry).length).map rankText := by
  have hranks := List.zipIdx_map_snd 0 (registry.search t.typed)
  rw [← List.range_eq_range', ← length_completionItems] at hranks
  rw [← hranks, completionItems, List.map_map, List.map_map]
  rfl

theorem offeredIds_eq (t : Trigger) (registry : Registry) :
    offeredIds t registry = (registry.search t.typed).map Candidate.id := by
  have hcandidates := List.zipIdx_map_fst 0 (registry.search t.typed)
  rw [offeredIds, completionItems, List.map_map]
  conv_rhs => rw [← hcandidates, List.map_map]
  rfl

theorem pairwise_shown (items : List CompletionItem) :
    (shown items).Pairwise fun a b => a.sortText ≤ b.sortText :=
  pairwise_mergeSort_key textOrder_iff items

/-- Up to the width the items are shown in their order, in whatever order they are received. -/
theorem shown_eq_completionItems {t : Trigger} {registry : Registry} {received : List CompletionItem}
    (h : (completionItems t registry).length ≤ 10 ^ rankWidth)
    (hreceived : received.Perm (completionItems t registry)) :
    shown received = completionItems t registry := by
  have hincreasing := pairwise_rankText h
  rw [← map_sortText_completionItems] at hincreasing
  have hdistinct : ((completionItems t registry).map CompletionItem.sortText).Nodup :=
    hincreasing.imp ne_of_lt
  have hsorted : (completionItems t registry).Pairwise fun a b => textOrder a b = true :=
    (List.pairwise_map.1 hincreasing).imp fun hab => decide_eq_true (le_of_lt hab)
  rw [shown, ← mergeSort_eq_of_perm textOrder_iff hreceived.symm
    (fun a ha b hb hab => List.inj_on_of_nodup_map hdistinct ha hb hab)]
  exact List.mergeSort_of_pairwise hsorted

/-! ## The number of items -/

/-- A registry of `n` features whose ids begin with a text. -/
def registryWith (text : String) (n : Nat) : Registry where
  features := (List.range n).map fun rank => ⟨text ++ rankText rank, "", "", "", {}⟩
  nodup_ids := by
    rw [List.map_map]
    refine List.nodup_range.map fun i j hij => rankText_injective ?_
    exact (String.append_right_inj _).1 hij

/-- Whatever is typed, all features with that text in lower case are found. -/
theorem length_search_registryWith {query text : String}
    (h : Unicode.lowercase (Unicode.trim query) = text) (n : Nat) :
    ((registryWith text n).search query).length = n := by
  have hall : ∀ c ∈ (registryWith text n).candidates, decide (c.Mentions text) = true := by
    intro c hc
    obtain ⟨feature, hfeature, rfl⟩ :=
      List.mem_map.1 ((registryWith text n).candidates_perm.mem_iff.1 hc)
    obtain ⟨rank, -, rfl⟩ := List.mem_map.1 hfeature
    refine decide_eq_true (.inl ?_)
    show text.toList <:+: (text ++ rankText rank).toList
    rw [String.toList_append]
    exact (List.prefix_append _ _).isInfix
  have hfound := Registry.searchBy_perm Registry.nameSimilarity (registryWith text n) query
  rw [h, List.filter_eq_self.2 hall] at hfound
  calc ((registryWith text n).search query).length
      = ((registryWith text n).features.map Candidate.ofFeature).length :=
        (hfound.trans (registryWith text n).candidates_perm).length_eq
    _ = n := by rw [List.length_map, registryWith, List.length_map, List.length_range]

/-- The items at a trigger are the features that are found, in the order of the search. Their texts increase in
that order just up to 100000 items, and an editor that sorts them by their texts shows them in that order,
whatever order it received them in, just up to the same number. There may be any number of items. -/
theorem pairwise_sortText_iff (t : Trigger) :
    (∀ registry : Registry,
      let items := completionItems t registry
      items.map CompletionItem.featureId = (registry.search t.typed).map Candidate.id ∧
        ((items.map CompletionItem.sortText).Pairwise (· < ·) ↔ items.length ≤ 100000) ∧
        ((∀ received, received.Perm items → shown received = items) ↔ items.length ≤ 100000)) ∧
    ∀ n, ∃ registry : Registry, (completionItems t registry).length = n := by
  constructor
  · intro registry items
    refine ⟨offeredIds_eq t registry, ?_, ?_⟩
    · rw [map_sortText_completionItems]
      exact ⟨fun h => le_of_pairwise_rankText (h.imp le_of_lt), fun h => pairwise_rankText h⟩
    · refine ⟨fun h => le_of_pairwise_rankText ?_, fun h received hreceived => ?_⟩
      · -- An editor that receives the items in their order leaves them as they are.
        have hshown := pairwise_shown items
        rw [h items (.refl items)] at hshown
        rw [← map_sortText_completionItems, List.pairwise_map]
        exact hshown
      · exact shown_eq_completionItems h hreceived
  · intro n
    refine ⟨registryWith (Unicode.lowercase (Unicode.trim t.typed)) n, ?_⟩
    rw [length_completionItems, length_search_registryWith rfl]

end FeatureRefs
