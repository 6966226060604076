import FeatureRefs.Glob.Basic

/-!
# What globs match below a path

Tokens read a path from its front, and what they leave of it is a suffix. So whatever stands behind a
path stays behind all that may be left of it. It follows that a glob that ends in everything below
matches a path together with all paths below it, and that such an end may be put behind any glob that
matches the path.

Without that end a glob need not match what is below a path that it matches: `a?` matches `ab`, and it
does not match `ab/c`.
-/

namespace FeatureRefs

namespace Glob

/-! ## What is left -/

theorem dropBytes?_append {expected text rest : List UInt8} (h : dropBytes? expected text = some rest)
    (tail : List UInt8) : dropBytes? expected (text ++ tail) = some (rest ++ tail) := by
  induction expected generalizing text with
  | nil =>
      obtain rfl := Option.some.inj h
      rfl
  | cons e expected ih =>
      cases text with
      | nil => simp [dropBytes?] at h
      | cons b text =>
          by_cases heq : e = b
          · rw [dropBytes?, if_pos heq] at h
            rw [List.cons_append, dropBytes?, if_pos heq]
            exact ih h
          · rw [dropBytes?, if_neg heq] at h
            contradiction

theorem append_mem_suffixes {text rest : List UInt8} (h : rest ∈ suffixes text)
    (tail : List UInt8) : rest ++ tail ∈ suffixes (text ++ tail) := by
  induction text with
  | nil =>
      obtain rfl := List.mem_singleton.1 h
      cases tail with
      | nil => exact h
      | cons b tail => exact List.mem_cons_self
  | cons b text ih =>
      rcases List.mem_cons.1 h with rfl | h
      · exact List.mem_cons_self
      · exact List.mem_cons_of_mem _ (ih h)

theorem nil_mem_suffixes (text : List UInt8) : [] ∈ suffixes text := by
  induction text with
  | nil => exact List.mem_singleton_self _
  | cons b text ih => exact List.mem_cons_of_mem _ ih

theorem append_mem_behindSlashes {text rest : List UInt8} (h : rest ∈ behindSlashes text)
    (tail : List UInt8) : rest ++ tail ∈ behindSlashes (text ++ tail) := by
  induction text with
  | nil => simp [behindSlashes] at h
  | cons b text ih =>
      rw [List.cons_append]
      unfold behindSlashes at h ⊢
      by_cases hslash : b = slash
      · rw [if_pos hslash] at h ⊢
        rcases List.mem_cons.1 h with rfl | h
        · exact List.mem_cons_self
        · exact List.mem_cons_of_mem _ (ih h)
      · rw [if_neg hslash] at h ⊢
        exact ih h

theorem append_mem_rests {token : Token} {text rest : List UInt8} (h : rest ∈ token.rests text)
    (tail : List UInt8) : rest ++ tail ∈ token.rests (text ++ tail) := by
  cases token with
  | literal c =>
      rw [Token.rests, Option.mem_toList] at h ⊢
      exact dropBytes?_append h tail
  | anyByte =>
      cases text with
      | nil => simp [Token.rests] at h
      | cons b text =>
          obtain rfl := List.mem_singleton.1 h
          exact List.mem_singleton_self _
  | anyBytes => exact append_mem_suffixes h tail
  | leadingDirectories =>
      rcases List.mem_cons.1 h with rfl | h
      · exact List.mem_cons_self
      · exact List.mem_cons_of_mem _ (append_mem_behindSlashes h tail)
  | everythingBelow =>
      cases text with
      | nil => simp [Token.rests] at h
      | cons b text =>
          rw [List.cons_append]
          unfold Token.rests at h ⊢
          by_cases hslash : b = slash
          · simp only [if_pos hslash] at h ⊢
            exact append_mem_suffixes h tail
          · simp only [if_neg hslash] at h
            contradiction
  | innerDirectories =>
      cases text with
      | nil => simp [Token.rests] at h
      | cons b text =>
          rw [List.cons_append]
          unfold Token.rests at h ⊢
          by_cases hslash : b = slash
          · simp only [if_pos hslash] at h ⊢
            rcases List.mem_cons.1 h with rfl | h
            · exact List.mem_cons_self
            · exact List.mem_cons_of_mem _ (append_mem_behindSlashes h tail)
          · simp only [if_neg hslash] at h
            contradiction
  | byteClass negated ranges =>
      cases text with
      | nil => simp [Token.rests] at h
      | cons b text =>
          rw [List.cons_append]
          unfold Token.rests at h ⊢
          cases hclass : classHas negated ranges b with
          | true =>
              simp only [hclass, if_true, List.mem_singleton] at h ⊢
              rw [h]
          | false => simp [hclass] at h
  | alternates branches => simp [Token.rests] at h

/-- A token that is no alternation leaves of texts what it leaves of each. -/
theorem mem_advance_iff {token : Token} (h : ∀ branches, token ≠ .alternates branches)
    {texts : List (List UInt8)} {rest : List UInt8} :
    rest ∈ token.advance texts ↔ ∃ text ∈ texts, rest ∈ token.rests text := by
  cases token with
  | alternates branches => exact absurd rfl (h branches)
  | _ => simp only [Token.advance, List.mem_eraseDups, List.mem_flatMap]

-- One induction over tokens, rows and branches. The texts on the right may be more than those on the left
-- with the tail behind them, since the branches of an alternation start from the same texts.
mutual

theorem append_mem_advance {token : Token} {texts texts' : List (List UInt8)}
    {rest tail : List UInt8} (htexts : ∀ text ∈ texts, text ++ tail ∈ texts')
    (hrest : rest ∈ token.advance texts) : rest ++ tail ∈ token.advance texts' := by
  cases token with
  | alternates branches =>
      cases branches with
      | nil => exact htexts rest hrest
      | cons branch branches => exact append_mem_advanceAny htexts hrest
  | _ =>
      rw [mem_advance_iff (by simp)] at hrest ⊢
      obtain ⟨text, htext, hrest⟩ := hrest
      exact ⟨text ++ tail, htexts text htext, append_mem_rests hrest tail⟩

/-- What stands behind a text stays behind what tokens leave of it. -/
theorem append_mem_advanceAll {tokens : List Token} {texts texts' : List (List UInt8)}
    {rest tail : List UInt8} (htexts : ∀ text ∈ texts, text ++ tail ∈ texts')
    (hrest : rest ∈ advanceAll tokens texts) : rest ++ tail ∈ advanceAll tokens texts' := by
  cases tokens with
  | nil => exact htexts rest hrest
  | cons token tokens =>
      rw [advanceAll] at hrest ⊢
      have hadvance : ∀ text ∈ token.advance texts, text ++ tail ∈ token.advance texts' :=
        fun text htext => append_mem_advance htexts htext
      exact append_mem_advanceAll hadvance hrest

theorem append_mem_advanceAny {branches : List (List Token)} {texts texts' : List (List UInt8)}
    {rest tail : List UInt8} (htexts : ∀ text ∈ texts, text ++ tail ∈ texts')
    (hrest : rest ∈ advanceAny branches texts) : rest ++ tail ∈ advanceAny branches texts' := by
  cases branches with
  | nil => simp [advanceAny] at hrest
  | cons branch branches =>
      rw [advanceAny, List.mem_append] at hrest ⊢
      rcases hrest with hrest | hrest
      · exact .inl (append_mem_advanceAll htexts hrest)
      · exact .inr (append_mem_advanceAny htexts hrest)

end

theorem advanceAll_append (tokens tokens' : List Token) (texts : List (List UInt8)) :
    advanceAll (tokens ++ tokens') texts = advanceAll tokens' (advanceAll tokens texts) := by
  induction tokens generalizing texts with
  | nil => rfl
  | cons token tokens ih => exact ih (token.advance texts)

/-! ## The bytes of a path -/

theorem toList_loop_eq (bytes : ByteArray) (start : Nat) (before : List UInt8) :
    ByteArray.toList.loop bytes start before = before.reverse ++ bytes.data.toList.drop start := by
  induction start, before using ByteArray.toList.loop.induct bytes with
  | case1 start before hlt ih =>
      have hlength : start < bytes.data.toList.length := by simpa using hlt
      have hget : bytes.get! start = bytes.data.toList[start] := by
        rw [Array.getElem_toList]
        exact getElem!_pos bytes.data start hlength
      unfold ByteArray.toList.loop
      rw [if_pos hlt, ih, List.drop_eq_getElem_cons hlength, hget, List.reverse_cons,
        List.append_assoc]
      rfl
  | case2 start before hge =>
      have hlength : bytes.data.toList.length ≤ start := by simpa using hge
      unfold ByteArray.toList.loop
      rw [if_neg hge, List.drop_eq_nil_of_le hlength, List.append_nil]

theorem bytes_append (path tail : String) :
    (path ++ tail).toUTF8.toList = path.toUTF8.toList ++ tail.toUTF8.toList := by
  have htoList (bytes : ByteArray) : bytes.toList = bytes.data.toList := by
    rw [ByteArray.toList, toList_loop_eq]
    rfl
  rw [htoList, htoList, htoList]
  show (path ++ tail).toByteArray.data.toList = _
  rw [String.toByteArray_append, ByteArray.toList_data_append]
  rfl

theorem bytes_slash (tail : String) :
    ("/" ++ tail).toUTF8.toList = slash :: tail.toUTF8.toList := by
  rw [bytes_append]
  have hslash : "/".toUTF8.toList = [slash] := by
    decide +kernel
  rw [hslash]
  rfl

end Glob

/-! ## Below a path -/

namespace Glob

variable {tokens : List Token} {path : String}

theorem isMatch_iff {glob : Glob} : glob.isMatch path = true ↔
    glob.tokens = [.leadingDirectories] ∨ [] ∈ advanceAll glob.tokens [path.toUTF8.toList] := by
  unfold isMatch
  split
  · next h => simp [h]
  · next h =>
      rw [List.contains_iff_mem]
      exact ⟨.inr, fun hmatch => hmatch.resolve_left h⟩

/-- The two stars alone match every path. -/
theorem isMatch_leadingDirectories (path : String) :
    (Glob.mk [.leadingDirectories]).isMatch path = true :=
  isMatch_iff.2 (.inl rfl)

/-- With everything below at its end, a glob that matches a path matches all paths below it. -/
theorem isMatch_below (h : (Glob.mk tokens).isMatch path = true)
    (htokens : tokens ≠ [.leadingDirectories]) (rest : String) :
    (Glob.mk (tokens ++ [.everythingBelow])).isMatch (path ++ ("/" ++ rest)) = true := by
  have hnil : [] ∈ advanceAll tokens [path.toUTF8.toList] := (isMatch_iff.1 h).resolve_left htokens
  have hpath : ∀ text ∈ [path.toUTF8.toList],
      text ++ slash :: rest.toUTF8.toList ∈ [(path ++ ("/" ++ rest)).toUTF8.toList] := by
    rw [bytes_append, bytes_slash]
    simp
  have hrest := append_mem_advanceAll hpath hnil
  refine isMatch_iff.2 (.inr ?_)
  rw [advanceAll_append]
  refine (mem_advance_iff (by simp)).2 ⟨_, hrest, ?_⟩
  exact nil_mem_suffixes _

/-- A glob with everything below at its end matches what is below the paths that it matches. -/
theorem isMatch_append (h : (Glob.mk (tokens ++ [.everythingBelow])).isMatch path = true)
    (tail : String) :
    (Glob.mk (tokens ++ [.everythingBelow])).isMatch (path ++ tail) = true := by
  rcases isMatch_iff.1 h with heq | hnil
  · exact isMatch_iff.2 (.inl heq)
  refine isMatch_iff.2 (.inr ?_)
  rw [advanceAll_append] at hnil ⊢
  obtain ⟨text, htext, hnil⟩ := (mem_advance_iff (by simp)).1 hnil
  have hpath : ∀ text ∈ [path.toUTF8.toList],
      text ++ tail.toUTF8.toList ∈ [(path ++ tail).toUTF8.toList] := by
    rw [bytes_append]
    simp
  have htext' := append_mem_advanceAll hpath htext
  refine (mem_advance_iff (by simp)).2 ⟨_, htext', ?_⟩
  -- The slash that the end begins with is in the path already.
  cases text with
  | nil => simp [Token.rests] at hnil
  | cons b text =>
      by_cases hslash : b = slash
      · rw [List.cons_append]
        simp only [Token.rests, if_pos hslash]
        exact nil_mem_suffixes _
      · simp [Token.rests, if_neg hslash] at hnil

end Glob

end FeatureRefs
