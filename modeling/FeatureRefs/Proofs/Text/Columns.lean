import FeatureRefs.Text.Units

/-!
# Stretches of a line

A line may be cut at a column, unless that column lies inside a character of two units or past the
end. Two columns then delimit the text between them.
-/

namespace FeatureRefs.Text

/-- A line cut at a column, where a character begins or the line ends. -/
def cutAtColumn? : List Char → Nat → Option (List Char × List Char)
  | line, 0 => some ([], line)
  | [], _ + 1 => none
  | c :: rest, column + 1 =>
      if utf16Size c ≤ column + 1 then
        (cutAtColumn? rest (column + 1 - utf16Size c)).map fun (before, after) =>
          (c :: before, after)
      else
        none

/-- The text of a line between two columns. -/
def between? (line : List Char) (start stop : Nat) : Option (List Char) :=
  (cutAtColumn? line start).bind fun (_, behind) =>
    (cutAtColumn? behind (stop - start)).map Prod.fst

/-- A cut loses nothing, and what is before it fills the columns up to it. -/
theorem cutAtColumn?_eq_some_iff {line before after : List Char} {column : Nat} :
    cutAtColumn? line column = some (before, after) ↔
      line = before ++ after ∧ utf16Length before = column := by
  fun_induction cutAtColumn? line column generalizing before with
  | case1 line =>
      rw [Option.some.injEq, Prod.mk.injEq, utf16Length_eq_zero_iff]
      constructor
      · rintro ⟨rfl, rfl⟩
        exact ⟨rfl, rfl⟩
      · rintro ⟨rfl, rfl⟩
        exact ⟨rfl, rfl⟩
  | case2 column =>
      constructor
      · intro h
        contradiction
      · rintro ⟨hnil, hlength⟩
        obtain rfl := (List.append_eq_nil_iff.1 hnil.symm).1
        simp at hlength
  | case3 c rest column hle ih =>
      rw [Option.map_eq_some_iff]
      constructor
      · rintro ⟨⟨head, tail⟩, hcut, hpair⟩
        obtain ⟨rfl, rfl⟩ := Prod.mk.inj hpair
        obtain ⟨rfl, hlength⟩ := ih.1 hcut
        refine ⟨rfl, ?_⟩
        rw [utf16Length_cons]
        omega
      · rintro ⟨hline, hlength⟩
        cases before with
        | nil => simp at hlength
        | cons d before =>
            obtain ⟨rfl, rfl⟩ := List.cons.inj hline
            rw [utf16Length_cons] at hlength
            exact ⟨(before, after), ih.2 ⟨rfl, by omega⟩, rfl⟩
  | case4 c rest column hlt =>
      constructor
      · intro h
        contradiction
      · rintro ⟨hline, hlength⟩
        cases before with
        | nil => simp at hlength
        | cons d before =>
            obtain ⟨rfl, rfl⟩ := List.cons.inj hline
            rw [utf16Length_cons] at hlength
            omega

/-- The text between two columns is what stands between two places of the line. -/
theorem between?_eq_some_iff {line part : List Char} {start stop : Nat} (h : start ≤ stop) :
    between? line start stop = some part ↔
      ∃ before after, line = before ++ (part ++ after) ∧ utf16Length before = start ∧
        utf16Length before + utf16Length part = stop := by
  rw [between?, Option.bind_eq_some_iff]
  simp only [Option.map_eq_some_iff]
  constructor
  · rintro ⟨⟨before, behind⟩, hbefore, ⟨found, after⟩, hpart, hfound⟩
    obtain ⟨rfl, rfl⟩ := cutAtColumn?_eq_some_iff.1 hbefore
    obtain ⟨rfl, hlength⟩ := cutAtColumn?_eq_some_iff.1 hpart
    obtain rfl : found = part := hfound
    exact ⟨before, after, rfl, rfl, by omega⟩
  · rintro ⟨before, after, rfl, rfl, rfl⟩
    refine ⟨(before, part ++ after), cutAtColumn?_eq_some_iff.2 ⟨rfl, rfl⟩, (part, after), ?_, rfl⟩
    exact cutAtColumn?_eq_some_iff.2 ⟨rfl, by omega⟩

/-- A column inside a character is no place to cut at. -/
example : between? ['a', '😀', 'b'] 1 3 = some ['😀'] ∧ between? ['a', '😀', 'b'] 2 3 = none := by
  decide

end FeatureRefs.Text
