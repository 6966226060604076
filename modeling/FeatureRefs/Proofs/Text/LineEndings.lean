import FeatureRefs.Session
import FeatureRefs.Todo.Entry

/-!
# Line endings

A text without carriage returns has the same lines when a carriage return is put in front of each of its line
feeds. Whatever looks at a text looks at its lines, so it gives the same answers for both.
-/

namespace FeatureRefs

namespace Text

/-- The text with a carriage return in front of each line feed. -/
def withReturns (text : List Char) : List Char :=
  text.flatMap fun c => if c = '\n' then ['\r', '\n'] else [c]

theorem withReturns_newline (rest : List Char) :
    withReturns ('\n' :: rest) = '\r' :: '\n' :: withReturns rest :=
  rfl

theorem withReturns_cons {c : Char} (hc : c ≠ '\n') (rest : List Char) :
    withReturns (c :: rest) = c :: withReturns rest := by
  rw [withReturns, List.flatMap_cons, if_neg hc]
  rfl

/-- A character that has no part in a line ending stands on the first line of what follows. -/
theorem lines_cons_congr {c : Char} (hc : c ≠ '\n') (hreturn : c ≠ '\r') {rest rest' : List Char}
    (h : lines rest = lines rest') : lines (c :: rest) = lines (c :: rest') := by
  rw [lines, lines, h]
  · exact hc
  · rintro more rfl
    contradiction
  · exact hc
  · rintro more rfl
    contradiction

/-- A text without carriage returns has the same lines with either line ending. -/
theorem lines_withReturns {text : List Char} (h : '\r' ∉ text) :
    lines (withReturns text) = lines text := by
  induction text with
  | nil => rfl
  | cons c rest ih =>
      obtain ⟨hreturn, hrest⟩ := List.ne_and_not_mem_of_not_mem_cons h
      by_cases hc : c = '\n'
      · rw [hc, withReturns_newline, lines_return_newline, lines_newline, ih hrest]
      · rw [withReturns_cons hc, lines_cons_congr hc hreturn.symm (ih hrest)]

end Text

/-- What is found in a text without carriage returns does not depend on its line endings: not its
diagnostics, no hover, no TODO entry, and no place for an id. -/
theorem findings_withReturns {text : String} (h : '\r' ∉ text.toList) :
    let returns := String.ofList (Text.withReturns text.toList)
    (∀ registry, validate returns registry = validate text registry) ∧
    (∀ position registry style,
      hover returns position registry style = hover text position registry style) ∧
    (∀ path, extractTodos path returns = extractTodos path text) ∧
    ∀ (s s' : Session) (uri : String), s.text? uri = some text → s'.text? uri = some returns →
      ∀ position, s'.completionTrigger uri position = s.completionTrigger uri position := by
  intro returns
  have hlines : Text.lines returns.toList = Text.lines text.toList := by
    rw [String.toList_ofList, Text.lines_withReturns h]
  refine ⟨?_, ?_, ?_, ?_⟩
  · intro registry
    rw [validate, validate, hlines]
  · intro position registry style
    rw [hover, hover, referenceUnder, referenceUnder, hlines]
  · intro path
    rw [extractTodos, extractTodos, hlines]
  · intro s s' uri htext hreturns position
    rw [Session.completionTrigger, Session.completionTrigger, htext, hreturns]
    simp only [Option.bind_eq_bind, Option.bind_some, hlines]

/-- A text with an empty line in the middle and a line feed at its end. On its last line a column behind the
end of the line asks for a place. -/
theorem findings_withReturns_gird :
    let registry := Registry.empty.put ⟨"grid", "Grid", "", "", {}⟩
    let text := "// TODO(baseline/grid)\n\nbaseline/gird\n"
    let returns := "// TODO(baseline/grid)\r\n\r\nbaseline/gird\r\n"
    let uri := "file:///w/a.css"
    let s := Session.openDocument {} uri ⟨1, text⟩
    let s' := Session.openDocument {} uri ⟨2, returns⟩
    '\r' ∉ text.toList ∧ s.text? uri = some text ∧ s'.text? uri = some returns ∧
      validate returns registry = [⟨⟨⟨2, 9⟩, ⟨2, 13⟩⟩, "gird"⟩] ∧
      (hover returns ⟨0, 20⟩ registry {}).map Hover.featureId = some "grid" ∧
      extractTodos ⟨"a.css"⟩ returns = [⟨"grid", "a.css", ⟨"a.css"⟩, 1⟩] ∧
      s'.completionTrigger uri ⟨2, 14⟩ = some ⟨2, 9, 13, "gird", .hotPhrase⟩ := by
  intro registry text returns uri s s'
  have hreturn : '\r' ∉ text.toList := by
    decide
  have hreturns : String.ofList (Text.withReturns text.toList) = returns := by
    decide
  have htext : s.text? uri = some text := by
    rw [Session.text?, Session.get?_openDocument_self, Option.map_some]
  have htext' : s'.text? uri = some returns := by
    rw [Session.text?, Session.get?_openDocument_self, Option.map_some]
  obtain ⟨hvalidate, hhover, hextract, htrigger⟩ := findings_withReturns hreturn
  rw [hreturns] at hvalidate hhover hextract htrigger
  refine ⟨hreturn, htext, htext', ?_, ?_, ?_, ?_⟩
  · rw [hvalidate registry]
    decide +kernel
  · rw [hhover ⟨0, 20⟩ registry {}]
    decide +kernel
  · rw [hextract ⟨"a.css"⟩]
    decide +kernel
  · rw [htrigger s s' uri htext htext' ⟨2, 14⟩, Session.completionTrigger, htext]
    decide +kernel

end FeatureRefs
