import FeatureRefs.Session

/-!
# Steps of a session

An editor opens, changes and closes documents in any order and with any versions. What is stored for
a URI behind a step is what the step stores for it, and else what was stored before, unless the step
closes the document.
-/

namespace FeatureRefs.Session

/-- What an editor does to a session. -/
inductive Step where
  | opens (uri : String) (document : TextDocument)
  | changes (uri : String) (document : TextDocument)
  | closes (uri : String)
deriving Repr, DecidableEq

/-- The session behind a step. -/
def step (s : Session) : Step → Session
  | .opens uri document => s.openDocument uri document
  | .changes uri document => (s.change uri document).1
  | .closes uri => s.close uri

/-- The session behind some steps. -/
def run (s : Session) : List Step → Session
  | [] => s
  | first :: later => (s.step first).run later

@[simp] theorem run_nil (s : Session) : s.run [] = s := rfl

@[simp] theorem run_cons (s : Session) (first : Step) (later : List Step) :
    s.run (first :: later) = (s.step first).run later := rfl

theorem run_append (s : Session) (earlier later : List Step) :
    s.run (earlier ++ later) = (s.run earlier).run later := by
  induction earlier generalizing s with
  | nil => rfl
  | cons first earlier ih => exact ih (s.step first)

/-- What a step stores for a URI. A change of an outdated version stores nothing. -/
def stored? (s : Session) (uri : String) : Step → Option TextDocument
  | .opens other document => if other = uri then some document else none
  | .changes other document =>
      if other = uri ∧ s.isOutdated uri document.version = false then some document else none
  | .closes _ => none

theorem get?_step_of_stored {s : Session} {uri : String} {step : Step} {document : TextDocument}
    (h : s.stored? uri step = some document) : (s.step step).get? uri = some document := by
  cases step with
  | opens other stored =>
      by_cases huri : other = uri
      · subst huri
        simpa [stored?, Session.step] using h
      · simp [stored?, huri] at h
  | changes other stored =>
      by_cases hstored : other = uri ∧ s.isOutdated uri stored.version = false
      · obtain ⟨rfl, hversion⟩ := hstored
        simpa [stored?, hversion, Session.step, change] using h
      · simp [stored?, hstored] at h
  | closes other => simp [stored?] at h

/-- A step that stores nothing for a URI leaves what is stored for it, unless it closes the
document. -/
theorem get?_step_of_not_stored {s : Session} {uri : String} {step : Step}
    (h : s.stored? uri step = none) :
    (s.step step).get? uri = if step = .closes uri then none else s.get? uri := by
  cases step with
  | opens other stored =>
      have huri : uri ≠ other := by
        rintro rfl
        simp [stored?] at h
      simpa [Session.step] using get?_openDocument_of_ne huri stored
  | changes other stored =>
      cases hversion : s.isOutdated other stored.version with
      | true => simp [Session.step, change, hversion]
      | false =>
          have huri : uri ≠ other := by
            rintro rfl
            simp [stored?, hversion] at h
          simpa [Session.step, change, hversion] using get?_openDocument_of_ne huri stored
  | closes other =>
      by_cases huri : other = uri
      · subst huri
        simp [Session.step]
      · simpa [Session.step, huri] using get?_close_of_ne (Ne.symm huri)

end FeatureRefs.Session
