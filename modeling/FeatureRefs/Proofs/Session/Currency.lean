import FeatureRefs.Proofs.Session.Steps

/-!
# Runs that count as current

A validation run counts as current while the stored version is the one that was validated. Versions
come from the editor, and neither opening a document nor changing it asks for a new one. So a run
that counts as current describes the stored text exactly as long as no step has stored another text
under the version of the run.
-/

namespace FeatureRefs.Session

theorem isCurrent_iff {s : Session} {r : ValidationRun} :
    s.isCurrent r = true ↔ ∃ document, s.get? r.uri = some document ∧
      document.version = r.version := by
  simp [isCurrent, version?]

theorem text?_eq_some_iff {s : Session} {uri text : String} :
    s.text? uri = some text ↔ ∃ document, s.get? uri = some document ∧ document.text = text := by
  simp [text?]

theorem validate_eq_some_iff {s : Session} {uri : String} {registry : Registry}
    {r : ValidationRun} :
    s.validate uri registry = some r ↔
      ∃ document, s.get? uri = some document ∧
        r = ⟨uri, document.version, FeatureRefs.validate document.text registry⟩ := by
  rw [Session.validate, Option.map_eq_some_iff]
  constructor
  · rintro ⟨document, hdocument, rfl⟩
    exact ⟨document, hdocument, rfl⟩
  · rintro ⟨document, hdocument, rfl⟩
    exact ⟨document, hdocument, rfl⟩

/-- Under a version nothing but a certain text is stored. -/
def KeepsText (uri : String) (version : Int) (text : String) (s : Session) : Prop :=
  ∀ document, s.get? uri = some document → document.version = version → document.text = text

/-- A step stores no other text under a version. -/
def StoresOnly (uri : String) (version : Int) (text : String) (s : Session) (step : Step) : Prop :=
  ∀ document, s.stored? uri step = some document → document.version = version → document.text = text

/-- A step keeps the text of a version exactly when it stores no other text under it. -/
theorem keepsText_step_iff {uri text : String} {version : Int} {s : Session} {step : Step}
    (h : KeepsText uri version text s) :
    KeepsText uri version text (s.step step) ↔ StoresOnly uri version text s step := by
  constructor
  · intro hkeeps document hstored
    exact hkeeps document (get?_step_of_stored hstored)
  · intro hstores document hdocument
    cases hstored : s.stored? uri step with
    | some stored =>
        rw [get?_step_of_stored hstored, Option.some.injEq] at hdocument
        subst hdocument
        exact hstores stored hstored
    | none =>
        rw [get?_step_of_not_stored hstored] at hdocument
        split at hdocument
        · simp at hdocument
        · exact h document hdocument

/-- Some steps keep the text of a version at every point exactly when none of them stores another
text under it. -/
theorem forall_keepsText_run_iff {uri text : String} {version : Int} {s : Session}
    {steps : List Step}
    (h : KeepsText uri version text s) :
    (∀ before after, steps = before ++ after → KeepsText uri version text (s.run before)) ↔
      ∀ before step after, steps = before ++ step :: after →
        StoresOnly uri version text (s.run before) step := by
  constructor
  · rintro hkeeps before step after rfl
    have hbefore : KeepsText uri version text (s.run before) := hkeeps before (step :: after) rfl
    refine (keepsText_step_iff hbefore).1 ?_
    have hbehind := hkeeps (before ++ [step]) after (by simp)
    simpa [run_append] using hbehind
  · intro hstores before after hsplit
    -- The text is kept from step to step, from the first one on.
    induction steps generalizing s before with
    | nil =>
        obtain ⟨rfl, rfl⟩ := List.append_eq_nil_iff.1 hsplit.symm
        exact h
    | cons first steps ih =>
        cases before with
        | nil => exact h
        | cons other before =>
            obtain ⟨rfl, rfl⟩ := List.cons.inj hsplit
            have hfirst : KeepsText uri version text (s.step first) :=
              (keepsText_step_iff h).2 (hstores [] first (before ++ after) rfl)
            refine ih hfirst ?_ before rfl
            intro before' step after' hsplit'
            exact hstores (first :: before') step after' (by rw [hsplit']; rfl)

/-- A run that counts as current describes the stored text at every later point exactly when no
later step stores another text under the version of the run. -/
theorem forall_isCurrent_describes_iff {s : Session} {uri : String} {registry : Registry}
    {r : ValidationRun} (h : s.validate uri registry = some r) (steps : List Step) :
    ∃ text, s.text? uri = some text ∧ r.uri = uri ∧
      r.diagnostics = FeatureRefs.validate text registry ∧
      ((∀ before after, steps = before ++ after → (s.run before).isCurrent r = true →
          (s.run before).text? r.uri = some text) ↔
        ∀ before step after document, steps = before ++ step :: after →
          (s.run before).stored? uri step = some document → document.version = r.version →
          document.text = text) := by
  obtain ⟨document, hdocument, rfl⟩ := validate_eq_some_iff.1 h
  refine ⟨document.text, text?_eq_some_iff.2 ⟨document, hdocument, rfl⟩, rfl, rfl, ?_⟩
  have hstart : KeepsText uri document.version document.text s := by
    intro stored hstored _
    rw [hdocument, Option.some.injEq] at hstored
    rw [hstored]
  have hpoint (before : List Step) :
      ((s.run before).isCurrent ⟨uri, document.version,
        FeatureRefs.validate document.text registry⟩ = true →
        (s.run before).text? uri = some document.text) ↔
      KeepsText uri document.version document.text (s.run before) := by
    rw [isCurrent_iff, text?_eq_some_iff]
    constructor
    · intro hcurrent stored hstored hversion
      obtain ⟨stored', hstored', htext⟩ := hcurrent ⟨stored, hstored, hversion⟩
      rw [hstored, Option.some.injEq] at hstored'
      rw [hstored', htext]
    · rintro hkeeps ⟨stored, hstored, hversion⟩
      exact ⟨stored, hstored, hkeeps stored hstored hversion⟩
  simp only [hpoint]
  rw [forall_keepsText_run_iff hstart]
  constructor
  · intro hstores before step after stored hsplit
    exact hstores before step after hsplit stored
  · intro hstores before step after hsplit stored
    exact hstores before step after stored hsplit

/-- A document whose text comes with a new version is described by its runs as long as they are
current. -/
theorem forall_isCurrent_describes_edited :
    let uri := "file:///w/a.html"
    let registry := Registry.empty.put ⟨"grid", "Grid", "", "", {}⟩
    let s := Session.run {} [.opens uri ⟨1, "baseline/gird"⟩]
    let r : ValidationRun := ⟨uri, 1, FeatureRefs.validate "baseline/gird" registry⟩
    let steps : List Step := [.changes uri ⟨2, "baseline/grid"⟩, .closes uri]
    s.validate uri registry = some r ∧
      ∀ before after, steps = before ++ after → (s.run before).isCurrent r = true →
        (s.run before).text? r.uri = some "baseline/gird" := by
  intro uri registry s r steps
  have hrun : s.validate uri registry = some r := by
    simp [s, r, Session.step, Session.validate]
  obtain ⟨text, htext, -, -, hdescribes⟩ := forall_isCurrent_describes_iff hrun steps
  obtain rfl : "baseline/gird" = text := by
    simpa [s, Session.step, text?] using htext
  refine ⟨hrun, hdescribes.2 ?_⟩
  intro before step after document hsplit hstored hversion
  have hstep : step ∈ steps := by simp [hsplit]
  simp only [steps, List.mem_cons, List.not_mem_nil, or_false] at hstep
  rcases hstep with rfl | rfl
  · obtain ⟨-, hdocument⟩ := Option.ite_none_right_eq_some.1 hstored
    obtain rfl := Option.some.inj hdocument
    simp [r] at hversion
  · simp [stored?] at hstored

/-- A change under the version that is stored already leaves an old run current. -/
theorem isCurrent_not_describes :
    ¬ ∀ (earlier later : List Step) (uri : String) (registry : Registry) (r : ValidationRun),
      (Session.run {} earlier).validate uri registry = some r →
        ((Session.run {} earlier).run later).isCurrent r = true →
        ((Session.run {} earlier).run later).text? r.uri = (Session.run {} earlier).text? uri := by
  intro h
  let uri := "file:///w/a.html"
  have htext := h [.opens uri ⟨1, "baseline/gird"⟩] [.changes uri ⟨1, "baseline/grid"⟩] uri .empty
    ⟨uri, 1, FeatureRefs.validate "baseline/gird" .empty⟩
    (by simp [Session.step, Session.validate])
    (by simp [Session.step, isCurrent, version?, change, isOutdated])
  simp [Session.step, text?, change, isOutdated] at htext

end FeatureRefs.Session
