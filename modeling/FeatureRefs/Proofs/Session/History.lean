import Mathlib.Data.List.Induction
import FeatureRefs.Proofs.Session.Steps

/-!
# What a session stores

What is stored for a URI is told by the whole history of the session. Of the documents that the steps
for the URI brought since it was opened last it is the one with the highest version, and of several
with that version the last one. Where the URI was not opened after it was closed last, all documents
since then count, and where none was brought nothing is stored.

A version may be repeated, and opening a document again may lower it. So it is NOT the highest version
of the whole history that is stored, and not the last document either.
-/

namespace FeatureRefs.Session

/-! ## The documents that count -/

/-- The URI that a step is about. -/
def Step.uri : Step → String
  | .opens uri _ | .changes uri _ | .closes uri => uri

/-- The steps for a URI. -/
def stepsFor (uri : String) (steps : List Step) : List Step :=
  steps.filter fun step => step.uri == uri

/-- What steps for a URI brought since it was opened last. Where it was not opened after it was closed
last, it is what they brought since then, and where it was not closed either, all that they
brought. -/
inductive Brought (uri : String) : List Step → List TextDocument → Prop where
  | opened (before : List Step) (document : TextDocument) (changed : List TextDocument) :
      Brought uri (before ++ .opens uri document :: changed.map (.changes uri))
        (document :: changed)
  | closed (before : List Step) (changed : List TextDocument) :
      Brought uri (before ++ .closes uri :: changed.map (.changes uri)) changed
  | untouched (changed : List TextDocument) : Brought uri (changed.map (.changes uri)) changed

/-- What a step leaves of the documents that counted before it. -/
def bring (since : List TextDocument) : Step → List TextDocument
  | .opens _ document => [document]
  | .changes _ document => since ++ [document]
  | .closes _ => []

/-- The documents that count behind some steps for one URI. -/
def broughtBy (steps : List Step) : List TextDocument :=
  steps.foldl bring []

theorem broughtBy_append_singleton (steps : List Step) (step : Step) :
    broughtBy (steps ++ [step]) = bring (broughtBy steps) step := by
  unfold broughtBy
  rw [List.foldl_append]
  rfl

theorem foldl_bring_changes (uri : String) (since changed : List TextDocument) :
    (changed.map (.changes uri)).foldl bring since = since ++ changed := by
  induction changed generalizing since with
  | nil => simp
  | cons document changed ih =>
      show (changed.map (.changes uri)).foldl bring (since ++ [document]) = _
      rw [ih, List.append_assoc]
      rfl

theorem Brought.broughtBy_eq {uri : String} {steps : List Step} {since : List TextDocument}
    (h : Brought uri steps since) : broughtBy steps = since := by
  unfold broughtBy
  cases h with
  | opened before document changed =>
      rw [List.foldl_append, List.foldl_cons, foldl_bring_changes]
      rfl
  | closed before changed =>
      rw [List.foldl_append, List.foldl_cons, foldl_bring_changes]
      rfl
  | untouched => rw [foldl_bring_changes, List.nil_append]

/-- A change adds its document to those that count. -/
theorem Brought.change {uri : String} {steps : List Step} {since : List TextDocument}
    (h : Brought uri steps since) (document : TextDocument) :
    Brought uri (steps ++ [.changes uri document]) (since ++ [document]) := by
  cases h with
  | opened before first changed =>
      have hlonger : Brought uri _ (first :: (changed ++ [document])) := .opened before first _
      simpa using hlonger
  | closed before =>
      have hlonger : Brought uri _ (since ++ [document]) := .closed before _
      simpa using hlonger
  | untouched =>
      have hlonger : Brought uri ((since ++ [document]).map (.changes uri)) (since ++ [document]) :=
        .untouched _
      simpa using hlonger

theorem brought_broughtBy {uri : String} {steps : List Step}
    (h : ∀ step ∈ steps, step.uri = uri) : Brought uri steps (broughtBy steps) := by
  induction steps using List.reverseRecOn with
  | nil => exact .untouched []
  | append_singleton steps step ih =>
      have hbefore : Brought uri steps (broughtBy steps) :=
        ih fun earlier hearlier => h earlier (List.mem_append_left _ hearlier)
      obtain rfl : step.uri = uri := h step (by simp)
      rw [broughtBy_append_singleton]
      cases step with
      | opens uri document => exact .opened steps document []
      | changes uri document => exact hbefore.change document
      | closes uri => exact .closed steps []

/-- Steps for a URI tell which documents count. -/
theorem brought_iff {uri : String} {steps : List Step} (h : ∀ step ∈ steps, step.uri = uri)
    {since : List TextDocument} : Brought uri steps since ↔ since = broughtBy steps := by
  constructor
  · intro hbrought
    exact hbrought.broughtBy_eq.symm
  · rintro rfl
    exact brought_broughtBy h

theorem uri_of_mem_stepsFor {uri : String} {steps : List Step} :
    ∀ step ∈ stepsFor uri steps, step.uri = uri := by
  intro step hstep
  simpa using (List.mem_filter.1 hstep).2

/-! ## The document that is stored -/

/-- The document with the highest version, and of several the last one. -/
def IsNewest (documents : List TextDocument) (document : TextDocument) : Prop :=
  ∃ earlier later, documents = earlier ++ document :: later ∧
    (∀ other ∈ earlier, other.version ≤ document.version) ∧
    ∀ other ∈ later, other.version < document.version

theorem not_isNewest_nil (document : TextDocument) : ¬ IsNewest [] document := by
  rintro ⟨earlier, later, hsplit, -⟩
  simp at hsplit

theorem IsNewest.mem {documents : List TextDocument} {document : TextDocument}
    (h : IsNewest documents document) : document ∈ documents := by
  obtain ⟨earlier, later, rfl, -⟩ := h
  simp

theorem IsNewest.version_le {documents : List TextDocument} {document other : TextDocument}
    (h : IsNewest documents document) (hother : other ∈ documents) :
    other.version ≤ document.version := by
  obtain ⟨earlier, later, rfl, hearlier, hlater⟩ := h
  rcases List.mem_append.1 hother with hmem | hmem
  · exact hearlier other hmem
  · rcases List.mem_cons.1 hmem with rfl | hmem
    · exact Int.le_refl _
    · exact Int.le_of_lt (hlater other hmem)

/-- Behind one more document the newest is that one, unless an earlier one has a higher version. -/
theorem isNewest_append_singleton_iff {documents : List TextDocument}
    {last document : TextDocument} :
    IsNewest (documents ++ [last]) document ↔
      (document = last ∧ ∀ other ∈ documents, other.version ≤ last.version) ∨
        (IsNewest documents document ∧ last.version < document.version) := by
  constructor
  · rintro ⟨earlier, later, hsplit, hearlier, hlater⟩
    rcases List.eq_nil_or_concat later with rfl | ⟨more, final, rfl⟩
    · obtain ⟨rfl, hlast⟩ := List.append_inj' hsplit rfl
      obtain rfl : last = document := by simpa using hlast
      exact .inl ⟨rfl, hearlier⟩
    · rw [List.concat_eq_append, ← List.cons_append, ← List.append_assoc] at hsplit
      obtain ⟨rfl, hlast⟩ := List.append_inj' hsplit rfl
      obtain rfl : last = final := by simpa using hlast
      refine .inr ⟨⟨earlier, more, rfl, hearlier, ?_⟩, hlater last (by simp)⟩
      intro other hother
      exact hlater other (by simp [hother])
  · rintro (⟨rfl, hle⟩ | ⟨⟨earlier, later, rfl, hearlier, hlater⟩, hlt⟩)
    · exact ⟨documents, [], rfl, hle, by simp⟩
    · refine ⟨earlier, later ++ [last], by simp, hearlier, ?_⟩
      intro other hother
      rcases List.mem_append.1 hother with hmem | hmem
      · exact hlater other hmem
      · rw [List.mem_singleton.1 hmem]
        exact hlt

theorem exists_isNewest {documents : List TextDocument} (h : documents ≠ []) :
    ∃ document, IsNewest documents document := by
  induction documents using List.reverseRecOn with
  | nil => contradiction
  | append_singleton documents last ih =>
      by_cases hle : ∀ other ∈ documents, other.version ≤ last.version
      · exact ⟨last, isNewest_append_singleton_iff.2 (.inl ⟨rfl, hle⟩)⟩
      · obtain ⟨other, hother, hlt⟩ : ∃ other ∈ documents, last.version < other.version := by
          simpa using hle
        obtain ⟨document, hdocument⟩ := ih (List.ne_nil_of_mem hother)
        have hversion := hdocument.version_le hother
        exact ⟨document, isNewest_append_singleton_iff.2 (.inr ⟨hdocument, by omega⟩)⟩

/-! ## What a step does to it -/

theorem run_append_singleton (s : Session) (steps : List Step) (step : Step) :
    s.run (steps ++ [step]) = (s.run steps).step step := by
  rw [run_append]
  rfl

theorem get?_step_of_ne {s : Session} {uri : String} {step : Step} (h : step.uri ≠ uri) :
    (s.step step).get? uri = s.get? uri := by
  cases step with
  | opens other document => exact get?_openDocument_of_ne (Ne.symm h) document
  | closes other => exact get?_close_of_ne (Ne.symm h)
  | changes other document =>
      show (s.change other document).1.get? uri = s.get? uri
      unfold change
      by_cases houtdated : s.isOutdated other document.version = true
      · rw [if_pos houtdated]
      · rw [if_neg houtdated]
        exact get?_openDocument_of_ne (Ne.symm h) document

/-- For a URI a session stores the newest of some documents. -/
def StoresNewest (s : Session) (uri : String) (documents : List TextDocument) : Prop :=
  ∀ document, s.get? uri = some document ↔ IsNewest documents document

theorem StoresNewest.get?_eq_none_iff {s : Session} {uri : String} {documents : List TextDocument}
    (h : s.StoresNewest uri documents) : s.get? uri = none ↔ documents = [] := by
  constructor
  · intro hnone
    by_contra hne
    obtain ⟨document, hdocument⟩ := exists_isNewest hne
    rw [(h document).2 hdocument] at hnone
    contradiction
  · rintro rfl
    rw [Option.eq_none_iff_forall_ne_some]
    intro document hdocument
    exact not_isNewest_nil document ((h document).1 hdocument)

/-- A version is outdated exactly when one of the documents has a higher one. -/
theorem StoresNewest.isOutdated_iff {s : Session} {uri : String} {documents : List TextDocument}
    (h : s.StoresNewest uri documents) {version : Int} :
    s.isOutdated uri version = true ↔ ∃ earlier ∈ documents, version < earlier.version := by
  unfold isOutdated
  cases hstored : s.get? uri with
  | none => simp [h.get?_eq_none_iff.1 hstored]
  | some stored =>
      have hnewest : IsNewest documents stored := (h stored).1 hstored
      rw [Option.any_some, decide_eq_true_eq]
      constructor
      · intro hlt
        exact ⟨stored, hnewest.mem, hlt⟩
      · rintro ⟨earlier, hearlier, hlt⟩
        have hle := hnewest.version_le hearlier
        omega

/-- A step for a URI keeps that the newest of the documents that count is stored. -/
theorem StoresNewest.step {s : Session} {documents : List TextDocument} {step : Step}
    (h : s.StoresNewest step.uri documents) :
    (s.step step).StoresNewest step.uri (bring documents step) := by
  intro document
  cases step with
  | opens uri opened =>
      show (s.openDocument uri opened).get? uri = _ ↔ IsNewest ([] ++ [opened]) document
      rw [get?_openDocument_self, isNewest_append_singleton_iff]
      simp [not_isNewest_nil, eq_comm]
  | closes uri =>
      show (s.close uri).get? uri = _ ↔ IsNewest [] document
      simp [not_isNewest_nil]
  | changes uri changed =>
      show (s.change uri changed).1.get? uri = _ ↔ IsNewest (documents ++ [changed]) document
      rw [isNewest_append_singleton_iff]
      unfold change
      by_cases houtdated : s.isOutdated uri changed.version = true
      · -- What is stored is newer, so it stays.
        obtain ⟨earlier, hearlier, hlt⟩ := h.isOutdated_iff.1 houtdated
        have hstored : s.get? uri = some document ↔ IsNewest documents document := h document
        rw [if_pos houtdated]
        show s.get? uri = some document ↔ _
        rw [hstored]
        constructor
        · intro hnewest
          have hle := hnewest.version_le hearlier
          exact .inr ⟨hnewest, by omega⟩
        · rintro (⟨rfl, hle⟩ | ⟨hnewest, -⟩)
          · have hnot := hle earlier hearlier
            omega
          · exact hnewest
      · have hle : ∀ other ∈ documents, other.version ≤ changed.version := by
          intro other hother
          by_contra hlt
          exact houtdated (h.isOutdated_iff.2 ⟨other, hother, by omega⟩)
        rw [if_neg houtdated, get?_openDocument_self, Option.some.injEq]
        constructor
        · rintro rfl
          exact .inl ⟨rfl, hle⟩
        · rintro (⟨rfl, -⟩ | ⟨hnewest, hlt⟩)
          · rfl
          · have hnot := hle document hnewest.mem
            omega

/-! ## Whole histories -/

theorem storesNewest_run (steps : List Step) (uri : String) :
    (run {} steps).StoresNewest uri (broughtBy (stepsFor uri steps)) := by
  induction steps using List.reverseRecOn with
  | nil =>
      intro document
      show get? {} uri = some document ↔ IsNewest [] document
      simp [get?, not_isNewest_nil]
  | append_singleton steps step ih =>
      rw [run_append_singleton]
      by_cases huri : step.uri = uri
      · subst huri
        have hsteps : stepsFor step.uri (steps ++ [step]) = stepsFor step.uri steps ++ [step] := by
          simp [stepsFor]
        rw [hsteps, broughtBy_append_singleton]
        exact ih.step
      · have hsteps : stepsFor uri (steps ++ [step]) = stepsFor uri steps := by
          simp [stepsFor, huri]
        rw [hsteps]
        intro document
        rw [get?_step_of_ne huri]
        exact ih document

/-- What is stored for a URI depends on the steps for it alone. -/
theorem get?_run_congr {steps others : List Step} {uri : String}
    (h : stepsFor uri others = stepsFor uri steps) :
    (run {} others).get? uri = (run {} steps).get? uri := by
  apply Option.ext
  intro document
  rw [storesNewest_run others uri document, storesNewest_run steps uri document, h]

theorem uris_eq_of_get?_eq {s t : Session} (h : ∀ uri, s.get? uri = t.get? uri) :
    s.uris = t.uris :=
  (Std.TreeMap.Equiv.of_forall_constGet?_eq h).keys_eq

/-- Neighbouring steps for different URIs may be taken in either order. -/
theorem stepsFor_swap (uri : String) (earlier later : List Step) {a b : Step} (h : a.uri ≠ b.uri) :
    stepsFor uri (earlier ++ b :: a :: later) = stepsFor uri (earlier ++ a :: b :: later) := by
  unfold stepsFor
  by_cases ha : a.uri = uri
  · have hb : b.uri ≠ uri := fun hb => h (ha.trans hb.symm)
    simp [ha, hb]
  · by_cases hb : b.uri = uri
    · simp [ha, hb]
    · simp [ha, hb]

/-- What is stored for a URI behind any steps is the newest of the documents that count, and these
are told by the steps for the URI alone. A change is refused exactly when one of them has a higher
version, and then it leaves everything as it was. So steps for different URIs may be taken in either
order. -/
theorem get?_run_iff_isNewest (steps : List Step) (uri : String) :
    (∃ since, (∀ documents, Brought uri (stepsFor uri steps) documents ↔ documents = since) ∧
      ((run {} steps).get? uri = none ↔ since = []) ∧
      (∀ document, (run {} steps).get? uri = some document ↔ IsNewest since document) ∧
      ∀ document, ((run {} steps).change uri document).2 = false ↔
        ∃ earlier ∈ since, document.version < earlier.version) ∧
    (∀ document, ((run {} steps).change uri document).2 = false →
      ∀ other, ((run {} steps).change uri document).1.get? other = (run {} steps).get? other) ∧
    (∀ others, stepsFor uri others = stepsFor uri steps →
      (run {} others).get? uri = (run {} steps).get? uri) ∧
    ∀ earlier a b later, steps = earlier ++ a :: b :: later → a.uri ≠ b.uri →
      (run {} (earlier ++ b :: a :: later)).get? uri = (run {} steps).get? uri ∧
        (run {} (earlier ++ b :: a :: later)).uris = (run {} steps).uris := by
  have hstores := storesNewest_run steps uri
  refine ⟨⟨broughtBy (stepsFor uri steps), ?_, hstores.get?_eq_none_iff, hstores, ?_⟩, ?_, ?_, ?_⟩
  · intro documents
    exact brought_iff uri_of_mem_stepsFor
  · intro document
    rw [← hstores.isOutdated_iff]
    unfold change
    by_cases houtdated : (run {} steps).isOutdated uri document.version = true
    · simp [houtdated]
    · simp [houtdated]
  · intro document hrefused other
    unfold change at hrefused ⊢
    by_cases houtdated : (run {} steps).isOutdated uri document.version = true
    · rw [if_pos houtdated]
    · simp [houtdated] at hrefused
  · intro others hothers
    exact get?_run_congr hothers
  · rintro earlier a b later rfl hne
    have hget (other : String) : (run {} (earlier ++ b :: a :: later)).get? other =
        (run {} (earlier ++ a :: b :: later)).get? other :=
      get?_run_congr (stepsFor_swap other earlier later hne)
    exact ⟨hget uri, uris_eq_of_get?_eq hget⟩

/-- Opening the document again lowers its version, and of two documents with it the last one counts. -/
example : (run {} [.opens "a" ⟨5, "x"⟩, .opens "a" ⟨1, "y"⟩, .changes "a" ⟨1, "z"⟩,
    .changes "a" ⟨0, "w"⟩]).get? "a" = some ⟨1, "z"⟩ := by
  decide +kernel

end FeatureRefs.Session
