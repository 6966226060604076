import Mathlib.Data.List.Nodup
import FeatureRefs.Registry.Source

/-!
# Reloads that run side by side

A call that reloads the data may set the data file first; then it reads the file, and then it puts
what it has read in force. Other calls may act between these steps, and files may be written. Nothing
holds a call back that has read its file, so the registry in force at the end is that of the call that
was the last to put its registry in force. This need not be the call that was the last to read: a call
that has read an old file may be overtaken, and then it puts the old data in force again.
-/

namespace FeatureRefs

/-! ## Calls and their steps -/

/-- How far a call that reloads the data has come. -/
inductive ReloadStage where
  /-- It sets the data file next. -/
  | opening (path : Path)
  /-- It reads the data file next. -/
  | reading
  /-- It puts a registry in force next. -/
  | publishing (registry : Registry)
  | finished

/-- Whether a call has not read the data file. -/
def ReloadStage.IsUnread : ReloadStage → Prop
  | opening _ | reading => True
  | publishing _ | finished => False

/-- What the books say of a call at some stage: a call that has not read its file is not in them, and
one that is finished has put something in force. -/
def ReloadStage.Fits (loads publications : List (Nat × Registry)) (call : Nat) :
    ReloadStage → Prop
  | .opening _ | .reading => ∀ registry, (call, registry) ∉ loads
  | .publishing registry => (call, registry) ∈ loads
  | .finished => ∃ registry, (call, registry) ∈ publications

/-- What happens while calls run. -/
inductive ReloadEvent where
  /-- A call takes its next step. -/
  | advances (call : Nat)
  /-- Files are written. -/
  | writes (files : Files)

/-- The data in use with the files and the calls that run. -/
structure Reloading where
  source : DataSource
  files : Files
  calls : List ReloadStage

namespace Reloading

/-- What is there when a call at some stage has taken its next step. -/
def advance (s : Reloading) (call : Nat) : ReloadStage → Reloading
  | .opening path =>
      { s with source := s.source.setPath path, calls := s.calls.set call .reading }
  | .reading => { s with calls := s.calls.set call (.publishing (s.source.read s.files)) }
  | .publishing registry =>
      { s with source := s.source.publish registry, calls := s.calls.set call .finished }
  | .finished => s

/-- What is there behind an event. -/
def step (s : Reloading) : ReloadEvent → Reloading
  | .advances call =>
      match s.calls[call]? with
      | some stage => s.advance call stage
      | none => s
  | .writes files => { s with files }

/-- What is there behind some events. -/
def run (s : Reloading) : List ReloadEvent → Reloading
  | [] => s
  | event :: later => (s.step event).run later

/-- The call that reads the data file at an event, with what it reads. -/
def loaded? (s : Reloading) : ReloadEvent → Option (Nat × Registry)
  | .advances call =>
      match s.calls[call]? with
      | some .reading => some (call, s.source.read s.files)
      | _ => none
  | .writes _ => none

/-- The call that puts a registry in force at an event, with the registry. -/
def published? (s : Reloading) : ReloadEvent → Option (Nat × Registry)
  | .advances call =>
      match s.calls[call]? with
      | some (.publishing registry) => some (call, registry)
      | _ => none
  | .writes _ => none

/-- What the calls read during some events, in that order. -/
def loads (s : Reloading) : List ReloadEvent → List (Nat × Registry)
  | [] => []
  | event :: later => (s.loaded? event).toList ++ (s.step event).loads later

/-- What the calls put in force during some events, in that order. -/
def publications (s : Reloading) : List ReloadEvent → List (Nat × Registry)
  | [] => []
  | event :: later => (s.published? event).toList ++ (s.step event).publications later

/-! ## What calls have read and put in force -/

/-- The books on calls that run: what they have read and what they have put in force so far. -/
structure Ledger (s : Reloading) (initial : Registry) (loads publications : List (Nat × Registry)) :
    Prop where
  nodup_loads : (loads.map Prod.fst).Nodup
  fits : ∀ (call : Nat) (stage : ReloadStage), s.calls[call]? = some stage → stage.Fits loads publications call
  subset_loads : publications ⊆ loads
  registry_eq : s.source.registry = (publications.getLast?.map Prod.snd).getD initial

variable {s : Reloading} {initial : Registry} {loads publications : List (Nat × Registry)}

/-- Nothing has been read as long as all calls are before that. -/
theorem ledger_unread (h : ∀ stage ∈ s.calls, stage.IsUnread) :
    s.Ledger s.source.registry [] [] where
  nodup_loads := List.nodup_nil
  fits call stage hcall := by
    have hunread := h stage (List.mem_of_getElem? hcall)
    cases stage with
    | opening path => exact fun registry => List.not_mem_nil
    | reading => exact fun registry => List.not_mem_nil
    | publishing registry => exact hunread.elim
    | finished => exact hunread.elim
  subset_loads := List.Subset.refl []
  registry_eq := rfl

section Stages

variable {call : Nat} {stage next : ReloadStage} {loads' publications' : List (Nat × Registry)}

/-- Books that go on with what one call has done still fit the other calls. -/
theorem Ledger.fits_set (h : s.Ledger initial loads publications)
    (hcall : s.calls[call]? = some stage)
    (hloads : ∀ other registry, call ≠ other →
      ((other, registry) ∈ loads' ↔ (other, registry) ∈ loads))
    (hpublications : publications ⊆ publications') (hnext : next.Fits loads' publications' call) :
    ∀ (other : Nat) (found : ReloadStage), (s.calls.set call next)[other]? = some found →
      found.Fits loads' publications' other := by
  intro other found hfound
  obtain ⟨hlength, -⟩ := List.getElem?_eq_some_iff.1 hcall
  rw [List.getElem?_set, if_pos hlength] at hfound
  -- Only the call itself is at another stage, and only what it has done is new in the books.
  by_cases hsame : call = other
  · rw [if_pos hsame] at hfound
    obtain rfl := Option.some.inj hfound
    rwa [← hsame]
  · rw [if_neg hsame] at hfound
    have hfits := h.fits other found hfound
    cases found with
    | opening path => exact fun registry hmem => hfits registry ((hloads _ _ hsame).1 hmem)
    | reading => exact fun registry hmem => hfits registry ((hloads _ _ hsame).1 hmem)
    | publishing registry => exact (hloads _ _ hsame).2 hfits
    | finished =>
        obtain ⟨registry, hmem⟩ := hfits
        exact ⟨registry, hpublications hmem⟩

/-- A call that goes over to another data file has not read anything. -/
theorem Ledger.open (h : s.Ledger initial loads publications) {path : Path}
    (hcall : s.calls[call]? = some (.opening path)) :
    (s.advance call (.opening path)).Ledger initial loads publications where
  nodup_loads := h.nodup_loads
  fits := by
    have hunread : ∀ registry, (call, registry) ∉ loads := h.fits call _ hcall
    exact h.fits_set hcall (fun _ _ _ => Iff.rfl) (List.Subset.refl _) hunread
  subset_loads := h.subset_loads
  registry_eq := h.registry_eq

/-- A call that reads its file has not done so before. -/
theorem Ledger.read (h : s.Ledger initial loads publications)
    (hcall : s.calls[call]? = some .reading) :
    (s.advance call .reading).Ledger initial (loads ++ [(call, s.source.read s.files)])
      publications where
  nodup_loads := by
    have hnew : call ∉ loads.map Prod.fst := by
      intro hmem
      obtain ⟨⟨_, registry⟩, hload, rfl⟩ := List.mem_map.1 hmem
      exact h.fits _ _ hcall registry hload
    rw [List.map_append]
    refine List.nodup_append.2 ⟨h.nodup_loads, List.pairwise_singleton _ _, ?_⟩
    intro other hother _ hcalls hsame
    obtain rfl : other = call := hsame.trans (List.mem_singleton.1 hcalls)
    exact hnew hother
  fits := by
    refine h.fits_set hcall ?_ (List.Subset.refl _) ?_
    · intro other registry hne
      rw [List.mem_append, List.mem_singleton, or_iff_left]
      exact fun heq => hne (Prod.mk.inj heq).1.symm
    · exact List.mem_append_right _ (List.mem_singleton_self _)
  subset_loads := List.Subset.trans h.subset_loads (List.subset_append_left _ _)
  registry_eq := h.registry_eq

/-- A call puts in force what it has read. -/
theorem Ledger.publish (h : s.Ledger initial loads publications) {registry : Registry}
    (hcall : s.calls[call]? = some (.publishing registry)) :
    (s.advance call (.publishing registry)).Ledger initial loads
      (publications ++ [(call, registry)]) where
  nodup_loads := h.nodup_loads
  fits := by
    refine h.fits_set hcall (fun _ _ _ => Iff.rfl) (List.subset_append_left _ _) ?_
    exact ⟨registry, List.mem_append_right _ (List.mem_singleton_self _)⟩
  subset_loads := by
    refine List.append_subset.2 ⟨h.subset_loads, ?_⟩
    exact List.cons_subset.2 ⟨h.fits _ _ hcall, List.nil_subset _⟩
  registry_eq := by
    rw [List.getLast?_append]
    rfl

end Stages

/-- The books go on with every event. -/
theorem Ledger.step (h : s.Ledger initial loads publications) (event : ReloadEvent) :
    (s.step event).Ledger initial (loads ++ (s.loaded? event).toList)
      (publications ++ (s.published? event).toList) := by
  cases event with
  | writes files =>
      rw [loaded?, published?, Option.toList_none, List.append_nil, List.append_nil]
      exact { h with }
  | advances call =>
      cases hcall : s.calls[call]? with
      | none =>
          simp only [Reloading.step, loaded?, published?, hcall, Option.toList_none,
            List.append_nil]
          exact h
      | some stage =>
          simp only [Reloading.step, loaded?, published?, hcall]
          cases stage with
          | opening path => simpa using h.open hcall
          | reading => simpa using h.read hcall
          | publishing registry => simpa using h.publish hcall
          | finished => simpa [advance] using h

/-- The books at the end of some events. -/
theorem Ledger.run (h : s.Ledger initial loads publications) (history : List ReloadEvent) :
    (s.run history).Ledger initial (loads ++ s.loads history)
      (publications ++ s.publications history) := by
  induction history generalizing s loads publications with
  | nil => simpa [Reloading.run, Reloading.loads, Reloading.publications] using h
  | cons event later ih =>
      have hlater := ih (h.step event)
      rw [List.append_assoc, List.append_assoc] at hlater
      exact hlater

/-! ## The registry in force at the end -/

@[simp] theorem length_calls_step (event : ReloadEvent) :
    (s.step event).calls.length = s.calls.length := by
  unfold step
  split
  · split
    · rename_i stage _
      cases stage <;> simp [advance]
    · rfl
  · rfl

@[simp] theorem length_calls_run (history : List ReloadEvent) :
    (s.run history).calls.length = s.calls.length := by
  induction history generalizing s with
  | nil => rfl
  | cons event later ih => rw [run, ih, length_calls_step]

theorem step_advances {call : Nat} {stage : ReloadStage} (hcall : s.calls[call]? = some stage) :
    s.step (.advances call) = s.advance call stage := by
  rw [step, hcall]

theorem getElem?_set_call {call : Nat} {stage : ReloadStage} (hcall : s.calls[call]? = some stage)
    (next : ReloadStage) : (s.calls.set call next)[call]? = some next := by
  obtain ⟨hlength, -⟩ := List.getElem?_eq_some_iff.1 hcall
  exact List.getElem?_set_self hlength

/-- A call reloads the data where nothing comes between its steps. -/
theorem source_run_reading {call : Nat} (hcall : s.calls[call]? = some .reading) :
    (s.run [.advances call, .advances call]).source = s.source.reload s.files := by
  have hread := getElem?_set_call hcall (.publishing (s.source.read s.files))
  rw [run, step_advances hcall, run, step_advances hread]
  rfl

/-- A call goes over to another data file where nothing comes between its steps. -/
theorem source_run_opening {call : Nat} {path : Path}
    (hcall : s.calls[call]? = some (.opening path)) :
    (s.run [.advances call, .advances call, .advances call]).source =
      s.source.reloadFrom s.files path := by
  have hopened := getElem?_set_call hcall .reading
  rw [run, step_advances hcall]
  exact source_run_reading hopened

/-- Every call reads the data file once, and when all calls are finished, the registry in force is what
the call has read that was the last to put its registry in force. If this call was also the last to
read, it is the newest data. -/
theorem registry_run {s : Reloading} {history : List ReloadEvent} (hcalls : s.calls ≠ [])
    (hunread : ∀ stage ∈ s.calls, stage.IsUnread)
    (hfinished : ∀ stage ∈ (s.run history).calls, stage = .finished) :
    ((s.loads history).map Prod.fst).Nodup ∧
      ∃ newest last, (s.loads history).getLast? = some newest ∧
        (s.publications history).getLast? = some last ∧ last ∈ s.loads history ∧
        (s.run history).source.registry = last.2 ∧
        (last.1 = newest.1 → (s.run history).source.registry = newest.2) := by
  have hledger := (ledger_unread hunread).run history
  rw [List.nil_append, List.nil_append] at hledger
  -- There is a call, and what it has put in force was read before.
  have hlength : 0 < (s.run history).calls.length := by
    rw [length_calls_run]
    exact List.length_pos_iff.2 hcalls
  have hfirst : (s.run history).calls[0]? = some .finished := by
    rw [List.getElem?_eq_getElem hlength, hfinished _ (List.getElem_mem hlength)]
  obtain ⟨registry, hpublished⟩ := hledger.fits 0 .finished hfirst
  obtain ⟨last, hlast⟩ : ∃ last, (s.publications history).getLast? = some last :=
    ⟨_, List.getLast?_eq_some_getLast (List.ne_nil_of_mem hpublished)⟩
  obtain ⟨newest, hnewest⟩ : ∃ newest, (s.loads history).getLast? = some newest :=
    ⟨_, List.getLast?_eq_some_getLast (List.ne_nil_of_mem (hledger.subset_loads hpublished))⟩
  have hread : last ∈ s.loads history := hledger.subset_loads (List.mem_of_getLast? hlast)
  have hregistry : (s.run history).source.registry = last.2 := by
    rw [hledger.registry_eq, hlast]
    rfl
  refine ⟨hledger.nodup_loads, newest, last, hnewest, hlast, hread, hregistry, ?_⟩
  intro hsame
  rw [hregistry, List.inj_on_of_nodup_map hledger.nodup_loads hread
    (List.mem_of_getLast? hnewest) hsame]

/-- The call that goes over to another data file is the last to read and the last to put a registry in
force. -/
theorem registry_run_in_order :
    let text := "\x7b\"browsers\":\x7b\x7d,\"features\":\x7b\"grid\":\x7b\"name\":\"Grid\"\x7d\x7d\x7d"
    let files : Files := ⟨⟨"/w"⟩, fun path =>
      if path = ⟨"/w/data.json"⟩ then some (.file text.toUTF8) else none⟩
    let s : Reloading := ⟨⟨⟨"/w/old.json"⟩, ∅⟩, files, [.opening ⟨"/w/data.json"⟩, .reading]⟩
    let history : List ReloadEvent :=
      [.advances 1, .advances 0, .advances 0, .advances 1, .advances 0]
    s.calls ≠ [] ∧ (∀ stage ∈ s.calls, stage.IsUnread) ∧
      (∀ stage ∈ (s.run history).calls, stage = .finished) ∧
      (s.run history).source.registry.features.map Feature.name = ["Grid"] := by
  intro text files s history
  have hcalls : s.calls ≠ [] := List.cons_ne_nil _ _
  have hunread : ∀ stage ∈ s.calls, stage.IsUnread := by
    simp [s, ReloadStage.IsUnread]
  have hend : (s.run history).calls = [.finished, .finished] := rfl
  have hfinished : ∀ stage ∈ (s.run history).calls, stage = .finished := by
    simp [hend]
  refine ⟨hcalls, hunread, hfinished, ?_⟩
  obtain ⟨-, newest, last, hnewest, hlast, -, -, hregistry⟩ :=
    registry_run hcalls hunread hfinished
  obtain rfl : (0, Registry.loadOrEmpty files ⟨"/w/data.json"⟩) = newest := Option.some.inj hnewest
  obtain rfl : (0, Registry.loadOrEmpty files ⟨"/w/data.json"⟩) = last := Option.some.inj hlast
  rw [hregistry rfl]
  decide +kernel

/-- A call that has read the old file is overtaken by one that reads the new file, and then it puts the
old data in force again. -/
theorem registry_run_overtaken :
    let text := "\x7b\"browsers\":\x7b\x7d,\"features\":\x7b\"grid\":\x7b\"name\":\"Grid\"\x7d\x7d\x7d"
    let written : Files := ⟨⟨"/w"⟩, fun path =>
      if path = ⟨"/w/data.json"⟩ then some (.file text.toUTF8) else none⟩
    let s : Reloading := ⟨⟨⟨"/w/data.json"⟩, ∅⟩, ⟨⟨"/w"⟩, fun _ => none⟩, [.reading, .reading]⟩
    let history : List ReloadEvent :=
      [.advances 0, .writes written, .advances 1, .advances 1, .advances 0]
    (∀ stage ∈ s.calls, stage.IsUnread) ∧
      (∀ stage ∈ (s.run history).calls, stage = .finished) ∧
      ∃ newest, (s.loads history).getLast? = some newest ∧
        newest.2.features.map Feature.name = ["Grid"] ∧
        (s.run history).source.registry.features = [] := by
  intro text written s history
  have hunread : ∀ stage ∈ s.calls, stage.IsUnread := by
    simp [s, ReloadStage.IsUnread]
  have hend : (s.run history).calls = [.finished, .finished] := rfl
  have hfinished : ∀ stage ∈ (s.run history).calls, stage = .finished := by
    simp [hend]
  have hnewest : (s.loads history).getLast? =
      some (1, Registry.loadOrEmpty written ⟨"/w/data.json"⟩) := rfl
  exact ⟨hunread, hfinished, _, hnewest, by decide +kernel, rfl⟩

end Reloading

end FeatureRefs
