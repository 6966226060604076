import FeatureRefs.Server.Connection

/-!
# Scans and what interrupts them

A scan may be suspended before it has read anything, and then anything else may happen to the server
until the scan goes on to its end. The server remembers one scan, in its slot. The slot is taken by
every new scan, and it is NOT cleared when a scan comes to its end, so it may hold the number of a
scan that is long finished.

All the same the slot is the one place where a scan that is neither finished nor cancelled can be: a
new scan, a cancellation and the shutdown cancel whatever is in the slot. So a scan has a report at
its end exactly when none of them came in between.
-/

namespace FeatureRefs

/-! ## Events -/

/-- Whether a message cancels the scan that is under way. -/
def Message.interruptsScan : Message → Bool
  | .shutdown => true
  | .execute name _ => name == "baseline.scanTodos" || name == "baseline.cancelScan"
  | _ => false

/-- What happens to a server with scans under way. -/
inductive ScanEvent where
  /-- A scan is asked for and suspended before it has read anything. -/
  | begins
  /-- A suspended scan goes on to its end. -/
  | resumes (number : Nat)
  /-- A message is handled from the beginning to the end, a scan among them. -/
  | handles (message : Message)

/-- Whether an event cancels the scan that is under way. -/
def ScanEvent.interrupts : ScanEvent → Bool
  | .begins => true
  | .resumes _ => false
  | .handles message => message.interruptsScan

/-- A server and its scans that are not finished. -/
structure Scanning where
  server : Server
  unfinished : List ScanJob := []

namespace Scanning

/-- What is there behind an event, with the files as they are then. A scan that comes to its end
leaves the server as it is. -/
def step (s : Scanning) (files : Files) : ScanEvent → Scanning
  | .begins =>
      match s.server.beginScan with
      | (server, .ok job) => ⟨server, job :: s.unfinished⟩
      | (server, .error _) => ⟨server, s.unfinished⟩
  | .resumes number => ⟨s.server, s.unfinished.filter (·.number != number)⟩
  | .handles message => ⟨(s.server.handle files message).server, s.unfinished⟩

/-- What is there behind events, each with the files as they are then. -/
def run (s : Scanning) : List (Files × ScanEvent) → Scanning
  | [] => s
  | (files, event) :: later => (s.step files event).run later

theorem run_append (s : Scanning) (earlier later : List (Files × ScanEvent)) :
    s.run (earlier ++ later) = (s.run earlier).run later := by
  induction earlier generalizing s with
  | nil => rfl
  | cons first earlier ih => exact ih (s.step first.1 first.2)

end Scanning

/-! ## What one event does -/

theorem Command.interruptsScan_name {name : String} {arguments : List Json.Value}
    {command? : Option Command} (h : ofName? name arguments = command?) :
    (Message.execute name arguments).interruptsScan =
      (command? == some .scanTodos || command? == some .cancelScan) := by
  subst h
  show (name == "baseline.scanTodos" || name == "baseline.cancelScan") = _
  unfold ofName?
  split
  · rfl
  · rfl
  · rfl
  · rfl
  · next hscan hcancel _ =>
      rw [beq_false_of_ne hscan, beq_false_of_ne hcancel]
      rfl

namespace Server

/-- What becomes of a server with scans under way: its configuration and its directories stay, and
only what interrupts the scan under way changes the scans. -/
structure IsFollowedBy (server server' : Server) (interrupts : Bool) : Prop where
  config_eq : server'.config = server.config
  roots_eq : server'.roots = server.roots
  scans_cases : interrupts = true ∧
      (server'.scans = server.scans.begin ∨ server'.scans = server.scans.cancel) ∨
    interrupts = false ∧ server'.scans = server.scans

variable {server : Server}

theorem isFollowedBy_quiet {server' : Server} (hconfig : server'.config = server.config)
    (hroots : server'.roots = server.roots) (hscans : server'.scans = server.scans) :
    server.IsFollowedBy server' false :=
  ⟨hconfig, hroots, .inr ⟨rfl, hscans⟩⟩

theorem isFollowedBy_begin :
    server.IsFollowedBy { server with scans := server.scans.begin } true :=
  ⟨rfl, rfl, .inl ⟨rfl, .inl rfl⟩⟩

theorem isFollowedBy_cancelScan : server.IsFollowedBy server.cancelScan true :=
  ⟨rfl, rfl, .inl ⟨rfl, .inr rfl⟩⟩

theorem beginScan_eq (h : normalizeExtensions server.config.extensions ≠ []) :
    server.beginScan = ({ server with scans := server.scans.begin },
      .ok ⟨server.scans.next,
        ⟨normalizeExtensions server.config.extensions, ⟨server.config.ignoreFile⟩⟩,
        server.roots⟩) := by
  have hscanner : server.config.scanner =
      .ok ⟨normalizeExtensions server.config.extensions, ⟨server.config.ignoreFile⟩⟩ := by
    obtain ⟨first, others, hcons⟩ := List.exists_cons_of_ne_nil h
    unfold Config.scanner Scanner.ofExtensions
    rw [hcons]
  unfold beginScan
  rw [hscanner]

theorem isFollowedBy_execute (husable : normalizeExtensions server.config.extensions ≠ [])
    (files : Files) (command : Command) :
    server.IsFollowedBy (server.execute files command).1
      (command == .scanTodos || command == .cancelScan) := by
  cases command with
  | search query => exact isFollowedBy_quiet rfl rfl rfl
  | scanTodos =>
      show server.IsFollowedBy (server.scanTodos files).1 true
      unfold scanTodos
      rw [beginScan_eq husable]
      dsimp only
      split
      · exact isFollowedBy_begin
      · exact isFollowedBy_begin
  | cancelScan => exact isFollowedBy_cancelScan
  | reloadData => exact isFollowedBy_quiet rfl rfl rfl

theorem isFollowedBy_handle (husable : normalizeExtensions server.config.extensions ≠ [])
    {files : Files} {message : Message} (hready : ∀ params, message ≠ .setUp params) :
    server.IsFollowedBy (server.handle files message).server message.interruptsScan := by
  cases message with
  | setUp params => exact absurd rfl (hready params)
  | ready => exact isFollowedBy_quiet rfl rfl rfl
  | shutdown => exact isFollowedBy_cancelScan
  | exit => exact isFollowedBy_quiet rfl rfl rfl
  | opened uri document => exact isFollowedBy_quiet rfl rfl rfl
  | changed uri version texts =>
      show server.IsFollowedBy (server.changeDocument uri.text version texts).1 false
      unfold changeDocument
      split
      · exact isFollowedBy_quiet rfl rfl rfl
      · split
        · exact isFollowedBy_quiet rfl rfl rfl
        · exact isFollowedBy_quiet rfl rfl rfl
  | saved uri => exact isFollowedBy_quiet rfl rfl rfl
  | closed uri => exact isFollowedBy_quiet rfl rfl rfl
  | hover uri position => exact isFollowedBy_quiet rfl rfl rfl
  | complete uri position => exact isFollowedBy_quiet rfl rfl rfl
  | execute name arguments =>
      cases hcommand : Command.ofName? name arguments with
      | none =>
          rw [Command.interruptsScan_name hcommand]
          simp only [handle, hcommand]
          exact isFollowedBy_quiet rfl rfl rfl
      | some command =>
          rw [Command.interruptsScan_name hcommand]
          simp only [handle, hcommand]
          exact isFollowedBy_execute husable files command

theorem roots_setUp_ne_nil (h : server.roots ≠ []) (files : Files) (params : SetupParams) :
    (server.setUp files params).roots ≠ [] := by
  show (if params.roots.isEmpty then server.roots else params.roots) ≠ []
  cases hroots : params.roots with
  | nil => exact h
  | cons first others => simp

/-- At its end a scan has a report unless it is cancelled. -/
theorem finishScan_eq (server : Server) (files : Files) {job : ScanJob} (h : job.roots ≠ []) :
    server.finishScan files job =
      if server.scans.isCancelled job.number then none
      else some (.ofEntries server.registry files.workingDirectory
        (job.scanner.scan files job.roots [] false).entries) := by
  have hroots : (!job.roots.isEmpty) = true := by
    simpa using h
  unfold finishScan
  cases server.scans.isCancelled job.number with
  | true => simp [Scanner.scan, hroots]
  | false => simp [Scanner.scan]

end Server

/-! ## What holds at every moment -/

/-- The scans that have a number have a smaller one than the next, and the one in the slot is not
cancelled. -/
structure Scans.AreOrderly (scans : Scans) : Prop where
  slot_lt : ∀ n, scans.slot = some n → n < scans.next
  cancelled_lt : ∀ n, scans.isCancelled n = true → n < scans.next
  not_cancelled : ∀ n, scans.slot = some n → scans.isCancelled n = false

namespace Scans

variable {scans : Scans}

theorem isCancelled_begin (scans : Scans) (number : Nat) :
    scans.begin.isCancelled number = (scans.slot == some number || scans.isCancelled number) :=
  scans.isCancelled_cancel number

theorem AreOrderly.lt_of_isCancelled_cancel (h : scans.AreOrderly) {n : Nat}
    (hn : scans.cancel.isCancelled n = true) : n < scans.next := by
  rw [isCancelled_cancel, Bool.or_eq_true, beq_iff_eq] at hn
  exact hn.elim (h.slot_lt n) (h.cancelled_lt n)

theorem AreOrderly.cancel (h : scans.AreOrderly) : scans.cancel.AreOrderly := by
  refine ⟨by simp, fun n hn => h.lt_of_isCancelled_cancel hn, by simp⟩

theorem AreOrderly.begin (h : scans.AreOrderly) : scans.begin.AreOrderly := by
  have hnext : scans.begin.next = scans.next + 1 := rfl
  refine ⟨?_, ?_, ?_⟩
  · intro n hn
    obtain rfl := Option.some.inj hn
    omega
  · intro n hn
    have hlt := h.lt_of_isCancelled_cancel hn
    omega
  · intro n hn
    obtain rfl := Option.some.inj hn
    -- The number of the new scan has never been given to another one.
    refine Bool.eq_false_iff.2 fun hcancelled => ?_
    have hlt := h.lt_of_isCancelled_cancel hcancelled
    omega

end Scans

namespace Server.IsFollowedBy

variable {server server' : Server} {interrupts : Bool}

theorem areOrderly (h : server.IsFollowedBy server' interrupts) (hscans : server.scans.AreOrderly) :
    server'.scans.AreOrderly := by
  rcases h.scans_cases with ⟨-, hbegin | hcancel⟩ | ⟨-, hsame⟩
  · rw [hbegin]
    exact hscans.begin
  · rw [hcancel]
    exact hscans.cancel
  · rwa [hsame]

theorem next_le (h : server.IsFollowedBy server' interrupts) :
    server.scans.next ≤ server'.scans.next := by
  rcases h.scans_cases with ⟨-, hbegin | hcancel⟩ | ⟨-, hsame⟩
  · rw [hbegin]
    exact Nat.le_succ _
  · rw [hcancel]
    exact Nat.le_refl _
  · exact Nat.le_of_eq (congrArg Scans.next hsame.symm)

/-- Exactly the scan in the slot is cancelled by an interruption. -/
theorem isCancelled_eq (h : server.IsFollowedBy server' interrupts) (number : Nat) :
    server'.scans.isCancelled number =
      (interrupts && server.scans.slot == some number || server.scans.isCancelled number) := by
  rcases h.scans_cases with ⟨rfl, hbegin | hcancel⟩ | ⟨rfl, hsame⟩
  · rw [hbegin, Scans.isCancelled_begin, Bool.true_and]
  · rw [hcancel, Scans.isCancelled_cancel, Bool.true_and]
  · rw [hsame, Bool.false_and, Bool.false_or]

/-- A scan in the slot that is not cancelled stays there. -/
theorem slot_eq (h : server.IsFollowedBy server' interrupts) {number : Nat}
    (hslot : server.scans.slot = some number) (hopen : server'.scans.isCancelled number = false) :
    server'.scans.slot = some number := by
  rw [h.isCancelled_eq, hslot, beq_self_eq_true, Bool.and_true, Bool.or_eq_false_iff] at hopen
  rcases h.scans_cases with ⟨htrue, -⟩ | ⟨-, hsame⟩
  · exact absurd (htrue.symm.trans hopen.1) (by decide)
  · rw [hsame, hslot]

theorem isCancelled_of_isCancelled (h : server.IsFollowedBy server' interrupts) {number : Nat}
    (hcancelled : server.scans.isCancelled number = true) :
    server'.scans.isCancelled number = true := by
  rw [h.isCancelled_eq, hcancelled, Bool.or_true]

end Server.IsFollowedBy

namespace Scanning

/-- The order in which a server keeps its scans: each has its own number, and one that is not
cancelled is in the slot. -/
structure IsOrderly (s : Scanning) : Prop where
  usable : normalizeExtensions s.server.config.extensions ≠ []
  rooted : s.server.roots ≠ []
  scans : s.server.scans.AreOrderly
  number_lt : ∀ job ∈ s.unfinished, job.number < s.server.scans.next
  rooted_job : ∀ job ∈ s.unfinished, job.roots ≠ []
  nodup : (s.unfinished.map ScanJob.number).Nodup
  mem_slot : ∀ job ∈ s.unfinished, s.server.scans.isCancelled job.number = false →
    s.server.scans.slot = some job.number

variable {s : Scanning} {event : ScanEvent}

theorem isOrderly_fresh {server : Server}
    (husable : normalizeExtensions server.config.extensions ≠ []) (hroots : server.roots ≠ [])
    (hscans : server.scans = {}) : (Scanning.mk server []).IsOrderly := by
  have horderly : Scans.AreOrderly {} := ⟨by simp, by simp [Scans.isCancelled], by simp⟩
  exact ⟨husable, hroots, hscans ▸ horderly, by simp, by simp, List.nodup_nil, by simp⟩

theorem isFollowedBy_step (h : s.IsOrderly) (files : Files)
    (hready : ∀ params, event ≠ .handles (.setUp params)) :
    s.server.IsFollowedBy (s.step files event).server event.interrupts := by
  cases event with
  | begins =>
      unfold step
      rw [Server.beginScan_eq h.usable]
      exact Server.isFollowedBy_begin
  | resumes number => exact Server.isFollowedBy_quiet rfl rfl rfl
  | handles message =>
      exact Server.isFollowedBy_handle h.usable fun params heq => hready params (by rw [heq])

/-- The scans that are still unfinished behind an event are kept in order. -/
theorem IsOrderly.of_sublist (h : s.IsOrderly) {server' : Server} {interrupts : Bool}
    (hfollowed : s.server.IsFollowedBy server' interrupts) {unfinished : List ScanJob}
    (hsublist : unfinished.Sublist s.unfinished) : (Scanning.mk server' unfinished).IsOrderly where
  usable := hfollowed.config_eq ▸ h.usable
  rooted := hfollowed.roots_eq ▸ h.rooted
  scans := hfollowed.areOrderly h.scans
  number_lt job hjob := by
    have hlt := h.number_lt job (hsublist.subset hjob)
    have hle := hfollowed.next_le
    show job.number < server'.scans.next
    omega
  rooted_job job hjob := h.rooted_job job (hsublist.subset hjob)
  nodup := h.nodup.sublist (hsublist.map _)
  mem_slot job hjob hopen := by
    have hopen' : s.server.scans.isCancelled job.number = false := by
      refine Bool.eq_false_iff.2 fun hcancelled => ?_
      rw [hfollowed.isCancelled_of_isCancelled hcancelled] at hopen
      contradiction
    exact hfollowed.slot_eq (h.mem_slot job (hsublist.subset hjob) hopen') hopen

theorem IsOrderly.step (h : s.IsOrderly) (files : Files)
    (hready : ∀ params, event ≠ .handles (.setUp params)) : (s.step files event).IsOrderly := by
  have hfollowed := isFollowedBy_step h files hready
  cases event with
  | resumes number => exact h.of_sublist hfollowed List.filter_sublist
  | handles message => exact h.of_sublist hfollowed (List.Sublist.refl _)
  | begins =>
      -- The others are kept in order, and the new scan is in the slot.
      have hothers := h.of_sublist hfollowed (List.Sublist.refl _)
      unfold Scanning.step at hothers ⊢
      rw [Server.beginScan_eq h.usable] at hothers ⊢
      refine ⟨hothers.usable, hothers.rooted, hothers.scans, ?_, ?_, ?_, ?_⟩
      · exact List.forall_mem_cons.2 ⟨Nat.lt_succ_self _, hothers.number_lt⟩
      · exact List.forall_mem_cons.2 ⟨h.rooted, hothers.rooted_job⟩
      · refine List.nodup_cons.2 ⟨fun hmem => ?_, hothers.nodup⟩
        obtain ⟨job, hjob, hnumber⟩ := List.mem_map.1 hmem
        exact Nat.ne_of_lt (h.number_lt job hjob) hnumber
      · exact List.forall_mem_cons.2 ⟨fun _ => rfl, hothers.mem_slot⟩

/-- At most one of the scans that are not finished is not cancelled. -/
theorem IsOrderly.length_open_le_one (h : s.IsOrderly) :
    (s.unfinished.filter fun job => !s.server.scans.isCancelled job.number).length ≤ 1 := by
  have hnodup := h.nodup.sublist
    ((List.filter_sublist (p := fun job => !s.server.scans.isCancelled job.number)).map
      ScanJob.number)
  have hslot : ∀ n ∈ (s.unfinished.filter fun job =>
      !s.server.scans.isCancelled job.number).map ScanJob.number,
      s.server.scans.slot = some n := by
    intro n hn
    obtain ⟨job, hjob, rfl⟩ := List.mem_map.1 hn
    obtain ⟨hmem, hopen⟩ := List.mem_filter.1 hjob
    exact h.mem_slot job hmem (by simpa using hopen)
  -- All of them have the number in the slot, and no two have the same.
  rw [← List.length_map ScanJob.number]
  cases hcurrent : s.server.scans.slot with
  | none =>
      have hnil := List.eq_nil_iff_forall_not_mem.2 fun n hn =>
        Option.some_ne_none n ((hslot n hn).symm.trans hcurrent)
      rw [hnil]
      exact Nat.zero_le 1
  | some current =>
      have hsame := List.eq_replicate_of_mem fun n hn =>
        Option.some.inj ((hslot n hn).symm.trans hcurrent)
      rw [hsame] at hnodup
      exact List.nodup_replicate.1 hnodup

/-! ## Many events -/

section

variable {events : List (Files × ScanEvent)}
  (hready : ∀ event ∈ events, ∀ params, event.2 ≠ .handles (.setUp params))
include hready

theorem IsOrderly.run (h : s.IsOrderly) : (s.run events).IsOrderly := by
  induction events generalizing s with
  | nil => exact h
  | cons first events ih =>
      obtain ⟨hfirst, hevents⟩ := List.forall_mem_cons.1 hready
      exact ih hevents (h.step first.1 hfirst)

/-- A scan is unfinished until it is resumed. -/
theorem IsOrderly.mem_unfinished_run (h : s.IsOrderly) {job : ScanJob}
    (hjob : job ∈ s.unfinished) (hends : ∀ event ∈ events, event.2 ≠ .resumes job.number) :
    job ∈ (s.run events).unfinished := by
  induction events generalizing s with
  | nil => exact hjob
  | cons first events ih =>
      obtain ⟨files, event⟩ := first
      obtain ⟨hfirst, hevents⟩ := List.forall_mem_cons.1 hready
      obtain ⟨hend, hends⟩ := List.forall_mem_cons.1 hends
      refine ih hevents (h.step files hfirst) ?_ hends
      cases event with
      | begins =>
          unfold Scanning.step
          rw [Server.beginScan_eq h.usable]
          exact List.mem_cons_of_mem _ hjob
      | resumes number =>
          have hne : job.number ≠ number := fun heq => hend (by rw [heq])
          exact List.mem_filter.2 ⟨hjob, by simpa using hne⟩
      | handles message => exact hjob

/-- A scan that was cancelled stays so. -/
theorem IsOrderly.isCancelled_run (h : s.IsOrderly) {number : Nat}
    (hcancelled : s.server.scans.isCancelled number = true) :
    (s.run events).server.scans.isCancelled number = true := by
  induction events generalizing s with
  | nil => exact hcancelled
  | cons first events ih =>
      obtain ⟨hfirst, hevents⟩ := List.forall_mem_cons.1 hready
      refine ih hevents (h.step first.1 hfirst) ?_
      exact (isFollowedBy_step h first.1 hfirst).isCancelled_of_isCancelled hcancelled

/-- The scan in the slot is cancelled as soon as something interrupts it. -/
theorem IsOrderly.isCancelled_run_of_slot (h : s.IsOrderly) {number : Nat}
    (hslot : s.server.scans.slot = some number) :
    (s.run events).server.scans.isCancelled number = events.any (·.2.interrupts) := by
  induction events generalizing s with
  | nil => exact h.scans.not_cancelled number hslot
  | cons first events ih =>
      obtain ⟨hfirst, hevents⟩ := List.forall_mem_cons.1 hready
      have hfollowed := isFollowedBy_step h first.1 hfirst
      have hcancelled := hfollowed.isCancelled_eq number
      rw [hslot, beq_self_eq_true, Bool.and_true, h.scans.not_cancelled number hslot,
        Bool.or_false] at hcancelled
      rw [List.any_cons]
      cases hinterrupts : first.2.interrupts with
      | true =>
          rw [hinterrupts] at hcancelled
          exact (h.step first.1 hfirst).isCancelled_run hevents hcancelled
      | false =>
          rw [hinterrupts] at hcancelled
          exact ih hevents (h.step first.1 hfirst) (hfollowed.slot_eq hslot hcancelled)

end

/-! ## The end of a scan -/

/-- A scan that begins takes the slot under the next number. -/
theorem IsOrderly.begins (h : s.IsOrderly) (files : Files) :
    (s.step files .begins).server.scans.slot = some s.server.scans.next ∧
      ∃ job ∈ (s.step files .begins).unfinished, job.number = s.server.scans.next := by
  unfold Scanning.step
  rw [Server.beginScan_eq h.usable]
  exact ⟨rfl, _, List.mem_cons_self, rfl⟩

/-- A scan that is not suspended has a report, whatever happened before. -/
theorem IsOrderly.answer_scanTodos (h : s.IsOrderly) (files : Files)
    (arguments : List Json.Value) : ∃ report : TodoReport,
      (s.server.handle files (.execute "baseline.scanTodos" arguments)).answer =
        .ok report.toJson := by
  have hopen : s.server.scans.begin.isCancelled s.server.scans.next = false :=
    h.scans.begin.not_cancelled _ s.server.scans.slot_begin
  have hrooted : s.server.roots ≠ [] := h.rooted
  show ∃ report : TodoReport,
    Except.ok (s.server.scanTodos files).2.1.toJson = Except.ok report.toJson
  unfold Server.scanTodos
  rw [Server.beginScan_eq h.usable]
  dsimp only
  rw [Server.finishScan_eq _ files hrooted, hopen]
  exact ⟨_, rfl⟩

/-- After the server is set up, at most one of the scans that are neither finished nor cancelled is
there, and the slot holds it. A scan that began and is not finished has a report when it is resumed,
exactly when no event since then interrupted it, and none otherwise. A scan that is not suspended
always has one. -/
theorem finishScan_run {startFiles setupFiles : Files} {config : Config} {root : Path}
    {params : SetupParams} {server : Server}
    (hserver : server = (Server.start startFiles config root).setUp setupFiles params)
    (husable : normalizeExtensions server.config.extensions ≠ [])
    {events : List (Files × ScanEvent)}
    (hready : ∀ event ∈ events, ∀ params, event.2 ≠ .handles (.setUp params)) :
    let s := (Scanning.mk server []).run events
    (∀ job ∈ s.unfinished, s.server.scans.isCancelled job.number = false →
        s.server.scans.slot = some job.number) ∧
      (s.unfinished.filter fun job => !s.server.scans.isCancelled job.number).length ≤ 1 ∧
      (∀ before files between, events = before ++ (files, .begins) :: between →
        let number := ((Scanning.mk server []).run before).server.scans.next
        (∀ event ∈ between, event.2 ≠ .resumes number) →
        (∃ job ∈ s.unfinished, job.number = number) ∧
          ∀ job ∈ s.unfinished, job.number = number → ∀ files,
            s.server.finishScan files job =
              if between.any (·.2.interrupts) then none
              else some (.ofEntries s.server.registry files.workingDirectory
                (job.scanner.scan files job.roots [] false).entries)) ∧
      ∀ files arguments, ∃ report : TodoReport,
        (s.server.handle files (.execute "baseline.scanTodos" arguments)).answer =
          .ok report.toJson := by
  have hroots : server.roots ≠ [] := by
    rw [hserver]
    exact Server.roots_setUp_ne_nil (by simp [Server.start]) setupFiles params
  have hfresh : (Scanning.mk server []).IsOrderly :=
    isOrderly_fresh husable hroots (by rw [hserver]; rfl)
  intro s
  have horderly : s.IsOrderly := hfresh.run hready
  refine ⟨horderly.mem_slot, horderly.length_open_le_one, ?_, horderly.answer_scanTodos⟩
  intro before files between hsplit number hends
  subst hsplit
  obtain ⟨hbefore, hrest⟩ := List.forall_mem_append.1 hready
  obtain ⟨hbegins, hbetween⟩ := List.forall_mem_cons.1 hrest
  have hearlier := hfresh.run hbefore
  have hbegun := hearlier.step files hbegins
  have hs : s = (((Scanning.mk server []).run before).step files .begins).run between :=
    run_append _ _ _
  obtain ⟨hslot, job, hjob, hnumber⟩ := hearlier.begins files
  have hcancelled := hbegun.isCancelled_run_of_slot hbetween hslot
  rw [← hs] at hcancelled
  refine ⟨⟨job, ?_, hnumber⟩, ?_⟩
  · rw [hs]
    refine hbegun.mem_unfinished_run hbetween hjob ?_
    rwa [hnumber]
  · rintro other hother hsame files
    rw [Server.finishScan_eq _ files (horderly.rooted_job other hother), hsame, hcancelled]

/-- Of two scans the second one has a report, and the first one has none. -/
theorem finishScan_run_two :
    let files : Files := ⟨⟨"/"⟩, fun _ => none⟩
    let server := (Server.start files {} ⟨"/w"⟩).setUp files {}
    let later : List (Files × ScanEvent) :=
      [(files, .begins), (files, .handles (.execute "baseline.reloadData" []))]
    let s := (Scanning.mk server []).run ((files, .begins) :: later)
    normalizeExtensions server.config.extensions ≠ [] ∧
      (∀ event ∈ (files, .begins) :: later, ∀ params, event.2 ≠ .handles (.setUp params)) ∧
      (∃ job ∈ s.unfinished, job.number = 0 ∧ s.server.finishScan files job = none) ∧
      ∃ job ∈ s.unfinished, job.number = 1 ∧ (s.server.finishScan files job).isSome = true := by
  intro files server later s
  have husable : normalizeExtensions server.config.extensions ≠ [] := by
    show normalizeExtensions defaultExtensions ≠ []
    decide +kernel
  have hready : ∀ event ∈ (files, .begins) :: later, ∀ params,
      event.2 ≠ .handles (.setUp params) := by
    simp [later]
  have hnumber : ((Scanning.mk server []).run [(files, .begins)]).server.scans.next = 1 := by
    unfold Scanning.run Scanning.step
    rw [Server.beginScan_eq husable]
    rfl
  obtain ⟨-, -, hscans, -⟩ := finishScan_run rfl husable hready
  refine ⟨husable, hready, ?_, ?_⟩
  · obtain ⟨⟨job, hjob, hfirst⟩, hend⟩ := hscans [] files later rfl (by simp [later])
    exact ⟨job, hjob, hfirst, hend job hjob hfirst files⟩
  · obtain ⟨⟨job, hjob, hsecond⟩, hend⟩ := hscans [(files, .begins)] files
      [(files, .handles (.execute "baseline.reloadData" []))] rfl (by simp)
    refine ⟨job, hjob, hsecond.trans hnumber, ?_⟩
    rw [hend job hjob hsecond files]
    rfl

end Scanning

end FeatureRefs
