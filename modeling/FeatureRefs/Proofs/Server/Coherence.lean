import FeatureRefs.Server.Connection

/-!
# What an editor was told last

A server tells diagnostics of its own accord, and an editor shows those that it was told last. They
are right as long as they are those of the stored text against the registry in force, with the
stored version, and as long as there are none for a document that was closed. Every message that a
server handles keeps them right: what a message may have changed for a URI is told anew.

A URI is read anew from the text that a document is stored under. Whether it is the same one then is
a matter of how URIs are written, so it is asked for here.
-/

namespace FeatureRefs

/-! ## Diagnostics among notifications -/

/-- Whether a notification tells the diagnostics of a URI. -/
def Notification.isDiagnosticsOf (uri : String) : Notification → Bool
  | .diagnostics other _ _ => other == uri
  | .showMessage .. | .logMessage .. => false

/-- The diagnostics of a URI that were told last. -/
def lastDiagnostics? (uri : String) (told : List Notification) : Option Notification :=
  (told.filter (·.isDiagnosticsOf uri)).getLast?

theorem lastDiagnostics?_append (uri : String) (told more : List Notification) :
    lastDiagnostics? uri (told ++ more) =
      (lastDiagnostics? uri more).or (lastDiagnostics? uri told) := by
  rw [lastDiagnostics?, List.filter_append, List.getLast?_append]
  rfl

theorem lastDiagnostics?_eq_none_iff {uri : String} {told : List Notification} :
    lastDiagnostics? uri told = none ↔ ∀ n ∈ told, n.isDiagnosticsOf uri = false := by
  rw [lastDiagnostics?, List.getLast?_eq_none_iff, List.filter_eq_nil_iff]
  simp

/-- When all diagnostics of a URI are the same, these were told last. -/
theorem lastDiagnostics?_eq_some_of_forall {uri : String} {told : List Notification}
    {n : Notification}
    (hmem : n ∈ told) (hn : n.isDiagnosticsOf uri = true)
    (hall : ∀ m ∈ told, m.isDiagnosticsOf uri = true → m = n) :
    lastDiagnostics? uri told = some n := by
  cases hlast : lastDiagnostics? uri told with
  | none =>
      have hnot := lastDiagnostics?_eq_none_iff.1 hlast n hmem
      rw [hn] at hnot
      contradiction
  | some m =>
      have hm := List.mem_of_getLast? hlast
      obtain ⟨htold, hdiagnostics⟩ := List.mem_filter.1 hm
      rw [hall m htold hdiagnostics]

/-! ## Documents of a session -/

theorem Session.isOpen_iff {s : Session} {uri : String} :
    s.isOpen uri = true ↔ ∃ document, s.get? uri = some document := by
  rw [Session.isOpen, Option.isSome_iff_exists]

theorem Session.mem_uris_iff {s : Session} {uri : String} : uri ∈ s.uris ↔ s.isOpen uri = true := by
  rw [Session.uris, Std.TreeMap.mem_keys, Session.isOpen, Session.get?,
    Std.TreeMap.mem_iff_isSome_getElem?]

namespace Server

/-! ## What is due -/

/-- What is due to be told about a URI: the diagnostics of its document with the version, or that
there are none when no document is open. -/
def due (server : Server) (uri : String) : Notification :=
  match server.documents.get? uri with
  | some document =>
      .diagnostics uri (validate document.text server.registry) (some document.version)
  | none => .diagnostics uri [] none

/-- Documents are stored under URIs that are read again as they are written. -/
def IsSteady (server : Server) : Prop :=
  ∀ uri, server.documents.isOpen uri = true → Uri.normalize? uri = some uri

variable {server server' : Server}

theorem isDiagnosticsOf_due {uri other : String} :
    (server.due uri).isDiagnosticsOf other = true ↔ uri = other := by
  unfold due
  split
  · simp [Notification.isDiagnosticsOf]
  · simp [Notification.isDiagnosticsOf]

/-- What is due changes only with the document and the registry. -/
theorem due_eq_of_get?_eq {uri : String}
    (hget : server'.documents.get? uri = server.documents.get? uri)
    (hregistry : server'.registry = server.registry) : server'.due uri = server.due uri := by
  rw [due, due, hget, hregistry]

theorem due_of_not_isOpen {uri : String} (h : server.documents.isOpen uri = false) :
    server.due uri = .diagnostics uri [] none := by
  have hnone : server.documents.get? uri = none := by simpa [Session.isOpen] using h
  rw [due, hnone]

/-- What is told about a URI is what is due, if its document is open. -/
theorem mem_publish_iff (h : server.IsSteady) {uri : String} {n : Notification} :
    n ∈ server.publish uri ↔ server.documents.isOpen uri = true ∧ n = server.due uri := by
  cases hget : server.documents.get? uri with
  | none => simp [publish, Session.validate, Session.isOpen, hget]
  | some document =>
      have hopen : server.documents.isOpen uri = true := by simp [Session.isOpen, hget]
      simp [publish, Session.validate, Session.isCurrent, Session.version?, due, hget, h uri hopen,
        hopen]

/-- What is told about all open documents is what is due for each of them. -/
theorem mem_publishAll_iff (h : server.IsSteady) {n : Notification} :
    n ∈ server.publishAll ↔ ∃ uri, server.documents.isOpen uri = true ∧ n = server.due uri := by
  simp only [publishAll, List.mem_flatMap, Session.mem_uris_iff, mem_publish_iff h]
  constructor
  · rintro ⟨uri, hopen, -, rfl⟩
    exact ⟨uri, hopen, rfl⟩
  · rintro ⟨uri, hopen, rfl⟩
    exact ⟨uri, hopen, hopen, rfl⟩

/-- When what is due for certain URIs is told and nothing else, it is what was told last for each of
them. -/
theorem lastDiagnostics?_eq_due {told : List Notification} {concerned : String → Prop}
    (htold : ∀ n, n ∈ told ↔ ∃ uri, concerned uri ∧ n = server.due uri) {uri : String}
    (h : concerned uri) :
    lastDiagnostics? uri told = some (server.due uri) := by
  refine lastDiagnostics?_eq_some_of_forall ((htold _).2 ⟨uri, h, rfl⟩)
    (isDiagnosticsOf_due.2 rfl) ?_
  intro m hm hdiagnostics
  obtain ⟨other, -, rfl⟩ := (htold m).1 hm
  rw [isDiagnosticsOf_due.1 hdiagnostics]

/-- Nothing is told then about any other URI. -/
theorem lastDiagnostics?_eq_none {told : List Notification} {concerned : String → Prop}
    (htold : ∀ n, n ∈ told ↔ ∃ uri, concerned uri ∧ n = server.due uri) {uri : String}
    (h : ¬ concerned uri) :
    lastDiagnostics? uri told = none := by
  rw [lastDiagnostics?_eq_none_iff]
  intro n hn
  obtain ⟨other, hother, rfl⟩ := (htold n).1 hn
  cases hdiagnostics : (server.due other).isDiagnosticsOf uri with
  | false => rfl
  | true =>
      rw [isDiagnosticsOf_due.1 hdiagnostics] at hother
      exact absurd hother h

end Server

/-! ## What one message does -/

/-- The document that a message closes. -/
def Message.closedUri? : Message → Option String
  | .closed uri => some uri.text
  | _ => none

/-- The URI under which a message may store a document. -/
def Message.storedUri? : Message → Option Uri
  | .opened uri _ | .changed uri _ _ => some uri
  | _ => none

/-- For a URI a reply tells last what is due. Or else it tells nothing about it, and then nothing
new is due, the document was not opened and the message does not close it. -/
def Reply.IsCoherent (reply : Reply) (server : Server) (message : Message) (uri : String) : Prop :=
  lastDiagnostics? uri reply.told = some (reply.server.due uri) ∨
    lastDiagnostics? uri reply.told = none ∧ reply.server.due uri = server.due uri ∧
      (reply.server.documents.isOpen uri = true → server.documents.isOpen uri = true) ∧
      message.closedUri? ≠ some uri

namespace Server

variable {server server' : Server}

/-- A reply that tells what is due for certain URIs and nothing else is coherent when it leaves the
others alone. -/
theorem isCoherent_of_told {reply : Reply} {message : Message} {concerned : String → Prop}
    {uri : String}
    (htold : ∀ n, n ∈ reply.told ↔ ∃ uri, concerned uri ∧ n = reply.server.due uri)
    (hother : ¬ concerned uri → reply.server.due uri = server.due uri ∧
      (reply.server.documents.isOpen uri = true → server.documents.isOpen uri = true) ∧
      message.closedUri? ≠ some uri) :
    reply.IsCoherent server message uri := by
  by_cases huri : concerned uri
  · exact Or.inl (lastDiagnostics?_eq_due htold huri)
  · exact Or.inr ⟨lastDiagnostics?_eq_none htold huri, hother huri⟩

/-- Nothing is told about documents, and neither they nor the registry change. -/
theorem isCoherent_quiet {told : List Notification} {message : Message}
    {answer : Except Refusal Json.Value} (hdocuments : server'.documents = server.documents)
    (hregistry : server'.registry = server.registry)
    (htold : ∀ uri, ∀ n ∈ told, n.isDiagnosticsOf uri = false)
    (hmessage : message.closedUri? = none)
    (uri : String) : Reply.IsCoherent { server := server', answer, told } server message uri := by
  refine Or.inr ⟨lastDiagnostics?_eq_none_iff.2 (htold uri), ?_, ?_, by simp [hmessage]⟩
  · exact due_eq_of_get?_eq (by rw [hdocuments]) hregistry
  · intro hopen
    rwa [hdocuments] at hopen

/-- A document is stored and its diagnostics are told. -/
theorem isCoherent_store {uri : String} {document : TextDocument} {message : Message}
    (hserver : server' = { server with documents := server.documents.openDocument uri document })
    (hsteady : server'.IsSteady) (hmessage : message.closedUri? = none) (other : String) :
    Reply.IsCoherent { server := server', told := server'.publish uri } server message other := by
  have hopen : server'.documents.isOpen uri = true := by
    rw [hserver, Session.isOpen, Session.get?_openDocument_self, Option.isSome_some]
  have htold (n : Notification) :
      n ∈ server'.publish uri ↔ ∃ v, v = uri ∧ n = server'.due v := by
    rw [mem_publish_iff hsteady]
    simp [hopen]
  refine isCoherent_of_told htold ?_
  intro hne
  have hget : server'.documents.get? other = server.documents.get? other := by
    rw [hserver]
    exact Session.get?_openDocument_of_ne hne document
  have hregistry : server'.registry = server.registry := by
    rw [hserver]
    rfl
  refine ⟨due_eq_of_get?_eq hget hregistry, ?_, by simp [hmessage]⟩
  intro hother
  rwa [Session.isOpen, hget] at hother

theorem isCoherent_saved (hsteady : server.IsSteady) (uri : Uri) (other : String) :
    Reply.IsCoherent { server, told := server.saveDocument uri.text } server (.saved uri)
      other := by
  have htold (n : Notification) : n ∈ server.saveDocument uri.text ↔
      ∃ v, (v = uri.text ∧ server.documents.isOpen uri.text = true) ∧ n = server.due v := by
    rw [saveDocument, mem_publish_iff hsteady]
    constructor
    · rintro ⟨hopen, rfl⟩
      exact ⟨uri.text, ⟨rfl, hopen⟩, rfl⟩
    · rintro ⟨v, ⟨rfl, hopen⟩, rfl⟩
      exact ⟨hopen, rfl⟩
  exact isCoherent_of_told htold fun _ => ⟨rfl, id, by simp [Message.closedUri?]⟩

theorem isCoherent_closed (uri : Uri) (other : String) :
    Reply.IsCoherent
      { server := (server.closeDocument uri.text).1, told := (server.closeDocument uri.text).2 }
      server (.closed uri) other := by
  have hclosed : (server.closeDocument uri.text).1.due uri.text =
      .diagnostics uri.text [] none := by
    apply due_of_not_isOpen
    rw [closeDocument, Session.isOpen, Session.get?_close_self, Option.isSome_none]
  have htold (n : Notification) : n ∈ (server.closeDocument uri.text).2 ↔
      ∃ v, v = uri.text ∧ n = (server.closeDocument uri.text).1.due v := by
    constructor
    · intro hn
      obtain rfl : n = .diagnostics uri.text [] none := List.mem_singleton.1 hn
      exact ⟨uri.text, rfl, hclosed.symm⟩
    · rintro ⟨v, rfl, rfl⟩
      rw [hclosed]
      exact List.mem_singleton_self _
  refine isCoherent_of_told htold ?_
  intro hne
  have hget : (server.closeDocument uri.text).1.documents.get? other =
      server.documents.get? other :=
    Session.get?_close_of_ne hne
  refine ⟨due_eq_of_get?_eq hget rfl, ?_, by simpa [Message.closedUri?] using Ne.symm hne⟩
  intro hopen
  rwa [Session.isOpen, hget] at hopen

theorem isCoherent_reloadData {message : Message} {answer : Except Refusal Json.Value}
    (files : Files)
    (hsteady : (server.reloadData files).1.IsSteady) (hmessage : message.closedUri? = none)
    (uri : String) :
    Reply.IsCoherent
      { server := (server.reloadData files).1, answer, told := (server.reloadData files).2 }
      server message uri := by
  have htold (n : Notification) : n ∈ (server.reloadData files).2 ↔
      ∃ v, (server.reloadData files).1.documents.isOpen v = true ∧
        n = (server.reloadData files).1.due v :=
    mem_publishAll_iff hsteady
  refine isCoherent_of_told htold ?_
  intro hnot
  -- The registry is another one, but it does not matter where no document is open.
  have hopen : server.documents.isOpen uri = false := by
    rw [← Bool.not_eq_true]
    exact hnot
  have hopen' : (server.reloadData files).1.documents.isOpen uri = false := hopen
  refine ⟨?_, fun h => absurd h hnot, by simp [hmessage]⟩
  rw [due_of_not_isOpen hopen, due_of_not_isOpen hopen']

/-- A change stores a document as opening it does, or it does nothing. -/
theorem changeDocument_cases (server : Server) (uri : String) (version : Int)
    (texts : List String) :
    (∃ document, server.changeDocument uri version texts = server.openDocument uri document) ∨
      server.changeDocument uri version texts = (server, []) := by
  cases htexts : texts.getLast? with
  | none =>
      right
      simp only [changeDocument, htexts]
  | some text =>
      cases houtdated : server.documents.isOutdated uri version with
      | true =>
          right
          simp only [changeDocument, htexts, Session.change, houtdated, if_true]
      | false =>
          left
          refine ⟨⟨version, text⟩, ?_⟩
          simp only [changeDocument, htexts, Session.change, houtdated, Bool.false_eq_true,
            if_false, openDocument]

theorem isCoherent_changed {files : Files} {uri : Uri} {version : Int} {texts : List String}
    (hsteady : (server.handle files (.changed uri version texts)).server.IsSteady)
    (other : String) :
    (server.handle files (.changed uri version texts)).IsCoherent server
      (.changed uri version texts) other := by
  simp only [handle] at hsteady ⊢
  rcases server.changeDocument_cases uri.text version texts with ⟨document, hchange⟩ | hchange
  · rw [hchange] at hsteady ⊢
    exact isCoherent_store rfl hsteady rfl other
  · rw [hchange]
    exact isCoherent_quiet rfl rfl (by simp) rfl other

/-- A scan leaves the documents and the registry alone and tells nothing about documents. -/
theorem scanTodos_quiet (server : Server) (files : Files) :
    (server.scanTodos files).1.documents = server.documents ∧
      (server.scanTodos files).1.registry = server.registry ∧
      ∀ uri, ∀ n ∈ (server.scanTodos files).2.2, n.isDiagnosticsOf uri = false := by
  unfold scanTodos beginScan
  cases server.config.scanner with
  | error e => simp [Notification.isDiagnosticsOf]
  | ok scanner =>
      dsimp only
      split
      · simp [registry]
      · simp [registry]

theorem isCoherent_execute {files : Files} {name : String} {arguments : List Json.Value}
    (hsteady : (server.handle files (.execute name arguments)).server.IsSteady) (uri : String) :
    (server.handle files (.execute name arguments)).IsCoherent server
      (.execute name arguments) uri := by
  unfold handle at hsteady ⊢
  cases hname : Command.ofName? name arguments with
  | none =>
      simp only [hname]
      exact isCoherent_quiet rfl rfl (by simp) rfl uri
  | some command =>
      simp only [hname] at hsteady ⊢
      cases command with
      | search query =>
          simp only [execute]
          exact isCoherent_quiet rfl rfl (by simp) rfl uri
      | cancelScan =>
          simp only [execute]
          exact isCoherent_quiet rfl rfl (by simp) rfl uri
      | reloadData => exact isCoherent_reloadData files hsteady rfl uri
      | scanTodos =>
          obtain ⟨hdocuments, hregistry, htold⟩ := scanTodos_quiet server files
          exact isCoherent_quiet hdocuments hregistry htold rfl uri

/-- One message keeps an editor up to date. -/
theorem isCoherent_handle {files : Files} {message : Message}
    (hready : ∀ params, message ≠ .setUp params)
    (hsteady : server.IsSteady) (hsteady' : (server.handle files message).server.IsSteady)
    (uri : String) :
    (server.handle files message).IsCoherent server message uri := by
  cases message with
  | setUp params => exact absurd rfl (hready params)
  | ready =>
      have hgreeting : ∀ uri, ∀ n ∈ server.greeting, n.isDiagnosticsOf uri = false := by
        simp [greeting, Notification.isDiagnosticsOf]
      exact isCoherent_quiet rfl rfl hgreeting rfl uri
  | shutdown => exact isCoherent_quiet rfl rfl (by simp) rfl uri
  | exit => exact isCoherent_quiet rfl rfl (by simp) rfl uri
  | opened stored document => exact isCoherent_store rfl hsteady' rfl uri
  | changed stored version texts => exact isCoherent_changed hsteady' uri
  | saved stored => exact isCoherent_saved hsteady stored uri
  | closed stored => exact isCoherent_closed stored uri
  | hover stored position => exact isCoherent_quiet rfl rfl (by simp) rfl uri
  | complete stored position => exact isCoherent_quiet rfl rfl (by simp) rfl uri
  | execute name arguments => exact isCoherent_execute hsteady' uri

theorem documents_execute (server : Server) (files : Files) (command : Command) :
    (server.execute files command).1.documents = server.documents := by
  cases command with
  | search query => rfl
  | scanTodos => exact (scanTodos_quiet server files).1
  | cancelScan => rfl
  | reloadData => rfl

/-- A message stores a document under its URI, closes one, or leaves the documents alone. -/
theorem documents_handle (server : Server) (files : Files) (message : Message) :
    (∃ uri document, message.storedUri? = some uri ∧
      (server.handle files message).server.documents =
        server.documents.openDocument uri.text document) ∨
    (∃ uri, (server.handle files message).server.documents = server.documents.close uri) ∨
    (server.handle files message).server.documents = server.documents := by
  cases message with
  | setUp params => exact Or.inr (Or.inr rfl)
  | ready => exact Or.inr (Or.inr rfl)
  | shutdown => exact Or.inr (Or.inr rfl)
  | exit => exact Or.inr (Or.inr rfl)
  | opened uri document => exact Or.inl ⟨uri, document, rfl, rfl⟩
  | changed uri version texts =>
      rcases server.changeDocument_cases uri.text version texts with ⟨document, hchange⟩ | hchange
      · exact Or.inl ⟨uri, document, rfl, congrArg (·.1.documents) hchange⟩
      · exact Or.inr (Or.inr (congrArg (·.1.documents) hchange))
  | saved uri => exact Or.inr (Or.inr rfl)
  | closed uri => exact Or.inr (Or.inl ⟨uri.text, rfl⟩)
  | hover uri position => exact Or.inr (Or.inr rfl)
  | complete uri position => exact Or.inr (Or.inr rfl)
  | execute name arguments =>
      refine Or.inr (Or.inr ?_)
      simp only [handle]
      cases Command.ofName? name arguments with
      | none => rfl
      | some command => exact documents_execute server files command

/-- Documents stay stored under URIs that are read again as they are written. -/
theorem isSteady_handle {files : Files} {message : Message} (hsteady : server.IsSteady)
    (hstored : ∀ uri, message.storedUri? = some uri → Uri.normalize? uri.text = some uri.text) :
    (server.handle files message).server.IsSteady := by
  intro uri hopen
  rcases documents_handle server files message with
    ⟨stored, document, hmessage, hdocuments⟩ | ⟨closed, hdocuments⟩ | hdocuments
  · by_cases huri : uri = stored.text
    · rw [huri]
      exact hstored stored hmessage
    · rw [hdocuments, Session.isOpen, Session.get?_openDocument_of_ne huri] at hopen
      exact hsteady uri hopen
  · by_cases huri : uri = closed
    · rw [hdocuments, huri, Session.isOpen, Session.get?_close_self] at hopen
      contradiction
    · rw [hdocuments, Session.isOpen, Session.get?_close_of_ne huri] at hopen
      exact hsteady uri hopen
  · rw [hdocuments] at hopen
    exact hsteady uri hopen

/-! ## What a whole run does -/

/-- Handles messages one after another, each with the files as they are then: the server in the end,
and everything that was told. -/
def run (server : Server) : List (Files × Message) → Server × List Notification
  | [] => (server, [])
  | (files, message) :: later =>
      let reply := server.handle files message
      let rest := reply.server.run later
      (rest.1, reply.told ++ rest.2)

/-- An editor that was told certain notifications is up to date: for every open document, and for
every one that was closed and not opened again, what is due was told last. -/
structure Coherent (server : Server) (closed : List String) (told : List Notification) : Prop where
  steady : server.IsSteady
  last : ∀ uri, server.documents.isOpen uri = true ∨ uri ∈ closed →
    lastDiagnostics? uri told = some (server.due uri)

/-- A message keeps an editor up to date. -/
theorem Coherent.handle {closed : List String} {told : List Notification} {files : Files}
    {message : Message}
    (h : server.Coherent closed told) (hready : ∀ params, message ≠ .setUp params)
    (hstored : ∀ uri, message.storedUri? = some uri → Uri.normalize? uri.text = some uri.text) :
    (server.handle files message).server.Coherent (closed ++ message.closedUri?.toList)
      (told ++ (server.handle files message).told) := by
  have hsteady := @isSteady_handle server files message h.steady hstored
  refine ⟨hsteady, ?_⟩
  intro uri huri
  rw [lastDiagnostics?_append]
  rcases isCoherent_handle hready h.steady hsteady uri with hlast | ⟨hnone, hdue, hopen, hclosed⟩
  · rw [hlast, Option.some_or]
  · rw [hnone, Option.none_or, hdue]
    apply h.last
    rcases huri with hnow | hmem
    · exact Or.inl (hopen hnow)
    · rcases List.mem_append.1 hmem with hbefore | hmessage
      · exact Or.inr hbefore
      · exact absurd (Option.mem_toList.1 hmessage) hclosed

/-- Messages one after another keep an editor up to date. -/
theorem Coherent.run {closed : List String} {told : List Notification}
    {steps : List (Files × Message)}
    (h : server.Coherent closed told) (hready : ∀ step ∈ steps, ∀ params, step.2 ≠ .setUp params)
    (hstored : ∀ step ∈ steps, ∀ uri, step.2.storedUri? = some uri →
      Uri.normalize? uri.text = some uri.text) :
    (server.run steps).1.Coherent (closed ++ steps.filterMap (·.2.closedUri?))
      (told ++ (server.run steps).2) := by
  induction steps generalizing server closed told with
  | nil => simpa [Server.run] using h
  | cons step steps ih =>
      obtain ⟨files, message⟩ := step
      have hfirst :=
        @Coherent.handle server closed told files message h (hready _ List.mem_cons_self)
        (hstored _ List.mem_cons_self)
      have hrest := ih hfirst (fun step hstep => hready step (List.mem_cons_of_mem _ hstep))
        (fun step hstep => hstored step (List.mem_cons_of_mem _ hstep))
      have hclosed : closed ++ ((files, message) :: steps).filterMap (·.2.closedUri?) =
          closed ++ message.closedUri?.toList ++ steps.filterMap (·.2.closedUri?) := by
        cases hmessage : message.closedUri? with
        | none => simp [hmessage]
        | some uri => simp [hmessage]
      rw [hclosed, Server.run, ← List.append_assoc]
      exact hrest

/-- Nothing is due before the first document is opened. -/
theorem coherent_setUp (files files' : Files) (config : Config) (root : Path)
    (params : SetupParams) :
    ((Server.start files config root).setUp files' params).Coherent [] [] := by
  have hclosed (uri : String) :
      ((Server.start files config root).setUp files' params).documents.isOpen uri = false := by
    simp [setUp, start, Session.isOpen, Session.get?]
  constructor
  · intro uri hopen
    rw [hclosed uri] at hopen
    contradiction
  · intro uri huri
    rw [hclosed uri] at huri
    simp at huri

/-- What an editor was told last is right behind every message that comes after the server was set
up: for an open document the diagnostics of the stored text against the registry in force and the
stored version, and for a document that was closed and is not open that there are none. -/
theorem lastDiagnostics?_run {steps : List (Files × Message)} (files files' : Files)
    (config : Config)
    (root : Path) (params : SetupParams)
    (hready : ∀ step ∈ steps, ∀ params, step.2 ≠ .setUp params)
    (hstable : ∀ step ∈ steps, ∀ uri, step.2.storedUri? = some uri → Uri.parse uri.text = .ok uri) :
    let run := ((Server.start files config root).setUp files' params).run steps
    (∀ uri document, run.1.documents.get? uri = some document →
      (lastDiagnostics? uri run.2).map Notification.params = some (.object [
        ("uri", .string uri),
        ("diagnostics", .array ((validate document.text run.1.registry).map Diagnostic.toJson)),
        ("version", .ofInt document.version)])) ∧
    ∀ uri, uri ∈ steps.filterMap (·.2.closedUri?) → run.1.documents.get? uri = none →
      (lastDiagnostics? uri run.2).map Notification.params = some (.object [
        ("uri", .string uri),
        ("diagnostics", .array [])]) := by
  intro run
  have hstored : ∀ step ∈ steps, ∀ uri, step.2.storedUri? = some uri →
      Uri.normalize? uri.text = some uri.text := by
    intro step hstep uri huri
    rw [Uri.normalize?, hstable step hstep uri huri]
    rfl
  have hcoherent : run.1.Coherent (steps.filterMap (·.2.closedUri?)) run.2 := by
    simpa using (coherent_setUp files files' config root params).run hready hstored
  constructor
  · intro uri document hdocument
    have hopen : run.1.documents.isOpen uri = true := Session.isOpen_iff.2 ⟨document, hdocument⟩
    rw [hcoherent.last uri (Or.inl hopen), due, hdocument]
    rfl
  · intro uri hclosed hnone
    rw [hcoherent.last uri (Or.inr hclosed), due, hnone]
    rfl

/-- A document is opened, changed under its version and validated against data read anew, and
another one is opened and closed. -/
theorem lastDiagnostics?_run_two :
    let files : Files := ⟨⟨"/"⟩, fun _ => none⟩
    let steps : List (Files × Message) := [
      (files, .opened { scheme := "untitled", path := .rootless "a" } ⟨1, "baseline/gird"⟩),
      (files, .changed { scheme := "untitled", path := .rootless "a" } 1 ["baseline/grid"]),
      (files, .opened { scheme := "untitled", path := .rootless "b" } ⟨1, ""⟩),
      (files, .execute "baseline.reloadData" []),
      (files, .closed { scheme := "untitled", path := .rootless "b" })]
    let run := ((Server.start files {} ⟨"/"⟩).setUp files {}).run steps
    (lastDiagnostics? "untitled:a" run.2).map Notification.params = some (.object [
      ("uri", .string "untitled:a"),
      ("diagnostics", .array ((validate "baseline/grid" run.1.registry).map Diagnostic.toJson)),
      ("version", .ofInt 1)]) ∧
    (lastDiagnostics? "untitled:b" run.2).map Notification.params = some (.object [
      ("uri", .string "untitled:b"),
      ("diagnostics", .array [])]) := by
  intro files steps run
  have hdocument : run.1.documents.get? "untitled:a" = some ⟨1, "baseline/grid"⟩ := by
    decide +kernel +revert
  have hnone : run.1.documents.get? "untitled:b" = none := by
    decide +kernel +revert
  have hready : ∀ step ∈ steps, ∀ params, step.2 ≠ .setUp params := by
    simp [steps]
  have hstable : ∀ step ∈ steps, ∀ uri, step.2.storedUri? = some uri →
      Uri.parse uri.text = .ok uri := by
    intro step hstep uri huri
    simp only [steps, List.mem_cons, List.not_mem_nil, or_false] at hstep
    rcases hstep with rfl | rfl | rfl | rfl | rfl
    · obtain rfl := Option.some.inj huri
      rfl
    · obtain rfl := Option.some.inj huri
      rfl
    · obtain rfl := Option.some.inj huri
      rfl
    · simp [Message.storedUri?] at huri
    · simp [Message.storedUri?] at huri
  have hclosed : "untitled:b" ∈ steps.filterMap (·.2.closedUri?) := List.mem_singleton_self _
  obtain ⟨hlast, hlast'⟩ := lastDiagnostics?_run files files {} ⟨"/"⟩ {} hready hstable
  exact ⟨hlast _ _ hdocument, hlast' _ hclosed hnone⟩

end Server

end FeatureRefs
