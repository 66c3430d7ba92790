import PmiExitModule.Proof.PropertyValues

/-!
# No issuance is lost silently

With a log that takes every event, each notification of an issued certificate ends in one of six
sequences of events. Which one is decided twice: the run of the process says how far the process came,
and `Notify` adds its own event when that was reported as a failure code.
-/

namespace PmiExitModule

open Generic

/-- The events a list of actions wrote, in order: their types and ids. -/
def notices (actions : List Action) : List (EventType × EventId) :=
  (actions.filterMap Action.logged).map fun event => (event.wType, event.dwEventID)

theorem notices_append (first second : List Action) :
    notices (first ++ second) = notices first ++ notices second := by
  simp [notices]

theorem loggedIds_eq (actions : List Action) : loggedIds actions = (notices actions).map Prod.snd := by
  simp [loggedIds, notices]

/-- The actions wrote these events and created this many processes. -/
structure Accounted (actions : List Action) (events : List (EventType × EventId))
    (processes : Nat) : Prop where
  notices : notices actions = events
  processes : processesCreated actions = processes

namespace Accounted

theorem nil : Accounted [] [] 0 := ⟨rfl, rfl⟩

theorem append {first second : List Action} {events events' : List (EventType × EventId)}
    {processes processes' : Nat} (h : Accounted first events processes)
    (h' : Accounted second events' processes') :
    Accounted (first ++ second) (events ++ events') (processes + processes') :=
  ⟨by rw [notices_append, h.notices, h'.notices],
    by rw [processesCreated_append, h.processes, h'.processes]⟩

theorem created (commandLine : LPCWSTR) :
    Accounted [.createProcess commandLine true] [] 1 := ⟨rfl, rfl⟩

theorem reported (wType : EventType) (id : EventId) (strings : List LPCWSTR) :
    Accounted [.reportEvent ⟨wType, GENERAL_CATEGORY, id, strings⟩ true] [(wType, id)] 0 := ⟨rfl, rfl⟩

theorem of_unlogged {actions : List Action}
    (h : ∀ action ∈ actions, action.logged = none ∧ action.isCreation = false) :
    Accounted actions [] 0 := by
  constructor
  · rw [PmiExitModule.notices, List.filterMap_eq_nil_iff.mpr fun action hmem => (h action hmem).1]
    rfl
  · rw [processesCreated, List.countP_eq_zero]
    intro action hmem
    simp [(h action hmem).2]

end Accounted

section Report

variable {source : CEventSource} {wType : EventType} {id : EventId} {args : List CEventArg}
  {o : EventOutcomes} {ending : Ending Fault Unit} {calls : List Action}
  (hmade : Made (source.report wType id args o) ending calls) (hopen : source.hEventLog = true)
  (hwrites : o.reportEvent = .ok ()) (hreadable : ∀ arg ∈ args, arg.Readable)

include hmade hopen hwrites hreadable

theorem accounted_of_made : ending = .returned ()
    ∧ (Accounted calls [(wType, id)] 0 ∨ Accounted calls [] 0) := by
  obtain ⟨files, hrun⟩ := hmade
  rcases source.report_written_or_lost wType id files hopen hwrites hreadable with hreport | ⟨hreport, -⟩
  · obtain ⟨rfl, rfl⟩ := Prod.mk.inj (hrun.symm.trans hreport)
    exact ⟨rfl, Or.inl (.reported wType id _)⟩
  · obtain ⟨rfl, rfl⟩ := Prod.mk.inj (hrun.symm.trans hreport)
    exact ⟨rfl, Or.inr .nil⟩

theorem accounted_of_formats (halloc : o.allocStrings = true) (hformats : ∀ arg ∈ args, arg.Formats o) :
    ending = .returned () ∧ Accounted calls [(wType, id)] 0 := by
  obtain ⟨files, hrun⟩ := hmade
  rcases source.report_written_or_lost wType id files hopen hwrites hreadable with hreport | ⟨-, hlost⟩
  · obtain ⟨rfl, rfl⟩ := Prod.mk.inj (hrun.symm.trans hreport)
    exact ⟨rfl, .reported wType id _⟩
  · exact absurd ⟨halloc, hformats⟩ hlost

end Report

namespace CEventProcessor

/-- The reports of `RunProcess` that no later event of the notification makes up for, and when it comes to
make them. -/
inductive ProcessReports (processor : CEventProcessor) (bufArgs : List LPCWSTR) (o : ProcessOutcomes) :
    EventId → Prop where
  | started {proc : CProcess} (hcreates : Creates processor bufArgs o proc) :
      ProcessReports processor bufArgs o .MSG_PROCESS_START_SUCCEEDED
  | failed {proc : CProcess} {dwExitCode : DWORD} (hcreates : Creates processor bufArgs o proc)
      (hwait : o.waitResult = CProcess.WAIT_OBJECT_0) (hread : o.getExitCodeProcess = .ok dwExitCode)
      (hcode : dwExitCode ≠ 0) : ProcessReports processor bufArgs o .MSG_PROCESS_FAILED
  | succeeded {proc : CProcess} (hcreates : Creates processor bufArgs o proc)
      (hwait : o.waitResult = CProcess.WAIT_OBJECT_0) (hread : o.getExitCodeProcess = .ok 0) :
      ProcessReports processor bufArgs o .MSG_PROCESS_SUCCEEDED

/-- What the events of a notification say about its process, before it is reported as failed. -/
inductive ProcessAccount : HRESULT → DWORD → List Action → Prop where
  | nothing {hr : HRESULT} {calls : List Action} (hfailed : FAILED hr)
      (haccount : Accounted calls [] 0) : ProcessAccount hr 0 calls
  | notStarted {hr : HRESULT} {calls : List Action} (hfailed : FAILED hr)
      (haccount : Accounted calls [(.EVENTLOG_ERROR_TYPE, .MSG_PROCESS_START_FAILED)] 0) :
      ProcessAccount hr 0 calls
  | unwatched {hr : HRESULT} {calls : List Action} (hfailed : FAILED hr)
      (haccount : Accounted calls [(.EVENTLOG_INFORMATION_TYPE, .MSG_PROCESS_START_SUCCEEDED)] 1) :
      ProcessAccount hr 0 calls
  | timedOut {hr : HRESULT} {calls : List Action} (hfailed : FAILED hr)
      (haccount : Accounted calls [(.EVENTLOG_INFORMATION_TYPE, .MSG_PROCESS_START_SUCCEEDED),
        (.EVENTLOG_WARNING_TYPE, .MSG_PROCESS_TIMEDOUT)] 1) :
      ProcessAccount hr 0 calls
  | failed {dwExitCode : DWORD} {calls : List Action} (hcode : dwExitCode ≠ 0)
      (haccount : Accounted calls [(.EVENTLOG_INFORMATION_TYPE, .MSG_PROCESS_START_SUCCEEDED),
        (.EVENTLOG_ERROR_TYPE, .MSG_PROCESS_FAILED)] 1) :
      ProcessAccount S_OK dwExitCode calls
  | succeeded {calls : List Action} (hexits : Exits calls)
      (haccount : Accounted calls [(.EVENTLOG_INFORMATION_TYPE, .MSG_PROCESS_START_SUCCEEDED),
        (.EVENTLOG_INFORMATION_TYPE, .MSG_PROCESS_SUCCEEDED)] 1) :
      ProcessAccount S_OK 0 calls

theorem accounted_wait (dwRes : DWORD) : Accounted [.waitForSingleObject dwRes] [] 0 := ⟨rfl, rfl⟩

theorem accounted_exitCode (dwExitCode : DWORD) : Accounted [.getExitCodeProcess dwExitCode] [] 0 :=
  ⟨rfl, rfl⟩

section ProcessRun

variable {processor : CEventProcessor} {exe : WStr} {args : List WStr} {path : WStr}
  {o : ProcessOutcomes} {events : EventId → EventOutcomes}

theorem reportable_of_create {files : FileSystem} {hr : HRESULT} {proc : CProcess}
    {calls : List Action} (h : CProcess.create {} (.str exe) (args.map .str) o files
      = (.returned (hr, proc), calls)) : proc.getCommandLine.Reportable := by
  obtain ⟨hr', proc', calls', hrun, hreportable⟩ := CProcess.create_of_strings exe args o files
  obtain ⟨hreturned, -⟩ := Prod.mk.inj (h.symm.trans hrun)
  obtain ⟨-, rfl⟩ := Prod.mk.inj (Ending.returned.inj hreturned)
  exact hreportable

variable (hexe : processor.objConfig.getExePath = .str exe)
  (hopen : processor.objEventSource.hEventLog = true)
  (hwrites : ∀ id, (events id).reportEvent = .ok ())
  (hready : ∀ id, ProcessReports processor (args.map .str) o id → (events id).allocStrings = true)

include hexe hopen hwrites hready

theorem accounted_of_reportsStart {proc : CProcess} {ending : Ending Fault Unit}
    {started : List Action} (hcreates : Creates processor (args.map .str) o proc)
    (hstart : ReportsStart processor events proc ending started) :
    ending = .returned () ∧ Accounted (.createProcess proc.getCommandLine true :: started)
      [(.EVENTLOG_INFORMATION_TYPE, .MSG_PROCESS_START_SUCCEEDED)] 1 := by
  obtain ⟨hreturned, haccount⟩ := accounted_of_formats hstart hopen (hwrites _) (by
    obtain ⟨files, hcreate⟩ := hcreates
    rw [hexe] at hcreate
    simp only [List.forall_mem_cons]
    exact ⟨hexe.symm ▸ LPCWSTR.reportable_str exe, reportable_of_create hcreate, trivial, trivial, by simp⟩)
    (hready _ (.started hcreates)) (by simp [CEventArg.Formats])
  exact ⟨hreturned, (Accounted.created proc.getCommandLine).append haccount⟩

theorem ProcessRun.account {ending : Ending Fault (HRESULT × DWORD)} {calls : List Action}
    (h : ProcessRun processor (args.map .str) (.str path) o events ending calls) :
    ∃ hr dwExitCode, ending = .returned (hr, dwExitCode) ∧ ProcessAccount hr dwExitCode calls := by
  cases h with
  | noExePath hnull =>
      rw [hexe] at hnull
      cases hnull
  | createFaulted fault files hnotNull hcreate =>
      obtain ⟨hr, proc, calls, hrun, -⟩ := CProcess.create_of_strings exe args o files
      rw [hexe, hrun] at hcreate
      cases hcreate
  | notStarted hr proc calls ending reported hfailed hcreate hcalls hreport =>
      obtain ⟨files, hcreate⟩ := hcreate
      rw [hexe] at hcreate hreport
      have hattempt : Accounted calls [] 0 := by
        rcases hcalls with rfl | rfl
        · exact .nil
        · exact ⟨rfl, rfl⟩
      obtain ⟨rfl, haccount | haccount⟩ := accounted_of_made hreport hopen (hwrites _) (by
        simp only [List.forall_mem_cons]
        exact ⟨LPCWSTR.reportable_str exe, reportable_of_create hcreate, trivial, trivial, by simp⟩)
      · exact ⟨hr, 0, rfl, .notStarted hfailed (hattempt.append haccount)⟩
      · exact ⟨hr, 0, rfl, .nothing hfailed (hattempt.append haccount)⟩
  | startUnreported proc fault started hcreates hstart =>
      cases (accounted_of_reportsStart hexe hopen hwrites hready hcreates hstart).1
  | waitFailed proc started hcreates hstart hwait =>
      obtain ⟨-, hstarted⟩ := accounted_of_reportsStart hexe hopen hwrites hready hcreates hstart
      exact ⟨_, 0, rfl, .unwatched ((CProcess.failed_waitHResult_iff _ _).mpr hwait)
        (hstarted.append (accounted_wait _))⟩
  | timedOut proc started ending reported hcreates hstart hwait hreport =>
      obtain ⟨-, hstarted⟩ := accounted_of_reportsStart hexe hopen hwrites hready hcreates hstart
      have hwaited := hstarted.append (accounted_wait o.waitResult)
      obtain ⟨rfl, haccount | haccount⟩ := accounted_of_made hreport hopen (hwrites _) (by
        simp only [List.forall_mem_cons]
        exact ⟨trivial, trivial, trivial, LPCWSTR.reportable_str path, by simp⟩)
      · exact ⟨_, 0, rfl, .timedOut (by decide) (hstarted.append ((accounted_wait _).append haccount))⟩
      · exact ⟨_, 0, rfl, .unwatched (by decide) (hstarted.append ((accounted_wait _).append haccount))⟩
  | exitCodeUnread proc started e hcreates hstart =>
      obtain ⟨-, hstarted⟩ := accounted_of_reportsStart hexe hopen hwrites hready hcreates hstart
      exact ⟨_, 0, rfl, .unwatched e.failed (hstarted.append (accounted_wait _))⟩
  | exited proc started dwExitCode ending reported hcreates hstart hread hreport =>
      obtain ⟨-, hstarted⟩ := accounted_of_reportsStart hexe hopen hwrites hready hcreates hstart
      rcases hreport.cases with ⟨hcode, hmade⟩ | ⟨rfl, hmade⟩
      · obtain ⟨rfl, haccount⟩ := accounted_of_formats hmade hopen (hwrites _) (by
          simp only [List.forall_mem_cons]
          exact ⟨trivial, trivial, trivial, LPCWSTR.reportable_str path, by simp⟩)
          (hready _ (.failed hcreates hread.1 hread.2 hcode)) (by simp [CEventArg.Formats])
        exact ⟨S_OK, dwExitCode, rfl, .failed hcode (hstarted.append
          ((accounted_wait _).append ((accounted_exitCode _).append haccount)))⟩
      · obtain ⟨rfl, haccount⟩ := accounted_of_formats hmade hopen (hwrites _) (by
          simp only [List.forall_mem_cons]
          exact ⟨trivial, trivial, trivial, by simp⟩)
          (hready _ (.succeeded hcreates hread.1 hread.2)) (by simp [CEventArg.Formats])
        exact ⟨S_OK, 0, rfl, .succeeded ⟨by simp, by simp⟩ (hstarted.append
          ((accounted_wait _).append ((accounted_exitCode _).append haccount)))⟩

end ProcessRun

theorem ProcessAccount.surround {hr : HRESULT} {dwExitCode : DWORD} {calls : List Action}
    (h : ProcessAccount hr dwExitCode calls) {before after : List Action}
    (hbefore : Accounted before [] 0) (hafter : Accounted after [] 0) :
    ProcessAccount hr dwExitCode (before ++ (calls ++ after)) := by
  have hsurround : ∀ {events processes}, Accounted calls events processes →
      Accounted (before ++ (calls ++ after)) events processes := by
    intro events processes haccount
    have hwhole := hbefore.append (haccount.append hafter)
    rwa [List.nil_append, List.append_nil, Nat.zero_add, Nat.add_zero] at hwhole
  cases h with
  | nothing hfailed haccount => exact .nothing hfailed (hsurround haccount)
  | notStarted hfailed haccount => exact .notStarted hfailed (hsurround haccount)
  | unwatched hfailed haccount => exact .unwatched hfailed (hsurround haccount)
  | timedOut hfailed haccount => exact .timedOut hfailed (hsurround haccount)
  | failed hcode haccount => exact .failed hcode (hsurround haccount)
  | succeeded hexits haccount =>
      exact .succeeded (hexits.mono fun _ hmem =>
        List.mem_append_right _ (List.mem_append_left _ hmem)) (hsurround haccount)

section NotifyRun

variable {processor : CEventProcessor} {ski serial : WStr} {static : List WStr}
  {bufRawCert : List BYTE} {o : ProcessorOutcomes} {files : FileSystem}

theorem Opened.accounted {path : WStr} {handle : HANDLE} {writes : List Action}
    (hopened : Opened o files path handle writes) :
    Accounted (openingActions path handle writes) [] 0 := by
  apply Accounted.of_unlogged
  intro action hmem
  rcases hopened.cases hmem with rfl | rfl | ⟨piece, rfl⟩ <;> exact ⟨rfl, rfl⟩

/-- Every run of the event processor on strings returns, and its events say what became of it. -/
theorem NotifyRun.account {ending : Ending Fault HRESULT} {actions : List Action}
    (h : NotifyRun processor (.str ski) (.str serial) bufRawCert o files ending actions)
    (hargs : processor.objConfig.getArguments = .ok (static.map .str))
    (hopen : processor.objEventSource.hEventLog = true)
    (hwrites : ∀ id, (o.events id).reportEvent = .ok ())
    (hruns : ∀ path bufArgs, RunsOn processor (.str ski) (.str serial) bufRawCert o files path bufArgs →
      (∃ exe, processor.objConfig.getExePath = .str exe)
        ∧ ∀ id, ProcessReports processor bufArgs o.process id → (o.events id).allocStrings = true)
    (hwritesEnd : Named o files → ¬ Refused o → WritesEnd o.writeFile bufRawCert.length) :
    ∃ hr dwExitCode, ending = .returned hr ∧ ProcessAccount hr dwExitCode actions := by
  have hprocess : ∀ {path bufArgs ending calls},
      RunsOn processor (.str ski) (.str serial) bufRawCert o files path bufArgs →
      ProcessRun processor bufArgs (.str path) o.process o.events ending calls →
      ∃ hr dwExitCode, ending = .returned (hr, dwExitCode) ∧ ProcessAccount hr dwExitCode calls := by
    intro path bufArgs ending calls hlaunch hrun
    obtain ⟨⟨exe, hexe⟩, hready⟩ := hruns path bufArgs hlaunch
    obtain rfl := hlaunch.launchesWith.eq_map_str hargs
    exact hrun.account hexe hopen hwrites hready
  have hclose : ∀ handle, Accounted [.closeHandle handle] [] 0 := fun _ => ⟨rfl, rfl⟩
  have hdelete : ∀ path, Accounted [.deleteFile path o.deleteFile] [] 0 := by
    intro path
    cases o.deleteFile <;> exact ⟨rfl, rfl⟩
  cases h with
  | noTempFile hr hfailed => exact ⟨hr, 0, rfl, .nothing hfailed .nil⟩
  | notOpened path hr hnamed hfailed => exact ⟨hr, 0, rfl, .nothing hfailed ⟨rfl, rfl⟩⟩
  | writing path handle writes objTempFile filesOpen hopened hfile hloop =>
      obtain ⟨hnoError, hsum⟩ :=
        (writeLoop_running_iff hfile filesOpen o.writeFile).mp (congrArg Prod.fst hloop)
      rw [Nat.zero_add] at hsum
      rcases hwritesEnd ⟨hopened.allocated, path, hopened.named⟩ hopened.taken with ⟨e, herror⟩ | hreached
      · exact absurd herror (hnoError e)
      · exact absurd hreached (Nat.not_le.mpr hsum)
  | notLaunched path handle writes hr hopened hfailed =>
      exact ⟨hr, 0, rfl, .nothing hfailed
        (hopened.accounted.append ((hclose handle).append (hdelete path)))⟩
  | launchFaulted path handle writes fault hopened hfault =>
      exact absurd hfault (not_launchFaulted hargs)
  | preserved path handle writes bufArgs ending calls hopened hlaunch hrun hkeep =>
      obtain ⟨hr, dwExitCode, rfl, haccount⟩ := hprocess hlaunch hrun
      have hwhole := haccount.surround (hopened.accounted.append (hclose handle)) .nil
      rw [List.append_nil, List.append_assoc] at hwhole
      exact ⟨hr, dwExitCode, rfl, hwhole⟩
  | deleted path handle writes bufArgs hr calls hopened hlaunch hrun hok =>
      obtain ⟨hr', dwExitCode, heq, haccount⟩ := hprocess hlaunch hrun
      obtain ⟨rfl, rfl⟩ := Prod.mk.inj (Ending.returned.inj heq)
      have hwhole := haccount.surround (hopened.accounted.append (hclose handle)) (hdelete path)
      rw [List.append_assoc, ← List.append_assoc [_] calls, ← List.append_assoc] at hwhole
      exact ⟨hr, 0, rfl, hwhole⟩

end NotifyRun

end CEventProcessor

/-! ### Notifications -/

open PropertyName CCertServerExit

/-- What is assumed of the calls behind a notification: writing an event succeeds, and a string property
the CA answers is a string. -/
structure NotifyCall.Assumed (call : NotifyCall) : Prop where
  events : ∀ id, (call.outcomes.processor.events id).reportEvent = .ok ()
  strings : ∀ name ∈ [wszPROPCERTIFICATESUBJECTKEYIDENTIFIER, wszPROPCERTIFICATESERIALNUMBER],
    ¬ FAILED (call.outcomes.server.property name .PropTypeString).getCertificateProperty →
    (stringVariant call.outcomes.server name).vt = VT_BSTR
      ∧ (stringVariant call.outcomes.server name).bstrVal ≠ .null

theorem NotifyCall.Assumed.safeValues {call : NotifyCall} (h : call.Assumed)
    (objServer : CCertServerExit) : CPMICertExit.SafeValues objServer call.outcomes := by
  have hanswered : ∀ name ∈ [wszPROPCERTIFICATESUBJECTKEYIDENTIFIER, wszPROPCERTIFICATESERIALNUMBER],
      objServer.Answers call.outcomes.server name .PropTypeString →
      (stringVariant call.outcomes.server name).vt = VT_BSTR
        ∧ (stringVariant call.outcomes.server name).bstrVal ≠ .null := by
    intro name hmem hanswers
    exact h.strings name hmem hanswers.2.2
  have hnotWild : ∀ name ∈ [wszPROPCERTIFICATESUBJECTKEYIDENTIFIER, wszPROPCERTIFICATESERIALNUMBER],
      objServer.Answers call.outcomes.server name .PropTypeString →
      (stringVariant call.outcomes.server name).bstrVal ≠ .wild := by
    intro name hmem hanswers
    exact (stringVariant call.outcomes.server name).wellTyped (hanswered name hmem hanswers).1
  refine ⟨hnotWild _ (by simp), fun _ => hnotWild _ (by simp), ?_⟩
  intro hski hserial _ _
  rw [List.forall_mem_cons, List.forall_mem_singleton]
  exact ⟨hanswered _ (by simp) hski.1, hanswered _ (by simp) hserial.1⟩

namespace CPMICertExit

section Regular

open CEventProcessor

variable (exit : CPMICertExit) (call : NotifyCall) (files : FileSystem)

/-- The notification gets to the event processor, with this certificate. -/
def Reaches (cert : IssuedCertificate) : Prop :=
  call.exitEvent = EXITEVENT_CERTISSUED
    ∧ ¬ FAILED (CCertServerExit.init call.context call.outcomes.server).1
    ∧ exit.readIssuedCertificate (CCertServerExit.init call.context call.outcomes.server).2
        call.outcomes = .ok (.ok cert)

/-- The notification gets to `RunProcess`. -/
def ReachesProcess (cert : IssuedCertificate) (path : WStr) (bufArgs : List LPCWSTR) : Prop :=
  exit.Reaches call cert ∧ RunsOn cert.objEventProcessor cert.pwszSubjectKeyIdentifier
    cert.pwszSerialNumber cert.bufRawCert call.outcomes.processor files path bufArgs

/-- What a notification of an issued certificate relies on beyond that, where it gets to: there is memory
for each report whose loss no other event makes up for, and for the report of a failure also a message
text; the path of the EXE is terminated within its buffer; and the calls of `WriteFile` come to an end. -/
structure Regular : Prop where
  failure : call.exitEvent = EXITEVENT_CERTISSUED →
    ∀ hr, (exit.dispatch call.exitEvent call.context call.outcomes files).1 = .returned hr → FAILED hr →
    (call.outcomes.processor.events .MSG_NOTIFY_FAILED).TellsError
  process : ∀ cert path bufArgs, exit.ReachesProcess call files cert path bufArgs →
    ∀ id, ProcessReports cert.objEventProcessor bufArgs call.outcomes.processor.process id →
    (call.outcomes.processor.events id).allocStrings = true
  exePath : ∀ cert path bufArgs, exit.ReachesProcess call files cert path bufArgs →
    ∀ value garbage, call.outcomes.registry.queryExePath = .ok value →
    call.outcomes.registry.allocExePath = some garbage →
    NUL ∈ CEventProcessorConfig.exePathBuffer value garbage
  writes : ∀ cert, exit.Reaches call cert → Named call.outcomes.processor files →
    ¬ Refused call.outcomes.processor →
    WritesEnd call.outcomes.processor.writeFile cert.bufRawCert.length

end Regular

def issuedSequences : List (List EventId) :=
  [[.MSG_NOTIFY_FAILED],
    [.MSG_PROCESS_START_FAILED, .MSG_NOTIFY_FAILED],
    [.MSG_PROCESS_START_SUCCEEDED, .MSG_PROCESS_TIMEDOUT, .MSG_NOTIFY_FAILED],
    [.MSG_PROCESS_START_SUCCEEDED, .MSG_NOTIFY_FAILED],
    [.MSG_PROCESS_START_SUCCEEDED, .MSG_PROCESS_FAILED],
    [.MSG_PROCESS_START_SUCCEEDED, .MSG_PROCESS_SUCCEEDED]]

def Informational (actions : List Action) : Prop :=
  ∀ event ∈ actions.filterMap Action.logged, event.wType = .EVENTLOG_INFORMATION_TYPE

/-- What is known of one call of `Notify`: it answered `S_OK`, it reported the start of each process it
created, and when a certificate was issued its events are one of the sequences; none of them is a warning
or an error only when it has created one process and has seen it exit with 0. -/
structure Accounts (call : NotifyCall) (run : Ending Fault HRESULT × List Action) : Prop where
  returned : run.1 = .returned S_OK
  started : (loggedIds run.2).count .MSG_PROCESS_START_SUCCEEDED = processesCreated run.2
  issued : call.exitEvent = EXITEVENT_CERTISSUED → loggedIds run.2 ∈ issuedSequences
  silent : call.exitEvent = EXITEVENT_CERTISSUED → Informational run.2 →
    processesCreated run.2 = 1 ∧ Exits run.2

theorem not_informational {actions : List Action} {events : List (EventType × EventId)}
    {processes : Nat} (h : Accounted actions events processes)
    (hevent : ∃ event ∈ events, event.1 ≠ .EVENTLOG_INFORMATION_TYPE) : ¬ Informational actions := by
  intro hinformational
  obtain ⟨event, hmem, hne⟩ := hevent
  rw [← h.notices, notices, List.mem_map] at hmem
  obtain ⟨logged, hlogged, rfl⟩ := hmem
  exact hne (hinformational logged hlogged)

theorem accounts_of_events {call : NotifyCall} {actions : List Action}
    {events : List (EventType × EventId)} {processes : Nat} (h : Accounted actions events processes)
    (hstarted : (events.map Prod.snd).count .MSG_PROCESS_START_SUCCEEDED = processes)
    (hissued : call.exitEvent = EXITEVENT_CERTISSUED → events.map Prod.snd ∈ issuedSequences)
    (hevent : call.exitEvent = EXITEVENT_CERTISSUED →
      ∃ event ∈ events, event.1 ≠ .EVENTLOG_INFORMATION_TYPE) :
    Accounts call (.returned S_OK, actions) := by
  have hids : loggedIds actions = events.map Prod.snd := by rw [loggedIds_eq, h.notices]
  constructor
  · rfl
  · rw [hids, h.processes, hstarted]
  · intro hexit
    rw [hids]
    exact hissued hexit
  · intro hexit hquiet
    exact absurd hquiet (not_informational h (hevent hexit))

section Step

open CEventProcessor

variable {exit : CPMICertExit} {call : NotifyCall} {files : FileSystem} {hr : HRESULT}
  {actions : List Action} {events : List (EventType × EventId)} {processes : Nat}

/-- A failure code adds the event of the failed notification, and that one tells of the failure. -/
theorem accounts_of_failed (hopen : exit.objEventSource.hEventLog = true)
    (hassumed : call.Assumed) (hregular : exit.Regular call files)
    (hrun : exit.dispatch call.exitEvent call.context call.outcomes files = (.returned hr, actions))
    (hfailed : FAILED hr) (haccount : Accounted actions events processes)
    (hstarted : (events.map Prod.snd).count .MSG_PROCESS_START_SUCCEEDED = processes)
    (hissued : events.map Prod.snd ++ [.MSG_NOTIFY_FAILED] ∈ issuedSequences) :
    Accounts call (exit.notifyCall call files) := by
  rcases exit.notify_cases hrun with ⟨hr', reportEnding, reported, heq, -, hmade, hnotify⟩ | ⟨hok, -⟩
  swap
  · exact absurd hfailed (hok hr rfl)
  obtain rfl := Ending.returned.inj heq
  have hreadable : ∀ arg ∈ [CEventArg.hresult call.exitEvent, .hresult call.context, .hresult hr,
      .errorMessage hr], arg.Readable := by
    simp [CEventArg.Readable]
  have hevents : (events ++ [(EventType.EVENTLOG_ERROR_TYPE, EventId.MSG_NOTIFY_FAILED)]).map Prod.snd
      = events.map Prod.snd ++ [.MSG_NOTIFY_FAILED] := by
    rw [List.map_append]
    rfl
  rw [notifyCall, hnotify]
  by_cases hexit : call.exitEvent = EXITEVENT_CERTISSUED
  · obtain ⟨halloc, hallocMessage, hmessage⟩ :=
      hregular.failure hexit hr (congrArg Prod.fst hrun) hfailed
    obtain ⟨rfl, hreported⟩ := accounted_of_formats hmade hopen (hassumed.events _) hreadable halloc
      (by simp [CEventArg.Formats, hallocMessage, hmessage])
    apply accounts_of_events (haccount.append hreported)
    · rw [hevents, List.count_append, hstarted]
      rfl
    · intro _
      rw [hevents]
      exact hissued
    · intro _
      refine ⟨_, List.mem_append_right _ List.mem_cons_self, ?_⟩
      decide
  · obtain ⟨rfl, hreported | hlost⟩ := accounted_of_made hmade hopen (hassumed.events _) hreadable
    · apply accounts_of_events (haccount.append hreported)
      · rw [hevents, List.count_append, hstarted]
        rfl
      · exact fun h => absurd h hexit
      · exact fun h => absurd h hexit
    · apply accounts_of_events (haccount.append hlost)
      · rw [List.append_nil, hstarted]
        rfl
      · exact fun h => absurd h hexit
      · exact fun h => absurd h hexit

theorem notifyCall_of_succeeded
    (hrun : exit.dispatch call.exitEvent call.context call.outcomes files
      = (.returned S_OK, actions)) : exit.notifyCall call files = (.returned S_OK, actions) := by
  rcases exit.notify_cases hrun with ⟨hr, reportEnding, reported, hreturned, hfailed, -⟩ | ⟨-, hnotify⟩
  · obtain rfl := Ending.returned.inj hreturned
    exact absurd hfailed not_failed_S_OK
  · exact hnotify

theorem accounts_of_processAccount (hopen : exit.objEventSource.hEventLog = true)
    (hassumed : call.Assumed) (hregular : exit.Regular call files)
    (hrun : exit.dispatch call.exitEvent call.context call.outcomes files = (.returned hr, actions))
    {dwExitCode : DWORD} (haccount : CEventProcessor.ProcessAccount hr dwExitCode actions) :
    Accounts call (exit.notifyCall call files) := by
  cases haccount with
  | nothing hfailed haccount =>
      exact accounts_of_failed hopen hassumed hregular hrun hfailed haccount rfl (by decide)
  | notStarted hfailed haccount =>
      exact accounts_of_failed hopen hassumed hregular hrun hfailed haccount (by decide) (by decide)
  | unwatched hfailed haccount =>
      exact accounts_of_failed hopen hassumed hregular hrun hfailed haccount (by decide) (by decide)
  | timedOut hfailed haccount =>
      exact accounts_of_failed hopen hassumed hregular hrun hfailed haccount (by decide) (by decide)
  | failed hcode haccount =>
      rw [notifyCall_of_succeeded hrun]
      exact accounts_of_events haccount (by decide) (fun _ => by decide) (fun _ => by decide)
  | succeeded hexits haccount =>
      rw [notifyCall_of_succeeded hrun]
      have hids : loggedIds actions = [.MSG_PROCESS_START_SUCCEEDED, .MSG_PROCESS_SUCCEEDED] := by
        rw [loggedIds_eq, haccount.notices]
        rfl
      constructor
      · rfl
      · rw [hids, haccount.processes]
        rfl
      · intro _
        rw [hids]
        decide
      · intro _ _
        exact ⟨haccount.processes, hexits⟩

/-- Under the assumptions and the condition, the handling of a notification ends before anything was done,
or is a run of the event processor on strings. -/
theorem dispatch_on_strings (exit : CPMICertExit) (call : NotifyCall) (files : FileSystem)
    (hassumed : call.Assumed) (hregular : exit.Regular call files) :
    (∃ hr, (call.exitEvent = EXITEVENT_CERTISSUED → FAILED hr) ∧ (FAILED hr ∨ hr = S_OK)
      ∧ exit.dispatch call.exitEvent call.context call.outcomes files = (.returned hr, []))
    ∨ ∃ (cert : IssuedCertificate) (ski serial : WStr) (static : List WStr) (ending : Ending Fault HRESULT)
        (actions : List Action),
      call.exitEvent = EXITEVENT_CERTISSUED
      ∧ exit.dispatch call.exitEvent call.context call.outcomes files = (ending, actions)
      ∧ NotifyRun cert.objEventProcessor (.str ski) (.str serial) cert.bufRawCert call.outcomes.processor
        files ending actions
      ∧ cert.objEventProcessor.objEventSource = exit.objEventSource
      ∧ cert.objEventProcessor.objConfig.getArguments = .ok (static.map .str)
      ∧ (∀ path bufArgs, RunsOn cert.objEventProcessor (.str ski) (.str serial) cert.bufRawCert
          call.outcomes.processor files path bufArgs →
        (∃ exe, cert.objEventProcessor.objConfig.getExePath = .str exe)
          ∧ ∀ id, ProcessReports cert.objEventProcessor bufArgs call.outcomes.processor.process id →
            (call.outcomes.processor.events id).allocStrings = true)
      ∧ (Named call.outcomes.processor files → ¬ Refused call.outcomes.processor →
        WritesEnd call.outcomes.processor.writeFile cert.bufRawCert.length) := by
  have hhands : exit.HandsStrings (CCertServerExit.init call.context call.outcomes.server).2
      call.outcomes := (handsStrings_iff _ _).mpr (hassumed.safeValues _)
  rcases exit.dispatch_cases call.exitEvent call.context call.outcomes files with
    ⟨fault, -, hread, -⟩ | hnothing | ⟨cert, hissued, hinit, hread, hrun⟩
  · exact absurd hhands (not_handsStrings_of_faulted hread)
  · exact Or.inl hnothing
  rcases hhands with ⟨hr, -, hread'⟩ | ⟨cert', hread', ⟨-, ski, -, hski⟩, -, serial, -, hserial⟩
  · rw [hread] at hread'
    cases hread'
  obtain rfl := Except.ok.inj (Except.ok.inj (hread.symm.trans hread'))
  have hreaches : exit.Reaches call cert := ⟨hissued, hinit, hread⟩
  obtain ⟨hsource, -, value, garbage, static, hquery, halloc, hexe, hargs⟩ :=
    exit.processor_of_readIssuedCertificate hread
  have hprocessor := CEventProcessor.notifyCertIssued_run cert.objEventProcessor
    cert.pwszSubjectKeyIdentifier cert.pwszSerialNumber cert.bufRawCert call.outcomes.processor files
  have hruns : ∀ path bufArgs, RunsOn cert.objEventProcessor cert.pwszSubjectKeyIdentifier
        cert.pwszSerialNumber cert.bufRawCert call.outcomes.processor files path bufArgs →
      (∃ exe, cert.objEventProcessor.objConfig.getExePath = .str exe)
        ∧ ∀ id, ProcessReports cert.objEventProcessor bufArgs call.outcomes.processor.process id →
          (call.outcomes.processor.events id).allocStrings = true := by
    intro path bufArgs hlaunch
    refine ⟨⟨untilNul (CEventProcessorConfig.exePathBuffer value garbage), ?_⟩, ?_⟩
    · rw [CEventProcessorConfig.getExePath, hexe]
      exact if_pos (hregular.exePath cert path bufArgs ⟨hreaches, hlaunch⟩ value garbage hquery halloc)
    · exact hregular.process cert path bufArgs ⟨hreaches, hlaunch⟩
  rw [hski, hserial] at hprocessor hruns
  rw [hski, hserial] at hrun
  exact Or.inr ⟨cert, _, _, static, _, _, hissued, hrun, hprocessor, hsource, hargs, hruns,
    hregular.writes cert hreaches⟩

/-- **The step lemma.** -/
theorem notifyCall_accounts (exit : CPMICertExit) (call : NotifyCall) (files : FileSystem)
    (hopen : exit.objEventSource.hEventLog = true) (hassumed : call.Assumed)
    (hregular : exit.Regular call files) : Accounts call (exit.notifyCall call files) := by
  rcases exit.dispatch_on_strings call files hassumed hregular with ⟨hr, hissued, hok, hrun⟩
    | ⟨cert, ski, serial, static, ending, actions, -, hrun, hprocessor, hsource, hargs, hruns, hwritesEnd⟩
  · by_cases hfailed : FAILED hr
    · exact accounts_of_failed hopen hassumed hregular hrun hfailed .nil rfl (by decide)
    · obtain rfl := hok.resolve_left hfailed
      rw [notifyCall_of_succeeded hrun]
      apply accounts_of_events .nil rfl
      · intro hexit
        exact absurd (hissued hexit) hfailed
      · intro hexit
        exact absurd (hissued hexit) hfailed
  · obtain ⟨hr, dwExitCode, rfl, haccount⟩ :=
      hprocessor.account hargs (hsource ▸ hopen) hassumed.events hruns hwritesEnd
    exact accounts_of_processAccount hopen hassumed hregular hrun haccount

end Step

theorem started_of_accounts {calls : List NotifyCall} {runs : List (Ending Fault HRESULT × List Action)}
    (h : List.Forall₂ Accounts calls runs) :
    (loggedIds (runs.flatMap Prod.snd)).count .MSG_PROCESS_START_SUCCEEDED
      = processesCreated (runs.flatMap Prod.snd) := by
  induction h with
  | nil => rfl
  | cons haccounts _ ih =>
      rw [List.flatMap_cons, loggedIds_append, List.count_append, processesCreated_append,
        haccounts.started, ih]

/-- **No issuance is lost silently, and when.** In every history of notifications whose calls meet the
assumptions and the condition, each `Notify` answers `S_OK`, each notification of an issued certificate
writes one of the six sequences of events, and is silent about failures only when it created one process
and saw it exit with 0; and over the whole history as many starts were reported as processes created. -/
theorem notify_accounts_for_issuances (exit : CPMICertExit) (files : FileSystem)
    (calls : List NotifyCall) (hopen : exit.objEventSource.hEventLog = true)
    (hassumed : ∀ call ∈ calls, call.Assumed)
    (hregular : ∀ before call after, calls = before ++ call :: after →
      exit.Regular call (stateAfter exit.notifyCall files before)) :
    List.Forall₂ Accounts calls (history exit.notifyCall files calls)
      ∧ (loggedIds ((history exit.notifyCall files calls).flatMap Prod.snd)).count
          .MSG_PROCESS_START_SUCCEEDED
        = processesCreated ((history exit.notifyCall files calls).flatMap Prod.snd) := by
  have haccounts : List.Forall₂ Accounts calls (history exit.notifyCall files calls) := by
    apply history_forall₂
    intro before call after heq
    exact exit.notifyCall_accounts call _ hopen (hassumed call (by rw [heq]; simp))
      (hregular before call after heq)
  exact ⟨haccounts, started_of_accounts haccounts⟩

/-- A certificate was issued, and every call but those that are given succeeds. -/
def issuedCall (server : ServerOutcomes) (registry : RegistryOutcomes)
    (events : EventOutcomes) : NotifyCall where
  exitEvent := EXITEVENT_CERTISSUED
  context := 7
  outcomes := {
    server := server
    registry := registry
    processor := { CEventProcessor.succeedingProcessor [1, 2] with events := fun _ => events } }

def ordinaryCA : ServerOutcomes := answeringCA (.bytes [0x30, 0, 0x61, 0]) (by decide)

theorem assumed_issuedCall {server : ServerOutcomes} {registry : RegistryOutcomes}
    {events : EventOutcomes} (hwrites : events.reportEvent = .ok ())
    (hstrings : ∀ name ∈ [wszPROPCERTIFICATESUBJECTKEYIDENTIFIER, wszPROPCERTIFICATESERIALNUMBER],
      (stringVariant server name).vt = VT_BSTR ∧ (stringVariant server name).bstrVal ≠ .null) :
    (issuedCall server registry events).Assumed :=
  ⟨fun _ => hwrites, fun name hmem _ => hstrings name hmem⟩

theorem regular_issuedCall (exit : CPMICertExit) (files : FileSystem) :
    exit.Regular (issuedCall ordinaryCA (smallRegistry 1) CEventProcessor.acceptingEvents) files where
  failure _ _ _ _ := ⟨rfl, rfl, trivial⟩
  process _ _ _ _ _ _ := rfl
  exePath := by
    rintro cert path bufArgs - value garbage ⟨⟩ ⟨⟩
    decide +kernel
  writes cert hreaches _ _ := by
    have hcert : [1, 2] = cert.bufRawCert :=
      Except.ok.inj (bufRawCert_of_readIssuedCertificate hreaches.2.2)
    rw [← hcert]
    exact Or.inr (by decide)

theorem notify_accounts_for_issuances_example :
    List.Forall₂ Accounts [issuedCall ordinaryCA (smallRegistry 1) CEventProcessor.acceptingEvents]
        (history (⟨⟨true⟩⟩ : CPMICertExit).notifyCall (fun _ => none)
          [issuedCall ordinaryCA (smallRegistry 1) CEventProcessor.acceptingEvents])
      ∧ (loggedIds ((history (⟨⟨true⟩⟩ : CPMICertExit).notifyCall (fun _ => none)
          [issuedCall ordinaryCA (smallRegistry 1) CEventProcessor.acceptingEvents]).flatMap
            Prod.snd)).count .MSG_PROCESS_START_SUCCEEDED
        = processesCreated ((history (⟨⟨true⟩⟩ : CPMICertExit).notifyCall (fun _ => none)
          [issuedCall ordinaryCA (smallRegistry 1) CEventProcessor.acceptingEvents]).flatMap
            Prod.snd) := by
  refine notify_accounts_for_issuances ⟨⟨true⟩⟩ (fun _ => none) _ rfl ?_ ?_
  · exact List.forall_mem_singleton.mpr (assumed_issuedCall rfl (by decide))
  · intro before call after heq
    obtain rfl : call = issuedCall ordinaryCA (smallRegistry 1) CEventProcessor.acceptingEvents :=
      (List.mem_singleton.mp (heq ▸ by simp))
    exact regular_issuedCall _ _

def untoldFailure : NotifyCall :=
  issuedCall { ordinaryCA with coCreateInstance := 0xC8000713 } (smallRegistry 1)
    CEventSource.missingMessage

/-- There is no memory for the insertion strings of the report. -/
def unrememberedFailure : NotifyCall :=
  issuedCall { ordinaryCA with coCreateInstance := 0xC8000713 } (smallRegistry 1)
    { CEventProcessor.acceptingEvents with allocStrings := false }

/-- The path of the EXE is stored without a terminator, and the heap block held no zeros before. -/
def unterminatedPath : NotifyCall :=
  issuedCall ordinaryCA { smallRegistry 1 with
    allocExePath := some fun _ => 0x62
    queryExePath := .ok ⟨REG_SZ, [0x61, 0], by decide⟩ } CEventProcessor.acceptingEvents

/-- The first two of these failures are swallowed without an event; the third ends the notification in a
read behind the buffer. -/
theorem notify_loses_issuances :
    (untoldFailure.Assumed ∧ untoldFailure.exitEvent = EXITEVENT_CERTISSUED
      ∧ (⟨⟨true⟩⟩ : CPMICertExit).notifyCall untoldFailure (fun _ => none) = (.returned S_OK, [])
      ∧ loggedIds [] ∉ issuedSequences)
    ∧ (unrememberedFailure.Assumed ∧ unrememberedFailure.exitEvent = EXITEVENT_CERTISSUED
      ∧ (⟨⟨true⟩⟩ : CPMICertExit).notifyCall unrememberedFailure (fun _ => none) = (.returned S_OK, [])
      ∧ loggedIds [] ∉ issuedSequences)
    ∧ (unterminatedPath.Assumed ∧ unterminatedPath.exitEvent = EXITEVENT_CERTISSUED
      ∧ ((⟨⟨true⟩⟩ : CPMICertExit).notifyCall unterminatedPath fun _ => none).1
        = .faulted .outOfBounds) :=
  ⟨⟨assumed_issuedCall rfl (by decide), rfl, by decide +kernel, by decide⟩,
    ⟨assumed_issuedCall rfl (by decide), rfl, by decide +kernel, by decide⟩,
    assumed_issuedCall rfl (by decide), rfl, by decide +kernel⟩

end CPMICertExit

end PmiExitModule
