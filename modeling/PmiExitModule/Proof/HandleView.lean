import PmiExitModule.Generic.Relational
import PmiExitModule.Handles
import PmiExitModule.Proof.Notify

/-!
# A notification without its handles

A notification on the handle table does what the notification does whose file gets the handle that was
next on the table when the call came. Naming the file takes no handle, so at `CTempFile::Create` the table
is still the same; a process and its two handles do not matter to what follows.
-/

namespace PmiExitModule

open Generic

/-! ### Calls on no handle -/

/-- The program makes no call on a handle. -/
def Quiet {α : Type} (program : Prog α) : Prop :=
  program.Emits (fun action => (HandleAction.act action).uses = []) fun _ => True

theorem quiet_report (source : CEventSource) (wType : EventType) (id : EventId) (args : List CEventArg)
    (o : EventOutcomes) : Quiet (source.report wType id args o) := by
  intro files
  rcases source.report_cases wType id args o files with hrun | hrun | ⟨accepted, hrun⟩
  · rw [hrun]
    exact ⟨List.forall_mem_nil _, fun _ _ => trivial⟩
  · rw [hrun]
    exact ⟨List.forall_mem_nil _, fun _ _ => trivial⟩
  · rw [hrun]
    exact ⟨List.forall_mem_singleton.mpr rfl, fun _ _ => trivial⟩

theorem CEventProcessor.quiet_getTempFilePath (o : ProcessorOutcomes) : Quiet (getTempFilePath o) := by
  unfold getTempFilePath
  cases o.getTempPath with
  | error e => exact Program.emits_pure trivial
  | ok folder =>
      cases heapAlloc o.allocTempFile (MAX_PATH + 1) with
      | none => exact Program.emits_pure trivial
      | some cells =>
          have hread : Quiet (Program.read : Prog FileSystem) := by
            intro files
            exact ⟨List.forall_mem_nil _, fun _ _ => trivial⟩
          refine hread.bind fun files _ => ?_
          cases o.tempFileNames.next folder g_pwszTempFileNamePrefix files with
          | error e => exact Program.emits_pure trivial
          | ok path =>
              refine Program.Emits.bind (Program.emits_emit rfl) fun _ _ => ?_
              refine Program.Emits.bind (Program.emits_lift fun _ _ => trivial) fun _ _ => ?_
              exact Program.emits_pure trivial

theorem CPMICertExit.quiet_dispatch (exit : CPMICertExit) {exitEvent : LONG}
    (h : exitEvent ≠ EXITEVENT_CERTISSUED) (context : LONG) (o : NotifyOutcomes) :
    Quiet (exit.dispatch exitEvent context o) := by
  intro files
  rcases exit.dispatch_cases exitEvent context o files with
    ⟨fault, -, -, hrun⟩ | ⟨hr, -, -, hrun⟩ | ⟨cert, hissued, -⟩
  · rw [hrun]
    exact ⟨List.forall_mem_nil _, fun _ _ => trivial⟩
  · rw [hrun]
    exact ⟨List.forall_mem_nil _, fun _ _ => trivial⟩
  · exact absurd hissued h

theorem Quiet.handles_replay {α : Type} {program : Prog α} (h : Quiet program) (state : HandleState) :
    (replay state (onHandles program state).2).handles = state.handles := by
  refine replay_preserves (fun s : HandleState => s.handles = state.handles) ?_ rfl
  intro event hmem s hs
  obtain ⟨action, haction, rfl⟩ := List.mem_map.mp hmem
  have hquiet := (h state.files).1 action haction
  change (HandleAction.act action).uses.foldl Use.apply s.handles = state.handles
  rw [hquiet]
  exact hs

/-! ### A notification without its handles -/

/-- What is left of a call where the handles of a process are not looked at: nothing of one that closes
them, and nothing of a `GetExitCodeProcess` that fails. -/
def HandleAction.seen : HandleAction → Option Action
  | act action => some action
  | createProcessW commandLine _ _ => some (.createProcess commandLine true)
  | waitForSingleObject _ dwRes => some (.waitForSingleObject dwRes)
  | getExitCodeProcess _ dwExitCode => dwExitCode.map .getExitCodeProcess
  | closeHandle _ => none

def handleView : View HandleAction HandleState Action FileSystem where
  state := HandleState.files
  event := HandleAction.seen
  hidden s event h := by
    cases event with
    | act action => cases h
    | _ => rfl
  seen s event action h := by
    cases event with
    | act action' =>
        obtain rfl := Option.some.inj h
        rfl
    | createProcessW commandLine hProcess hThread =>
        obtain rfl := Option.some.inj h
        rfl
    | waitForSingleObject hHandle dwRes =>
        obtain rfl := Option.some.inj h
        rfl
    | getExitCodeProcess hProcess dwExitCode =>
        obtain ⟨code, -, rfl⟩ := Option.map_eq_some_iff.mp h
        rfl
    | closeHandle hObject => cases h

theorem shows_onHandles {α : Type} (program : Prog α) :
    Program.Shows handleView (· = ·) (onHandles program) program :=
  Program.shows_along (fun _ => rfl) program

namespace CProcessObject

/-- The object reports what the wrapper reports. -/
structure Reports (object : CProcessObject) (proc : CProcess) : Prop where
  commandLine : object.getCommandLine = proc.getCommandLine
  processId : object.dwProcessId = proc.getProcessID
  threadId : object.dwThreadId = proc.getThreadID

/-- A `Create` on an object and on a wrapper ended alike. -/
def CreatesAlike (result : HRESULT × CProcessObject) (result' : HRESULT × CProcess) : Prop :=
  result.1 = result'.1 ∧ result.2.getCommandLine = result'.2.getCommandLine
    ∧ (¬ FAILED result.1 → result.2.Reports result'.2)

theorem shows_create (exe : LPCWSTR) (args : List LPCWSTR) (o : ProcessOutcomes)
    (handles : ProcessHandles) :
    Program.Shows handleView CreatesAlike (create {} exe args o handles) (CProcess.create {} exe args o) := by
  have hfresh : ¬ (CProcess.procInfo {}).isSome = true := Bool.false_ne_true
  unfold create CProcess.create
  rw [if_neg (not_not.mpr rfl), if_neg hfresh]
  cases heapAlloc o.allocCmdLine CProcess.g_cchMaxCommandLine with
  | none => exact Program.shows_pure ⟨rfl, rfl, fun h => absurd failed_E_OUTOFMEMORY h⟩
  | some cells =>
      refine (Program.shows_lift (exceptAlike_eq _)).bind ?_
      rintro ⟨hr, cells⟩ _ rfl
      refine Program.Shows.ite ?_ fun hok => ?_
      · intro hfailed
        exact Program.shows_pure ⟨rfl, rfl, fun h => absurd hfailed h⟩
      cases o.createProcess with
      | error e =>
          refine (Program.shows_emit rfl).bind ?_
          rintro _ _ -
          refine Program.shows_pure ⟨rfl, ?_, fun h => absurd e.failed h⟩
          cases handles.clears <;> rfl
      | ok info =>
          refine Program.shows_read_bind fun state => ?_
          refine (Program.shows_emit rfl).bind ?_
          rintro _ _ -
          exact Program.shows_pure ⟨rfl, rfl, fun _ => ⟨rfl, rfl, rfl⟩⟩

theorem shows_wait (proc : CProcessObject) (o : ProcessOutcomes) :
    Program.Shows handleView (· = ·) (proc.wait o) (CProcess.wait o) := by
  refine (Program.shows_emit rfl).bind ?_
  rintro _ _ -
  exact Program.shows_pure rfl

theorem shows_getExitCode (proc : CProcessObject) (dwExitCode : DWORD) (o : ProcessOutcomes) :
    Program.Shows handleView (· = ·) (proc.getExitCode dwExitCode o) (CProcess.getExitCode dwExitCode o) := by
  unfold getExitCode CProcess.getExitCode
  cases o.getExitCodeProcess with
  | error e =>
      refine (Program.shows_hidden rfl).hidden_bind ?_
      rintro _ -
      exact Program.shows_pure rfl
  | ok code =>
      refine (Program.shows_emit rfl).bind ?_
      rintro _ _ -
      exact Program.shows_pure rfl

theorem shows_destroy (proc : CProcessObject) :
    Program.Shows handleView (· = ·) proc.destroy (pure ()) := by
  have hclose : ∀ hObject, Program.Shows handleView (· = ·) (closeUnlessInvalid hObject) (pure ()) := by
    intro hObject
    unfold closeUnlessInvalid
    by_cases hvalid : hObject ≠ INVALID_HANDLE_VALUE
    · rw [if_pos hvalid]
      exact Program.shows_hidden rfl
    · rw [if_neg hvalid]
      exact Program.shows_pure rfl
  refine (hclose proc.hProcess).hidden_bind ?_
  rintro _ -
  exact hclose proc.hThread

end CProcessObject

namespace CEventProcessor

variable (processor : CEventProcessor)

theorem shows_watchProcess {object : CProcessObject} {proc : CProcess} (h : object.Reports proc)
    (pwszTempFile : LPCWSTR) (dwExitCode : DWORD) (o : ProcessOutcomes) (events : EventId → EventOutcomes) :
    Program.Shows handleView (· = ·)
      (processor.watchProcessObject object pwszTempFile dwExitCode o events)
      (processor.watchProcess proc pwszTempFile dwExitCode o events) := by
  unfold watchProcessObject watchProcess
  simp only [h.commandLine, h.processId, h.threadId]
  refine (shows_onHandles _).bind ?_
  rintro _ _ -
  refine (object.shows_wait o).bind ?_
  rintro hr _ rfl
  refine Program.Shows.ite (fun _ => ?_) fun _ => ?_
  · refine Program.Shows.ite (fun _ => ?_) fun _ => Program.shows_pure rfl
    refine (shows_onHandles _).bind ?_
    rintro _ _ -
    exact Program.shows_pure rfl
  refine (object.shows_getExitCode dwExitCode o).bind ?_
  rintro ⟨hr, dwExitCode⟩ _ rfl
  refine Program.Shows.ite (fun _ => Program.shows_pure rfl) fun _ => ?_
  refine Program.Shows.ite (fun _ => ?_) fun _ => ?_
  · refine (shows_onHandles _).bind ?_
    rintro _ _ -
    exact Program.shows_pure rfl
  · refine (shows_onHandles _).bind ?_
    rintro _ _ -
    exact Program.shows_pure rfl

theorem shows_runProcess (bufArgs : List LPCWSTR) (pwszTempFile : LPCWSTR) (dwExitCode : DWORD)
    (o : ProcessOutcomes) (handles : ProcessHandles) (events : EventId → EventOutcomes) :
    Program.Shows handleView (· = ·)
      (processor.runProcessOnHandles bufArgs pwszTempFile dwExitCode o handles events)
      (processor.runProcess bufArgs pwszTempFile dwExitCode o events) := by
  have hbody : Program.Shows handleView (fun result result' => result.1 = result')
      (processor.runProcessObject bufArgs pwszTempFile dwExitCode o handles events)
      (processor.runProcess bufArgs pwszTempFile dwExitCode o events) := by
    unfold runProcessObject runProcess
    refine Program.Shows.ite (fun _ => Program.shows_pure rfl) fun _ => ?_
    refine (CProcessObject.shows_create _ bufArgs o handles).bind ?_
    rintro ⟨hr, object⟩ ⟨_, proc⟩ ⟨rfl, hcommandLine, hreports⟩
    refine Program.Shows.ite (fun _ => ?_) fun hok => ?_
    · simp only [hcommandLine]
      refine (shows_onHandles _).bind ?_
      rintro _ _ -
      exact Program.shows_pure rfl
    · refine (processor.shows_watchProcess (hreports hok) _ _ _ _).bind_hidden ?_
      rintro result _ rfl
      exact Program.shows_pure rfl
  refine hbody.bind_hidden ?_
  rintro ⟨result, object⟩ _ rfl
  refine object.shows_destroy.hidden_bind ?_
  rintro _ -
  exact Program.shows_pure rfl

variable (pwszSubjectKeyIdentifier pwszSerialNumber : LPCWSTR) (o : HandleOutcomes)

theorem shows_launch (pwszTempFile : LPCWSTR) (objTempFile : CTempFile) (inUse : Finset HANDLE) :
    Program.Shows handleView (· = ·)
      (processor.launchOnHandles pwszSubjectKeyIdentifier pwszSerialNumber pwszTempFile o objTempFile)
      (processor.launch pwszSubjectKeyIdentifier pwszSerialNumber pwszTempFile (o.onTable inUse)
        objTempFile) := by
  refine (Program.shows_lift (exceptAlike_eq _)).bind ?_
  rintro ⟨hr, pwszEscSubjectKeyIdentifier, pwszEscTempFile⟩ _ rfl
  refine Program.Shows.ite (fun _ => Program.shows_pure rfl) fun _ => ?_
  refine Program.Shows.ite (fun _ => Program.shows_pure rfl) fun _ => ?_
  refine (Program.shows_lift (exceptAlike_eq _)).bind ?_
  rintro bufBaseArgs _ rfl
  refine (processor.shows_runProcess _ _ _ _ _ _).bind ?_
  rintro ⟨hr, dwExitCode⟩ _ rfl
  exact Program.Shows.ite (fun _ => Program.shows_pure rfl) fun _ => Program.shows_pure rfl

theorem showsAt_writeAndLaunch (bufRawCert : List BYTE) (state : HandleState) :
    Program.ShowsAt handleView (· = ·)
      (processor.writeAndLaunchOnHandles pwszSubjectKeyIdentifier pwszSerialNumber bufRawCert o)
      (processor.writeAndLaunch pwszSubjectKeyIdentifier pwszSerialNumber bufRawCert
        (o.onTable state.handles)) state := by
  refine Program.ShowsAt.bind (shows_onHandles (getTempFilePath o.processor) state) ?_
  rintro ⟨hr, strTempFile⟩ _ - rfl
  -- naming the file has taken no handle, so its handle comes from the table as it was
  have hhandles := (quiet_getTempFilePath o.processor).handles_replay state
  dsimp only
  split
  · exact Program.shows_pure rfl _
  refine Program.ShowsAt.read_bind ?_
  rw [hhandles]
  refine Program.Shows.bind (shows_onHandles _) ?_ _
  rintro ⟨hr, objTempFile⟩ _ rfl
  refine Program.Shows.ite (fun _ => Program.shows_pure rfl) fun _ => ?_
  refine (shows_onHandles _).bind ?_
  rintro ⟨hr, cbTotal⟩ _ rfl
  refine Program.Shows.ite (fun _ => Program.shows_pure rfl) fun _ => ?_
  refine (shows_onHandles _).bind ?_
  rintro objTempFile _ rfl
  exact processor.shows_launch _ _ o _ _ state.handles

theorem showsAt_notifyCertIssued (bufRawCert : List BYTE) (state : HandleState) :
    Program.ShowsAt handleView (· = ·)
      (processor.notifyCertIssuedOnHandles pwszSubjectKeyIdentifier pwszSerialNumber bufRawCert o)
      (processor.notifyCertIssued pwszSubjectKeyIdentifier pwszSerialNumber bufRawCert
        (o.onTable state.handles)) state := by
  refine (processor.showsAt_writeAndLaunch _ _ o bufRawCert state).bind ?_
  rintro ⟨hr, objTempFile⟩ _ - rfl
  refine Program.Shows.bind (shows_onHandles _) ?_ _
  rintro _ _ -
  exact Program.shows_pure rfl

end CEventProcessor

/-- The notification on a table that has these handles in use. -/
def HandleNotification.notifyCall (call : HandleNotification) (inUse : Finset HANDLE) : NotifyCall :=
  ⟨call.exitEvent, call.context, call.onTable inUse⟩

namespace CPMICertExit

variable (exit : CPMICertExit)

/-- The notifications of a CA, one after the other, up to the first that does not return. -/
def serve (calls : List NotifyCall) : Prog Unit :=
  Program.each (fun _ call => exit.notifyCall call >>= fun _ => pure ()) () calls

theorem showsAt_notifyIssued (call : HandleNotification) (state : HandleState) :
    Program.ShowsAt handleView (· = ·) (exit.notifyCertIssuedOnHandles call)
      (exit.notifyCertIssued call.context (call.onTable state.handles)) state := by
  unfold notifyCertIssuedOnHandles notifyCertIssued notifyCertIssuedWith
  dsimp only
  change Program.ShowsAt _ _ _ (if FAILED (CCertServerExit.init call.context call.server).1 then _ else _) _
  split
  · exact Program.shows_pure rfl _
  refine Program.ShowsAt.lift_bind ?_
  rintro (hr | cert)
  · exact Program.shows_pure rfl _
  · exact cert.objEventProcessor.showsAt_notifyCertIssued _ _ call.processor cert.bufRawCert state

theorem showsAt_dispatch (call : HandleNotification) (state : HandleState) :
    Program.ShowsAt handleView (· = ·) (exit.dispatchOnHandles call)
      (exit.dispatch call.exitEvent call.context (call.onTable state.handles)) state := by
  unfold dispatchOnHandles
  by_cases hissued : call.exitEvent = EXITEVENT_CERTISSUED
  · have hcoarse : exit.dispatch call.exitEvent call.context (call.onTable state.handles)
        = exit.notifyCertIssued call.context (call.onTable state.handles) := if_pos hissued
    rw [if_pos hissued, hcoarse]
    exact exit.showsAt_notifyIssued call state
  · have hcoarse : exit.dispatch call.exitEvent call.context (call.onTable state.handles)
        = exit.dispatch call.exitEvent call.context call.outcomes := by
      unfold dispatch
      rw [if_neg hissued, if_neg hissued]
      rfl
    rw [if_neg hissued, hcoarse]
    exact shows_onHandles _ state

theorem showsAt_notify (call : HandleNotification) (state : HandleState) :
    Program.ShowsAt handleView (· = ·) (exit.notifyOnHandles call)
      (exit.notify call.exitEvent call.context (call.onTable state.handles)) state := by
  refine (exit.showsAt_dispatch call state).bind ?_
  rintro hr _ - rfl
  refine Program.Shows.ite (fun _ => ?_) (fun _ => Program.shows_pure rfl) _
  refine (shows_onHandles _).bind ?_
  rintro _ _ -
  exact Program.shows_pure rfl

end CPMICertExit

end PmiExitModule
