import PmiExitModule.ExitObject
import PmiExitModule.Proof.Protocol

/-!
# The life of an exit module

Whatever is called on the object and whatever the calls behind it answer, the handle it holds is in use
and its own, it reports on no other, and its destructor gives it back. Of everything that was called
before, a notification depends on one bit: whether the last `Initialize` that got to the event source
was given a handle.
-/

namespace PmiExitModule

open Generic

/-! ### Notifications report on an open log only -/

/-- If the action is a report, the log was open. -/
def Action.ReportsOn (isOpen : Bool) : Action → Prop
  | .reportEvent _ _ => isOpen = true
  | _ => True

/-- The program reports on an open log only. -/
def ReportsOn (isOpen : Bool) {α : Type} (program : Prog α) : Prop :=
  program.Emits (Action.ReportsOn isOpen) fun _ => True

section ReportsOn

variable {isOpen : Bool} {α β : Type}

theorem reportsOn_pure (value : α) : ReportsOn isOpen (pure value) := Program.emits_pure trivial

theorem reportsOn_lift (result : Except Fault α) : ReportsOn isOpen (Program.lift result) :=
  Program.emits_lift fun _ _ => trivial

theorem reportsOn_emit {action : Action} (h : action.ReportsOn isOpen) :
    ReportsOn isOpen (Program.emit action) := Program.emits_emit h

theorem ReportsOn.ite {c : Prop} [Decidable c] {first second : Prog α} (hfirst : ReportsOn isOpen first)
    (hsecond : ReportsOn isOpen second) : ReportsOn isOpen (if c then first else second) :=
  Program.Emits.ite hfirst hsecond

theorem ReportsOn.bind {first : Prog α} {next : α → Prog β} (hfirst : ReportsOn isOpen first)
    (hnext : ∀ value, ReportsOn isOpen (next value)) : ReportsOn isOpen (first >>= next) :=
  Program.Emits.bind hfirst fun value _ => hnext value

theorem ReportsOn.emit_then {action : Action} {next : Unit → Prog α} (h : action.ReportsOn isOpen)
    (hnext : ∀ value, ReportsOn isOpen (next value)) : ReportsOn isOpen (Program.emit action >>= next) :=
  (reportsOn_emit h).bind hnext

theorem reportsOn_report (wType : EventType) (id : EventId) (args : List CEventArg) (o : EventOutcomes) :
    ReportsOn isOpen (CEventSource.report ⟨isOpen⟩ wType id args o) := by
  apply ReportsOn.bind _ fun _ => reportsOn_pure ()
  apply ReportsOn.ite (reportsOn_pure _)
  apply ReportsOn.ite (reportsOn_pure _)
  cases isOpen with
  | false => exact reportsOn_pure _
  | true =>
      apply ReportsOn.ite (reportsOn_pure _)
      apply ReportsOn.ite (reportsOn_lift _)
      cases o.reportEvent with
      | error e => exact .emit_then rfl fun _ => reportsOn_pure _
      | ok _ => exact .emit_then rfl fun _ => reportsOn_pure _

end ReportsOn

namespace CTempFile

variable {isOpen : Bool} (file : CTempFile)

theorem reportsOn_close : ReportsOn isOpen file.close := by
  unfold close
  cases file.hFile with
  | none => exact reportsOn_pure _
  | some openFile => exact .emit_then trivial fun _ => reportsOn_pure _

theorem reportsOn_create (pwszPath : LPCWSTR) (o : CreateFileOutcomes) :
    ReportsOn isOpen (file.create pwszPath o) := by
  apply ReportsOn.ite (reportsOn_pure _)
  apply file.reportsOn_close.bind
  intro file
  apply (reportsOn_lift _).bind
  rintro ⟨hr, cch⟩
  apply ReportsOn.ite (reportsOn_pure _)
  cases heapAlloc o.allocPath (cch + 1) with
  | none => exact reportsOn_pure _
  | some cells =>
      apply (reportsOn_lift _).bind
      rintro ⟨hr, cells⟩
      apply ReportsOn.ite (reportsOn_pure _)
      apply (reportsOn_lift _).bind
      intro path
      cases o.createFile with
      | error e => exact reportsOn_pure _
      | ok handle => exact .emit_then trivial fun _ => reportsOn_pure _

theorem reportsOn_write (buf : List BYTE) (cbIndex cbCount : Nat) (o : WriteOutcome) :
    ReportsOn isOpen (file.write buf cbIndex cbCount o) := by
  unfold write
  cases file.hFile with
  | none => exact reportsOn_pure _
  | some openFile =>
      cases o with
      | error e => exact .emit_then trivial fun _ => reportsOn_pure _
      | ok nBytesWritten => exact .emit_then trivial fun _ => reportsOn_pure _

theorem reportsOn_destroy (deleted : Bool) : ReportsOn isOpen (file.destroy deleted) := by
  apply file.reportsOn_close.bind
  intro file
  apply ReportsOn.ite (reportsOn_pure _)
  apply ReportsOn.ite _ (reportsOn_pure _)
  exact (reportsOn_lift _).bind fun _ => reportsOn_emit trivial

end CTempFile

namespace CEventProcessor

variable {isOpen : Bool} {processor : CEventProcessor} (hsource : processor.objEventSource = ⟨isOpen⟩)

theorem reportsOn_getTempFilePath (o : ProcessorOutcomes) : ReportsOn isOpen (getTempFilePath o) := by
  unfold getTempFilePath
  cases o.getTempPath with
  | error e => exact reportsOn_pure _
  | ok folder =>
      cases heapAlloc o.allocTempFile (MAX_PATH + 1) with
      | none => exact reportsOn_pure _
      | some cells =>
          have hread : ReportsOn isOpen (Program.read : Prog FileSystem) := by
            intro files
            exact ⟨List.forall_mem_nil _, fun _ _ => trivial⟩
          apply hread.bind
          intro files
          cases o.tempFileNames.next folder g_pwszTempFileNamePrefix files with
          | error e => exact reportsOn_pure _
          | ok path =>
              refine ReportsOn.emit_then trivial fun _ => ?_
              exact (reportsOn_lift _).bind fun _ => reportsOn_pure _

theorem reportsOn_writeLoop (objTempFile : CTempFile) (bytes : List BYTE) (cbTotal : Nat)
    (outcomes : List WriteOutcome) : ReportsOn isOpen (writeLoop objTempFile bytes cbTotal outcomes) := by
  induction outcomes generalizing cbTotal with
  | nil =>
      have hwait : ReportsOn isOpen (Program.wait : Prog (HRESULT × Nat)) := by
        intro files
        exact ⟨List.forall_mem_nil _, fun _ h => nomatch h⟩
      exact ReportsOn.ite hwait (reportsOn_pure _)
  | cons outcome outcomes ih =>
      apply ReportsOn.ite _ (reportsOn_pure _)
      apply (objTempFile.reportsOn_write _ _ _ _).bind
      rintro ⟨hr, cbWritten⟩
      exact ReportsOn.ite (reportsOn_pure _) (ih _)

theorem reportsOn_createProcess (exe : LPCWSTR) (bufArgs : List LPCWSTR) (o : ProcessOutcomes) :
    ReportsOn isOpen (CProcess.create {} exe bufArgs o) := by
  apply ReportsOn.ite (reportsOn_pure _)
  cases heapAlloc o.allocCmdLine CProcess.g_cchMaxCommandLine with
  | none => exact reportsOn_pure _
  | some cells =>
      apply (reportsOn_lift _).bind
      rintro ⟨hr, cells⟩
      apply ReportsOn.ite (reportsOn_pure _)
      cases o.createProcess with
      | error e => exact .emit_then trivial fun _ => reportsOn_pure _
      | ok info => exact .emit_then trivial fun _ => reportsOn_pure _

include hsource

theorem reportsOn_watchProcess (proc : CProcess) (pwszTempFile : LPCWSTR) (dwExitCode : DWORD)
    (o : ProcessOutcomes) (events : EventId → EventOutcomes) :
    ReportsOn isOpen (processor.watchProcess proc pwszTempFile dwExitCode o events) := by
  unfold watchProcess
  simp only [hsource]
  apply (reportsOn_report _ _ _ _).bind
  intro _
  have hwait : ReportsOn isOpen (CProcess.wait o) := .emit_then trivial fun _ => reportsOn_pure _
  apply hwait.bind
  intro hr
  apply ReportsOn.ite
  · exact ReportsOn.ite ((reportsOn_report _ _ _ _).bind fun _ => reportsOn_pure _) (reportsOn_pure _)
  have hread : ReportsOn isOpen (CProcess.getExitCode dwExitCode o) := by
    unfold CProcess.getExitCode
    cases o.getExitCodeProcess with
    | error e => exact reportsOn_pure _
    | ok code => exact .emit_then trivial fun _ => reportsOn_pure _
  apply hread.bind
  rintro ⟨hr, dwExitCode⟩
  apply ReportsOn.ite (reportsOn_pure _)
  apply ReportsOn.ite
  · exact (reportsOn_report _ _ _ _).bind fun _ => reportsOn_pure _
  · exact (reportsOn_report _ _ _ _).bind fun _ => reportsOn_pure _

theorem reportsOn_runProcess (bufArgs : List LPCWSTR) (pwszTempFile : LPCWSTR) (dwExitCode : DWORD)
    (o : ProcessOutcomes) (events : EventId → EventOutcomes) :
    ReportsOn isOpen (processor.runProcess bufArgs pwszTempFile dwExitCode o events) := by
  apply ReportsOn.ite (reportsOn_pure _)
  apply (reportsOn_createProcess _ _ _).bind
  rintro ⟨hr, proc⟩
  apply ReportsOn.ite
  · rw [hsource]
    exact (reportsOn_report _ _ _ _).bind fun _ => reportsOn_pure _
  · exact reportsOn_watchProcess hsource proc pwszTempFile dwExitCode o events

theorem reportsOn_notifyCertIssued (pwszSubjectKeyIdentifier pwszSerialNumber : LPCWSTR)
    (bufRawCert : List BYTE) (o : ProcessorOutcomes) : ReportsOn isOpen
      (processor.notifyCertIssued pwszSubjectKeyIdentifier pwszSerialNumber bufRawCert o) := by
  have hlaunch : ∀ pwszTempFile objTempFile, ReportsOn isOpen (processor.launch
      pwszSubjectKeyIdentifier pwszSerialNumber pwszTempFile o objTempFile) := by
    intro pwszTempFile objTempFile
    apply (reportsOn_lift _).bind
    rintro ⟨hr, pwszEscSubjectKeyIdentifier, pwszEscTempFile⟩
    apply ReportsOn.ite (reportsOn_pure _)
    apply ReportsOn.ite (reportsOn_pure _)
    apply (reportsOn_lift _).bind
    intro bufBaseArgs
    apply (reportsOn_runProcess hsource _ _ _ _ _).bind
    rintro ⟨hr, dwExitCode⟩
    exact ReportsOn.ite (reportsOn_pure _) (reportsOn_pure _)
  have hbody : ReportsOn isOpen (processor.writeAndLaunch pwszSubjectKeyIdentifier pwszSerialNumber
      bufRawCert o) := by
    apply (reportsOn_getTempFilePath o).bind
    rintro ⟨hr, strTempFile⟩
    apply ReportsOn.ite (reportsOn_pure _)
    apply (CTempFile.reportsOn_create _ _ _).bind
    rintro ⟨hr, objTempFile⟩
    apply ReportsOn.ite (reportsOn_pure _)
    apply (reportsOn_writeLoop _ _ _ _).bind
    rintro ⟨hr, cbTotal⟩
    apply ReportsOn.ite (reportsOn_pure _)
    apply objTempFile.reportsOn_close.bind
    intro objTempFile
    exact hlaunch _ objTempFile
  apply hbody.bind
  rintro ⟨hr, objTempFile⟩
  exact (objTempFile.reportsOn_destroy _).bind fun _ => reportsOn_pure hr

end CEventProcessor

theorem CPMICertExit.reportsOn_notify (isOpen : Bool) (exitEvent context : LONG) (o : NotifyOutcomes) :
    ReportsOn isOpen (CPMICertExit.notify ⟨⟨isOpen⟩⟩ exitEvent context o) := by
  have hdispatch : ReportsOn isOpen (CPMICertExit.dispatch ⟨⟨isOpen⟩⟩ exitEvent context o) := by
    intro files
    rcases CPMICertExit.dispatch_cases ⟨⟨isOpen⟩⟩ exitEvent context o files with
      ⟨fault, -, -, hrun⟩ | ⟨hr, -, -, hrun⟩ | ⟨cert, -, -, hread, hrun⟩
    · rw [hrun]
      exact ⟨List.forall_mem_nil _, fun _ _ => trivial⟩
    · rw [hrun]
      exact ⟨List.forall_mem_nil _, fun _ _ => trivial⟩
    · rw [hrun]
      have hsource := (CPMICertExit.processor_of_readIssuedCertificate _ hread).1
      exact CEventProcessor.reportsOn_notifyCertIssued hsource _ _ _ _ files
  apply hdispatch.bind
  intro hr
  apply ReportsOn.ite _ (reportsOn_pure _)
  exact (reportsOn_report _ _ _ _).bind fun _ => reportsOn_pure _

/-! ### The handle of the object -/

def atMostOne (own : Finset HANDLE) : Bool := own.card ≤ 1

/-- The monitor of the event log handles of one owner, who never has two. -/
def eventLogMonitor (others : Finset HANDLE) : Monitor ModuleAction ModuleState (Finset HANDLE) :=
  (Monitor.ofUses ModuleAction.uses others ModuleState.eventLogs
    fun state event => by cases event <;> rfl).within atMostOne

section Handles

variable {others own : Finset HANDLE} {hEventLog : HANDLE} {stop : Finset HANDLE → Prop}

theorem meets_registerEventSource (hothers : hEventLog ∉ others) :
    (Program.emit (.registerEventSource hEventLog) : ModuleProg Unit).Meets (eventLogMonitor others) ∅
      (fun _ own' => own' = {hEventLog}) stop := by
  refine Program.meets_emit (Monitor.within_step ?_ ?_) rfl
  · change (Use.next others ∅ (.acquire hEventLog)).bind _ = _
    rw [Use.next_acquire hothers (Finset.notMem_empty _)]
    rfl
  · exact decide_eq_true (Finset.card_singleton _).le

theorem meets_deregisterEventSource :
    (Program.emit (.deregisterEventSource hEventLog) : ModuleProg Unit).Meets (eventLogMonitor others)
      {hEventLog} (fun _ own' => own' = ∅) stop := by
  refine Program.meets_emit (Monitor.within_step ?_ ?_) rfl
  · change (Use.next others _ (.release hEventLog)).bind _ = _
    rw [Use.next_release (Finset.mem_singleton_self _), Finset.erase_singleton]
    rfl
  · exact decide_eq_true (Nat.zero_le 1)

end Handles

namespace CEventSourceObject

/-- The handles of the source. -/
def handles (source : CEventSourceObject) : Finset HANDLE :=
  if source.hEventLog = NULL then ∅ else {source.hEventLog}

theorem handles_of_null {source : CEventSourceObject} (h : source.hEventLog = NULL) :
    source.handles = ∅ := if_pos h

theorem handles_of_open {source : CEventSourceObject} (h : source.hEventLog ≠ NULL) :
    source.handles = {source.hEventLog} := if_neg h

variable {others : Finset HANDLE} {stop : Finset HANDLE → Prop} (source : CEventSourceObject)

theorem card_handles_le : source.handles.card ≤ 1 := by
  unfold handles
  split
  · exact Nat.zero_le 1
  · exact (Finset.card_singleton _).le

theorem meets_close : source.close.Meets (eventLogMonitor others) source.handles
    (fun closed own => closed.hEventLog = NULL ∧ own = ∅) stop := by
  apply Program.Meets.ite
  · intro hopen
    rw [handles_of_open hopen]
    refine meets_deregisterEventSource.bind ?_
    rintro _ _ rfl
    exact Program.meets_pure ⟨rfl, rfl⟩
  · intro hclosed
    have hnull : source.hEventLog = NULL := not_not.mp hclosed
    exact Program.meets_pure ⟨hnull, handles_of_null hnull⟩

theorem meets_openLog (o : Except Win32Error HandleSource) :
    (source.openLog o).Meets (eventLogMonitor others) source.handles
      (fun result own => own = result.2.handles) stop := by
  refine source.meets_close.bind ?_
  rintro source' _ ⟨hnull, rfl⟩
  cases o with
  | error e => exact Program.meets_pure rfl
  | ok registered =>
      have hread : (Program.read : ModuleProg ModuleState).Meets (eventLogMonitor others) ∅
          (fun state own => own = ∅ ∧ state.eventLogs = others ∪ ∅) stop :=
        Program.meets_read fun state hknows => ⟨rfl, hknows.1⟩
      refine hread.bind ?_
      rintro state _ ⟨rfl, hstate⟩
      have hfresh : registered.next state.eventLogs ∉ others := by
        intro hmem
        apply registered.fresh state.eventLogs
        rw [hstate]
        exact Finset.mem_union_left _ (hstate ▸ hmem)
      refine (meets_registerEventSource hfresh).bind ?_
      rintro _ _ rfl
      apply Program.meets_pure
      rw [handles_of_open (registered.nonNull _)]

end CEventSourceObject

namespace CPMICertExitObject

variable {others : Finset HANDLE} (object : CPMICertExitObject)

theorem objEventSource_of_readServer {o : InitializeOutcomes} {hr : HRESULT} {object' : CPMICertExitObject}
    (h : object.readServer o = .ok (hr, object')) : object'.objEventSource = object.objEventSource := by
  unfold readServer at h
  by_cases hinit : FAILED (CCertServerExit.init 0 o.server).1
  · simp only [hinit, if_true] at h
    obtain ⟨-, rfl⟩ := Prod.mk.inj (Except.ok.inj h)
    rfl
  · simp only [hinit, if_false] at h
    obtain ⟨⟨hrLoc, strRegStorageLoc⟩, -, h⟩ := exists_of_bind_eq_ok h
    split at h
    · obtain ⟨-, rfl⟩ := Prod.mk.inj (Except.ok.inj h)
      rfl
    · obtain ⟨-, rfl⟩ := Prod.mk.inj (Except.ok.inj h)
      rfl

theorem meets_initializeObject (strConfig : BSTR) (pEventMask : Bool) (o : InitializeOutcomes) :
    (object.initializeObject strConfig pEventMask o).Meets (eventLogMonitor others)
      object.objEventSource.handles (fun result own => own = result.2.objEventSource.handles) fun _ => True := by
  refine Program.Meets.ite (fun _ => Program.meets_pure rfl) fun _ => ?_
  refine Program.Meets.ite (fun _ => Program.meets_pure rfl) fun _ => ?_
  have hcopy : (Program.lift (object.strConfig.copy strConfig o.allocConfig) : ModuleProg _).Meets
      (eventLogMonitor others) object.objEventSource.handles
      (fun _ own => own = object.objEventSource.handles) fun _ => True :=
    Program.meets_lift (fun _ _ => rfl) trivial
  refine hcopy.bind ?_
  rintro ⟨hr, copied⟩ _ rfl
  refine Program.Meets.ite (fun _ => Program.meets_pure rfl) fun _ => ?_
  refine (object.objEventSource.meets_openLog o.registerEventSource).bind ?_
  rintro ⟨hr, objEventSource⟩ _ rfl
  refine Program.Meets.ite (fun _ => Program.meets_pure rfl) fun _ => ?_
  have hread : ∀ object : CPMICertExitObject, (Program.lift (object.readServer o) : ModuleProg _).Meets
      (eventLogMonitor others) object.objEventSource.handles
      (fun result own => own = result.2.objEventSource.handles) fun _ => True := by
    intro object
    refine Program.meets_lift ?_ trivial
    rintro ⟨hr, object'⟩ hresult
    rw [object.objEventSource_of_readServer hresult]
  refine (hread _).bind ?_
  rintro ⟨hr, object'⟩ _ rfl
  exact Program.meets_pure rfl

theorem meets_notify (exitEvent context : LONG) (o : NotifyOutcomes) :
    (object.notify exitEvent context o).Meets (eventLogMonitor others) object.objEventSource.handles
      (fun _ own => own = object.objEventSource.handles) fun _ => True := by
  refine Program.meets_along ?_ (fun _ => rfl) trivial
  intro state hknows action hmem
  have hcard : atMostOne object.objEventSource.handles := decide_eq_true object.objEventSource.card_handles_le
  have hreports := (CPMICertExit.reportsOn_notify (object.objEventSource.hEventLog ≠ NULL) exitEvent
    context o state.files).1 action hmem
  cases action with
  | reportEvent event accepted =>
      have hopen : object.objEventSource.hEventLog ≠ NULL := of_decide_eq_true hreports
      have hown : object.objEventSource.hEventLog ∈ object.objEventSource.handles := by
        rw [CEventSourceObject.handles_of_open hopen]
        exact Finset.mem_singleton_self _
      refine Monitor.within_step ?_ hcard
      change (Use.next others _ (.employ object.objEventSource.hEventLog)).bind _ = _
      rw [Use.next_employ hown]
      rfl
  | _ => exact Monitor.within_step rfl hcard

theorem meets_call (call : ExitCall) : (object.call call).Meets (eventLogMonitor others)
    object.objEventSource.handles (fun object' own => own = object'.objEventSource.handles) fun _ => True := by
  cases call with
  | initializeObject strConfig pEventMask o =>
      refine (object.meets_initializeObject strConfig pEventMask o).bind ?_
      rintro ⟨answer, object'⟩ _ rfl
      exact Program.meets_pure rfl
  | notify exitEvent context o =>
      refine (object.meets_notify exitEvent context o).bind ?_
      rintro hr _ rfl
      exact Program.meets_pure rfl

theorem meets_life (calls : List ExitCall) : (life calls).Meets (eventLogMonitor others) ∅
    (fun _ own => own = ∅) fun _ => True := by
  have hstep : ∀ (object : CPMICertExitObject) (c : ExitCall) (own : Finset HANDLE),
      own = object.objEventSource.handles → (object.call c).Meets (eventLogMonitor others) own
        (fun object' own' => own' = object'.objEventSource.handles) fun _ => True := by
    rintro object c _ rfl
    exact object.meets_call c
  have hstart : (∅ : Finset HANDLE) = CEventSourceObject.handles {} := rfl
  refine (Program.Meets.each hstep hstart calls).bind ?_
  rintro object _ rfl
  refine object.objEventSource.meets_close.bind ?_
  rintro closed _ ⟨-, rfl⟩
  exact Program.meets_pure rfl

theorem count_acquire (events : List ModuleAction) (hEventLog : HANDLE) :
    (events.flatMap ModuleAction.uses).count (.acquire hEventLog)
      = events.count (.registerEventSource hEventLog) := by
  induction events with
  | nil => rfl
  | cons event events ih =>
      rw [List.flatMap_cons, List.count_append, List.count_cons, ih, Nat.add_comm]
      cases event <;> simp [ModuleAction.uses, List.count_cons]

theorem count_release (events : List ModuleAction) (hEventLog : HANDLE) :
    (events.flatMap ModuleAction.uses).count (.release hEventLog)
      = events.count (.deregisterEventSource hEventLog) := by
  induction events with
  | nil => rfl
  | cons event events ih =>
      rw [List.flatMap_cons, List.count_append, List.count_cons, ih, Nat.add_comm]
      cases event <;> simp [ModuleAction.uses, List.count_cons]

/-- **The event log is returned.** Over the whole life of an exit module it reports and closes only on
a handle that it registered itself and has not closed yet, and at no point it holds two. Its destructor
leaves none behind: the handles in use are those of the others, and each was closed as often as it was
opened. -/
theorem life_returns_event_logs (calls : List ExitCall) (state : ModuleState) :
    (∀ before, before <+: (life calls state).2 → ∃ own,
      monitor (usesStep ModuleAction.uses state.eventLogs) ∅ before = some own ∧ own.card ≤ 1
        ∧ (replay state before).eventLogs = state.eventLogs ∪ own ∧ Disjoint state.eventLogs own)
      ∧ ((life calls state).1 = .returned () →
        (replay state (life calls state).2).eventLogs = state.eventLogs ∧ ∀ hEventLog,
          (life calls state).2.count (.registerEventSource hEventLog)
            = (life calls state).2.count (.deregisterEventSource hEventLog)) := by
  obtain ⟨last, hmonitor, hleaves⟩ := meets_life calls state
    ⟨(Finset.union_empty state.eventLogs).symm, Finset.disjoint_empty_right state.eventLogs⟩
  have hholds : ∀ before, before <+: (life calls state).2 → ∃ own,
      monitor (usesStep ModuleAction.uses state.eventLogs) ∅ before = some own ∧ atMostOne own
        ∧ (replay state before).eventLogs = state.eventLogs ∪ own ∧ Disjoint state.eventLogs own :=
    fun before hbefore => Monitor.holds_of_within rfl rfl hmonitor hbefore
  constructor
  · intro before hbefore
    obtain ⟨own, hused, hcard, hknows⟩ := hholds before hbefore
    exact ⟨own, hused, of_decide_eq_true hcard, hknows⟩
  · intro hreturned
    rw [hreturned] at hleaves
    obtain rfl : last = ∅ := hleaves
    have hused := (Monitor.monitor_of_within rfl hmonitor).1
    obtain ⟨own, hown, -, heventLogs, -⟩ := hholds _ (List.prefix_refl _)
    obtain rfl : own = ∅ := Option.some.inj (hown.symm.trans hused)
    refine ⟨heventLogs.trans (Finset.union_empty state.eventLogs), ?_⟩
    intro hEventLog
    have hbalance := count_acquire_eq_count_release hused hEventLog
    rwa [count_acquire, count_release] at hbalance

end CPMICertExitObject

/-! ### What a notification depends on -/

/-- Whether the call opens the event log or leaves it closed, if it gets to the event source. -/
def ExitCall.opens : ExitCall → Option Bool
  | .initializeObject strConfig pEventMask o =>
      if !pEventMask ∨ strConfig = .null then none
      else
        match CHeapBuffer.copy none strConfig o.allocConfig with
        | .ok (hr, _) => if FAILED hr then none else some o.registerEventSource.toBool
        | .error _ => none
  | .notify _ _ _ => none

/-- The calls on an exit module of which nothing counts but whether its log is open. -/
def CPMICertExit.callWith (isOpen : Bool) : ExitCall → Prog Bool
  | .initializeObject strConfig pEventMask o =>
      return (ExitCall.initializeObject strConfig pEventMask o).opens.getD isOpen
  | .notify exitEvent context o => do
      let _ ← CPMICertExit.notify ⟨⟨isOpen⟩⟩ exitEvent context o
      return isOpen

/-- What is left of a call where the handles of the event log are not looked at. -/
def ModuleAction.seen : ModuleAction → Option Action
  | registerEventSource _ => none
  | deregisterEventSource _ => none
  | reportEventW _ event accepted => some (.reportEvent event accepted)
  | act action => some action

theorem ModuleAction.files_replay (state : ModuleState) (events : List ModuleAction) :
    (replay state events).files = replay state.files (events.filterMap seen) := by
  induction events generalizing state with
  | nil => rfl
  | cons event events ih =>
      rw [replay_cons, ih]
      cases event <;> rfl

theorem CEventSourceObject.seen_embed (source : CEventSourceObject) (actions : List Action) :
    (actions.map source.embed).filterMap ModuleAction.seen = actions := by
  rw [List.filterMap_map]
  refine Eq.trans (List.filterMap_congr ?_) (List.filterMap_some)
  intro action _
  cases action <;> rfl

/-- The program is seen to do nothing, and where it returns the value is as `post` says. -/
def Unseen {α : Type} (program : ModuleProg α) (post : α → Prop) : Prop :=
  program.Meets (.ofStep fun (_ : Unit) event => if event.seen = none then some () else none) ()
    (fun value _ => post value) fun _ => True

theorem unseen_emit {event : ModuleAction} (h : event.seen = none) :
    Unseen (Program.emit event) fun _ => True := Program.meets_emit (if_pos h) trivial

theorem Unseen.seen_eq_nil {α : Type} {program : ModuleProg α} {post : α → Prop} (h : Unseen program post)
    (state : ModuleState) : (program state).2.filterMap ModuleAction.seen = [] := by
  obtain ⟨_, hmonitor, -⟩ := h state trivial
  rw [List.filterMap_eq_nil_iff]
  intro event hmem
  obtain ⟨before, after, hsplit⟩ := List.append_of_mem hmem
  rw [hsplit] at hmonitor
  obtain ⟨_, _, -, hstep, -⟩ := exists_step_of_monitor hmonitor
  by_contra hseen
  cases (if_neg hseen).symm.trans hstep

theorem Unseen.of_returned {α : Type} {program : ModuleProg α} {post : α → Prop}
    (h : Unseen program post) {state : ModuleState} {value : α} {actions : List ModuleAction}
    (hrun : program state = (.returned value, actions)) : post value := by
  obtain ⟨_, -, hleaves⟩ := h state trivial
  rw [hrun] at hleaves
  exact hleaves

theorem CHeapBuffer.copy_hr (strResult : CHeapBuffer WCHAR) (bstr : BSTR) (heap : HeapOutcome WCHAR) :
    (strResult.copy bstr heap).map Prod.fst = (CHeapBuffer.copy none bstr heap).map Prod.fst := by
  unfold CHeapBuffer.copy
  by_cases hnull : bstr = .null
  · simp only [hnull, if_true]
  · simp only [hnull, if_false]
    cases bstr.sysStringLen with
    | error fault => rfl
    | ok cch =>
        cases heap with
        | none => rfl
        | some garbage => rfl

namespace CPMICertExitObject

variable (object : CPMICertExitObject)

def isOpen : Bool := object.objEventSource.hEventLog ≠ NULL

theorem unseen_close (source : CEventSourceObject) : Unseen source.close fun _ => True := by
  refine Program.Meets.ite (fun _ => ?_) fun _ => Program.meets_pure trivial
  exact (unseen_emit rfl).bind fun _ _ _ => Program.meets_pure trivial

theorem unseen_openLog (source : CEventSourceObject) (o : Except Win32Error HandleSource) :
    Unseen (source.openLog o) fun result => decide (result.2.hEventLog ≠ NULL) = o.toBool := by
  refine (unseen_close source).bind ?_
  rintro source' _ -
  cases o with
  | error e => exact Program.meets_pure rfl
  | ok registered =>
      have hread : Unseen (Program.read : ModuleProg ModuleState) fun _ => True :=
        Program.meets_read fun _ _ => trivial
      refine hread.bind ?_
      rintro state _ -
      refine (unseen_emit rfl).bind ?_
      rintro _ _ -
      exact Program.meets_pure (decide_eq_true (registered.nonNull _))

theorem unseen_initializeObject (strConfig : BSTR) (pEventMask : Bool) (o : InitializeOutcomes) :
    Unseen (object.initializeObject strConfig pEventMask o) fun result =>
      result.2.isOpen = (ExitCall.initializeObject strConfig pEventMask o).opens.getD object.isOpen := by
  have hopens : (ExitCall.initializeObject strConfig pEventMask o).opens
      = if !pEventMask ∨ strConfig = .null then none
        else match CHeapBuffer.copy none strConfig o.allocConfig with
          | .ok (hr, _) => if FAILED hr then none else some o.registerEventSource.toBool
          | .error _ => none := rfl
  rw [hopens]
  refine Program.Meets.ite (fun hmask => Program.meets_pure ?_) fun hmask => ?_
  · rw [if_pos (Or.inl hmask)]
    rfl
  refine Program.Meets.ite (fun hnull => Program.meets_pure ?_) fun hnull => ?_
  · rw [if_pos (Or.inr hnull)]
    rfl
  rw [if_neg (not_or.mpr ⟨hmask, hnull⟩)]
  have hcopy : Unseen (Program.lift (object.strConfig.copy strConfig o.allocConfig)) fun result =>
      ∃ copied, CHeapBuffer.copy none strConfig o.allocConfig = .ok (result.1, copied) := by
    refine Program.meets_lift ?_ trivial
    intro result hresult
    have hsame := CHeapBuffer.copy_hr object.strConfig strConfig o.allocConfig
    rw [hresult] at hsame
    cases hfirst : CHeapBuffer.copy none strConfig o.allocConfig with
    | error fault =>
        rw [hfirst] at hsame
        cases hsame
    | ok first =>
        rw [hfirst] at hsame
        exact ⟨first.2, congrArg _ (Prod.ext (Except.ok.inj hsame).symm rfl)⟩
  refine hcopy.bind ?_
  rintro ⟨hr, copied⟩ _ ⟨first, hfirst⟩
  simp only [hfirst]
  refine Program.Meets.ite (fun hfailed => Program.meets_pure ?_) fun hfailed => ?_
  · rw [if_pos hfailed]
    rfl
  rw [if_neg hfailed]
  refine (unseen_openLog _ o.registerEventSource).bind ?_
  rintro ⟨hr, objEventSource⟩ _ hopen
  refine Program.Meets.ite (fun _ => Program.meets_pure hopen) fun _ => ?_
  have hserver : ∀ object : CPMICertExitObject, Unseen (Program.lift (object.readServer o))
      fun result => result.2.objEventSource = object.objEventSource :=
    fun object => Program.meets_lift (fun _ hresult => object.objEventSource_of_readServer hresult) trivial
  refine (hserver _).bind ?_
  rintro ⟨hr, object'⟩ _ hsource
  apply Program.meets_pure
  rw [isOpen, hsource]
  exact hopen

/-- A call on the object is seen to be the call on the exit module. -/
theorem call_cases (call : ExitCall) (state : ModuleState) :
    (object.call call state).2.filterMap ModuleAction.seen
        = (CPMICertExit.callWith object.isOpen call state.files).2 ∧
      ∀ object', (object.call call state).1 = .returned object' →
        (CPMICertExit.callWith object.isOpen call state.files).1 = .returned object'.isOpen := by
  cases call with
  | initializeObject strConfig pEventMask o =>
      have hcall : object.call (.initializeObject strConfig pEventMask o) state
          = ((object.initializeObject strConfig pEventMask o state).1.map Prod.snd,
            (object.initializeObject strConfig pEventMask o state).2) := Program.bind_pure_apply _ _ _
      have hunseen := object.unseen_initializeObject strConfig pEventMask o
      rw [hcall]
      refine ⟨hunseen.seen_eq_nil state, ?_⟩
      intro object' hreturned
      rcases hrun : object.initializeObject strConfig pEventMask o state with ⟨ending, actions⟩
      rw [hrun] at hreturned
      cases ending with
      | returned result =>
          obtain rfl := Ending.returned.inj hreturned
          have hopen := hunseen.of_returned hrun
          rw [hopen]
          rfl
      | faulted fault => cases hreturned
      | running => cases hreturned
  | notify exitEvent context o =>
      have hcall : object.call (.notify exitEvent context o) state
          = ((object.notify exitEvent context o state).1.map fun _ => object,
            (object.notify exitEvent context o state).2) := Program.bind_pure_apply _ _ _
      have hwith : CPMICertExit.callWith object.isOpen (.notify exitEvent context o) state.files
          = ((object.view.notify exitEvent context o state.files).1.map fun _ => object.isOpen,
            (object.view.notify exitEvent context o state.files).2) := Program.bind_pure_apply _ _ _
      rw [hcall, hwith]
      refine ⟨object.objEventSource.seen_embed _, ?_⟩
      intro object' hreturned
      have hending : (object.notify exitEvent context o state).1
          = (object.view.notify exitEvent context o state.files).1 := rfl
      rw [hending] at hreturned
      cases hrun : (object.view.notify exitEvent context o state.files).1 with
      | returned hr =>
          rw [hrun] at hreturned
          obtain rfl := Ending.returned.inj hreturned
          rfl
      | faulted fault =>
          rw [hrun] at hreturned
          cases hreturned
      | running =>
          rw [hrun] at hreturned
          cases hreturned

/-- All these calls return, on the object and on the exit module, and are seen to do the same. -/
structure MakesAll (calls : List ExitCall) (state : ModuleState) (last : CPMICertExitObject)
    (events : List ModuleAction) : Prop where
  makes : Program.each call object calls state = (.returned last, events)
  shows : Program.each CPMICertExit.callWith object.isOpen calls state.files
    = (.returned last.isOpen, events.filterMap ModuleAction.seen)

/-- Of these calls this is the first that does not return. -/
structure StopsAt (calls before : List ExitCall) (stopping : ExitCall) (after : List ExitCall)
    (state : ModuleState) : Prop where
  splits : calls = before ++ stopping :: after
  stops : ∃ last events, Program.each call object before state = (.returned last, events)
    ∧ ∀ object', (last.call stopping (replay state events)).1 ≠ .returned object'

theorem eq_of_stopped {first : ExitCall} {state : ModuleState}
    (hstops : ∀ object', (object.call first state).1 ≠ .returned object') (rest : List ExitCall) :
    Program.each call object (first :: rest) state
      = ((Program.each call object (first :: rest) state).1, (object.call first state).2)
      ∧ ∀ object', (Program.each call object (first :: rest) state).1 ≠ .returned object' := by
  have hcalls : Program.each call object (first :: rest) state
      = (object.call first >>= fun object' => Program.each call object' rest) state := rfl
  rcases hrun : object.call first state with ⟨ending, events⟩
  rw [hrun] at hstops
  cases ending with
  | returned object' => exact absurd rfl (hstops object')
  | faulted fault => simp [hcalls, Program.bind_of_faulted hrun]
  | running => simp [hcalls, Program.bind_of_running hrun]

/-- The calls are seen to be those on the exit module, up to the first that does not return. -/
theorem calls_cases (calls : List ExitCall) (state : ModuleState) :
    (∃ last events, object.MakesAll calls state last events)
      ∨ ∃ before stopping after, object.StopsAt calls before stopping after state
        ∧ (∀ object', (Program.each call object calls state).1 ≠ .returned object')
        ∧ (Program.each call object calls state).2.filterMap ModuleAction.seen
          = (Program.each CPMICertExit.callWith object.isOpen (before ++ [stopping]) state.files).2 := by
  induction calls generalizing object state with
  | nil => exact Or.inl ⟨object, [], rfl, rfl⟩
  | cons first rest ih =>
      obtain ⟨hseen, hwith⟩ := object.call_cases first state
      by_cases hreturns : ∃ object', (object.call first state).1 = .returned object'
      swap
      · have hstops := not_exists.mp hreturns
        obtain ⟨hcalls, hunreturned⟩ := object.eq_of_stopped hstops rest
        have hone : Program.each CPMICertExit.callWith object.isOpen [first] state.files
            = ((CPMICertExit.callWith object.isOpen first state.files).1.map id,
              (CPMICertExit.callWith object.isOpen first state.files).2) := Program.bind_pure_apply _ _ _
        refine Or.inr ⟨[], first, rest, ⟨rfl, object, [], rfl, hstops⟩, hunreturned, ?_⟩
        rw [hcalls, List.nil_append, hone]
        exact hseen
      obtain ⟨object', hobject'⟩ := hreturns
      have hrun : object.call first state = (.returned object', (object.call first state).2) :=
        Prod.ext hobject' rfl
      have hrunWith : CPMICertExit.callWith object.isOpen first state.files
          = (.returned object'.isOpen, (object.call first state).2.filterMap ModuleAction.seen) :=
        Prod.ext (hwith object' hobject') hseen.symm
      generalize (object.call first state).2 = events at hrun hrunWith
      have hcalls : ∀ list, Program.each call object (first :: list) state
          = ((Program.each call object' list (replay state events)).1,
            events ++ (Program.each call object' list (replay state events)).2) :=
        fun list => Program.bind_of_returned hrun
      have hcallsWith : ∀ list, Program.each CPMICertExit.callWith object.isOpen (first :: list) state.files
          = ((Program.each CPMICertExit.callWith object'.isOpen list (replay state events).files).1,
            events.filterMap ModuleAction.seen
              ++ (Program.each CPMICertExit.callWith object'.isOpen list (replay state events).files).2) := by
        intro list
        rw [ModuleAction.files_replay]
        exact Program.bind_of_returned hrunWith
      rcases ih object' (replay state events) with ⟨last, later, hmakes, hshows⟩
        | ⟨before, stopping, after, ⟨hsplits, last, later, hbefore, hstops⟩, hunreturned, hshows⟩
      · refine Or.inl ⟨last, events ++ later, ?_, ?_⟩
        · rw [hcalls, hmakes]
        · rw [hcallsWith, hshows, List.filterMap_append]
      · refine Or.inr ⟨first :: before, stopping, after, ⟨congrArg (first :: ·) hsplits, last,
          events ++ later, ?_, ?_⟩, ?_, ?_⟩
        · rw [hcalls, hbefore]
        · rw [replay_append]
          exact hstops
        · rw [hcalls]
          exact hunreturned
        · rw [hcalls, List.filterMap_append, hshows, List.cons_append, hcallsWith]

theorem life_of_returned {calls : List ExitCall} {state : ModuleState} {last : CPMICertExitObject}
    {events : List ModuleAction} (h : Program.each call {} calls state = (.returned last, events)) :
    (life calls state).1 = .returned ()
      ∧ (life calls state).2.filterMap ModuleAction.seen = events.filterMap ModuleAction.seen := by
  have hlife : life calls state = _ := Program.bind_of_returned h
  have hunseen : Unseen last.objEventSource.destroy fun _ => True :=
    (unseen_close last.objEventSource).bind fun _ _ _ => Program.meets_pure trivial
  have hdestroy : ∀ state', (last.objEventSource.destroy state').1 = .returned () := by
    intro state'
    unfold CEventSourceObject.destroy CEventSourceObject.close
    split <;> rfl
  rw [hlife, List.filterMap_append, hunseen.seen_eq_nil, List.append_nil]
  exact ⟨hdestroy _, rfl⟩

theorem life_of_unreturned {calls : List ExitCall} {state : ModuleState}
    (h : ∀ object, (Program.each call {} calls state).1 ≠ .returned object) :
    (life calls state).1 ≠ .returned ()
      ∧ (life calls state).2 = (Program.each call {} calls state).2 := by
  rcases hrun : Program.each call {} calls state with ⟨ending, events⟩
  rw [hrun] at h
  cases ending with
  | returned object => exact absurd rfl (h object)
  | faulted fault =>
      have hlife : life calls state = _ := Program.bind_of_faulted hrun
      simp [hlife]
  | running =>
      have hlife : life calls state = _ := Program.bind_of_running hrun
      simp [hlife]

/-- **The object refines the exit module.** Over its whole life what the object does, apart from opening
and closing its log, is what the exit module does on the same files, where a notification finds the log
open if the last `Initialize` that got to the event source was given a handle. If a call does not return,
it is the last, and the object does what the exit module does on the calls up to that one. -/
theorem life_refines_exit (calls : List ExitCall) (state : ModuleState) :
    ((life calls state).1 = .returned ()
      ∧ (life calls state).2.filterMap ModuleAction.seen
        = (Program.each CPMICertExit.callWith false calls state.files).2)
    ∨ (life calls state).1 ≠ .returned () ∧ ∃ before stopping after,
      StopsAt {} calls before stopping after state
        ∧ (life calls state).2.filterMap ModuleAction.seen
          = (Program.each CPMICertExit.callWith false (before ++ [stopping]) state.files).2 := by
  rcases calls_cases {} calls state with
    ⟨last, events, hmakes, hshows⟩ | ⟨before, stopping, after, hstops, hunreturned, hshows⟩
  · obtain ⟨hreturned, hseen⟩ := life_of_returned hmakes
    have hwith : (Program.each CPMICertExit.callWith false calls state.files).2
        = events.filterMap ModuleAction.seen := congrArg Prod.snd hshows
    exact Or.inl ⟨hreturned, hseen.trans hwith.symm⟩
  · obtain ⟨hlife, hevents⟩ := life_of_unreturned hunreturned
    refine Or.inr ⟨hlife, before, stopping, after, hstops, ?_⟩
    rw [hevents]
    exact hshows

end CPMICertExitObject

end PmiExitModule
