import PmiExitModule.Proof.HandleView

/-!
# The handles of a notification

Up to the creation of the process a notification owns the handle of its temp file, from then on the two
handles of the process. Whichever way it returns they are closed, so that the next notification finds the
table as the first one did.
-/

namespace PmiExitModule

open Generic

def atMostTwo (own : Finset HANDLE) : Bool := own.card ≤ 2

/-- The monitor of the handles of one owner, who never has more than two. -/
def handleMonitor (others : Finset HANDLE) : Monitor HandleAction HandleState (Finset HANDLE) :=
  (Monitor.ofUses HandleAction.uses others HandleState.handles fun _ _ => rfl).within atMostTwo

section Handles

variable {others own own' : Finset HANDLE} {stop : Finset HANDLE → Prop}

theorem card_empty_le : (∅ : Finset HANDLE).card ≤ 2 := Nat.zero_le 2

theorem step_of_uses {event : HandleAction} (h : monitor (Use.next others) own event.uses = some own')
    (hcard : own'.card ≤ 2) : (handleMonitor others).step own event = some own' :=
  Monitor.within_step h (decide_eq_true hcard)

theorem meets_quiet {α : Type} {program : Prog α} (h : Quiet program) (hcard : own.card ≤ 2)
    (hstop : stop own) :
    (onHandles program).Meets (handleMonitor others) own (fun _ own' => own' = own) stop := by
  refine Program.meets_along ?_ (fun _ => rfl) hstop
  intro state _ action hmem
  apply step_of_uses _ hcard
  rw [(h state.files).1 action hmem]
  rfl

end Handles

/-- In a run on this table the handles of the others stay what they are, and at most two further handles
are in use at a time, each worked on and closed only while it is. Where the run returns it has closed them
all, as often as it got them. -/
structure ReturnsHandles {α : Type} (state : HandleState) (run : Ending Fault α × List HandleAction) :
    Prop where
  holds : ∀ before, before <+: run.2 → ∃ own,
    monitor (usesStep HandleAction.uses state.handles) ∅ before = some own ∧ own.card ≤ 2
      ∧ (replay state before).handles = state.handles ∪ own ∧ Disjoint state.handles own
  returned : ∀ value, run.1 = .returned value → (replay state run.2).handles = state.handles
    ∧ ∀ h, (run.2.flatMap HandleAction.uses).count (.acquire h)
      = (run.2.flatMap HandleAction.uses).count (.release h)

theorem returnsHandles_of_meets {α : Type} {program : HandleProg α} {state : HandleState}
    (h : program.Meets (handleMonitor state.handles) ∅ (fun _ own => own = ∅) fun _ => True) :
    ReturnsHandles state (program state) := by
  have hempty : atMostTwo ∅ = true := decide_eq_true card_empty_le
  obtain ⟨last, hmonitor, hends⟩ := h state
    ⟨(Finset.union_empty state.handles).symm, Finset.disjoint_empty_right state.handles⟩
  have hholds : ∀ before, before <+: (program state).2 → ∃ own,
      monitor (usesStep HandleAction.uses state.handles) ∅ before = some own ∧ atMostTwo own
        ∧ (replay state before).handles = state.handles ∪ own ∧ Disjoint state.handles own :=
    fun before hbefore => Monitor.holds_of_within hempty rfl hmonitor hbefore
  constructor
  · intro before hbefore
    obtain ⟨own, hused, hcard, hknows⟩ := hholds before hbefore
    exact ⟨own, hused, of_decide_eq_true hcard, hknows⟩
  · intro value hreturned
    rw [hreturned] at hends
    obtain rfl : last = ∅ := hends
    have hused := (Monitor.monitor_of_within hempty hmonitor).1
    obtain ⟨own, hown, -, hhandles, -⟩ := hholds _ (List.prefix_refl _)
    obtain rfl : own = ∅ := Option.some.inj (hown.symm.trans hused)
    exact ⟨hhandles.trans (Finset.union_empty state.handles), count_acquire_eq_count_release hused⟩

/-! ### The temp file -/

/-- The monitor as the parts of a notification see it that are on no handle of a process. -/
def fileMonitor (others : Finset HANDLE) : Monitor Action FileSystem (Finset HANDLE) :=
  .ofStep fun own action => (handleMonitor others).step own (.act action)

theorem meets_onHandles {α : Type} {others own : Finset HANDLE} {post : α → Finset HANDLE → Prop}
    {stop : Finset HANDLE → Prop} {program : Prog α} (h : program.Meets (fileMonitor others) own post stop) :
    (onHandles program).Meets (handleMonitor others) own post stop := Program.Meets.along h

theorem meets_act {others own own' : Finset HANDLE} {stop : Finset HANDLE → Prop} {action : Action}
    (h : monitor (Use.next others) own (HandleAction.act action).uses = some own') (hcard : own'.card ≤ 2) :
    (Program.emit action : Prog Unit).Meets (fileMonitor others) own (fun _ own'' => own'' = own') stop :=
  Program.meets_emit (step_of_uses h hcard) rfl

namespace CTempFile

/-- The handles of the file. -/
def handles (file : CTempFile) : Finset HANDLE :=
  match file.hFile with
  | none => ∅
  | some openFile => {openFile.handle}

variable {others : Finset HANDLE} (file : CTempFile)

theorem meets_close : file.close.Meets (fileMonitor others) file.handles
    (fun closed own => closed.hFile = none ∧ own = ∅) fun _ => True := by
  unfold close handles
  cases hfile : file.hFile with
  | none => exact Program.meets_pure ⟨hfile, rfl⟩
  | some openFile =>
      have hrelease : (Program.emit (.closeHandle openFile.handle) : Prog Unit).Meets (fileMonitor others)
          {openFile.handle} (fun _ own => own = ∅) fun _ => True := by
        refine meets_act ?_ card_empty_le
        change (Use.next others _ (.release openFile.handle)).bind _ = _
        rw [Use.next_release (Finset.mem_singleton_self _), Finset.erase_singleton]
        rfl
      refine hrelease.bind ?_
      rintro _ _ rfl
      exact Program.meets_pure ⟨rfl, rfl⟩

theorem meets_create (pwszPath : LPCWSTR) (o : CreateFileOutcomes)
    (hfresh : ∀ hFile, o.createFile = .ok hFile → hFile ∉ others) :
    (create {} pwszPath o).Meets (fileMonitor others) ∅ (fun result own => own = result.2.handles)
      fun _ => True := by
  refine Program.Meets.ite (fun _ => Program.meets_pure rfl) fun _ => ?_
  refine (meets_close {}).bind ?_
  rintro closed _ ⟨hclosed, rfl⟩
  have hnone : ∀ strPath, ∅ = handles { closed with strPath := strPath } := by
    intro strPath
    unfold handles
    rw [hclosed]
  have hlength : (Program.lift (pathLength pwszPath) : Prog _).Meets (fileMonitor others) ∅
      (fun _ own => own = ∅) fun _ => True := Program.meets_lift (fun _ _ => rfl) trivial
  refine hlength.bind ?_
  rintro ⟨hr, cch⟩ _ rfl
  refine Program.Meets.ite (fun _ => Program.meets_pure (hnone _)) fun _ => ?_
  cases heapAlloc o.allocPath (cch + 1) with
  | none => exact Program.meets_pure (hnone _)
  | some cells =>
      have hcopy : (Program.lift (stringCchCopyW cells pwszPath) : Prog _).Meets (fileMonitor others) ∅
          (fun _ own => own = ∅) fun _ => True := Program.meets_lift (fun _ _ => rfl) trivial
      refine hcopy.bind ?_
      rintro ⟨hr, cells⟩ _ rfl
      refine Program.Meets.ite (fun _ => Program.meets_pure (hnone _)) fun _ => ?_
      have hpath : (Program.lift (derefString pwszPath) : Prog _).Meets (fileMonitor others) ∅
          (fun _ own => own = ∅) fun _ => True := Program.meets_lift (fun _ _ => rfl) trivial
      refine hpath.bind ?_
      rintro path _ rfl
      cases hcreate : o.createFile with
      | error e => exact Program.meets_pure (hnone _)
      | ok hFile =>
          have hacquire : (Program.emit (.createFile path hFile) : Prog Unit).Meets (fileMonitor others) ∅
              (fun _ own => own = {hFile}) fun _ => True := by
            refine meets_act ?_ ?_
            · change (Use.next others ∅ (.acquire hFile)).bind _ = _
              rw [Use.next_acquire (hfresh hFile hcreate) (Finset.notMem_empty hFile)]
              rfl
            · exact (Finset.card_singleton hFile).le.trans one_le_two
          refine hacquire.bind ?_
          rintro _ _ rfl
          exact Program.meets_pure rfl

theorem meets_write (buf : List BYTE) (cbIndex cbCount : Nat) (o : WriteOutcome) :
    (file.write buf cbIndex cbCount o).Meets (fileMonitor others) file.handles
      (fun _ own => own = file.handles) fun _ => True := by
  unfold write
  unfold handles
  cases file.hFile with
  | none => exact Program.meets_pure rfl
  | some openFile =>
      have hcard : ({openFile.handle} : Finset HANDLE).card ≤ 2 :=
        (Finset.card_singleton openFile.handle).le.trans one_le_two
      have hemploy : ∀ bytes, (Program.emit (.writeFile openFile.handle openFile.path bytes) :
          Prog Unit).Meets (fileMonitor others) {openFile.handle} (fun _ own => own = {openFile.handle})
          fun _ => True := by
        intro bytes
        refine meets_act ?_ hcard
        change (Use.next others _ (.employ openFile.handle)).bind _ = _
        rw [Use.next_employ (Finset.mem_singleton_self _)]
        rfl
      cases o with
      | error e =>
          refine (hemploy _).bind ?_
          rintro _ _ rfl
          exact Program.meets_pure rfl
      | ok nBytesWritten =>
          refine (hemploy _).bind ?_
          rintro _ _ rfl
          exact Program.meets_pure rfl

theorem meets_destroy (deleted : Bool) : (file.destroy deleted).Meets (fileMonitor others) file.handles
    (fun _ own => own = ∅) fun _ => True := by
  refine file.meets_close.bind ?_
  rintro closed _ ⟨-, rfl⟩
  refine Program.Meets.ite (fun _ => Program.meets_pure rfl) fun _ => ?_
  refine Program.Meets.ite (fun _ => ?_) fun _ => Program.meets_pure rfl
  have hpath : (Program.lift (derefString closed.strPath.get) : Prog _).Meets (fileMonitor others) ∅
      (fun _ own => own = ∅) fun _ => True := Program.meets_lift (fun _ _ => rfl) trivial
  refine hpath.bind ?_
  rintro path _ rfl
  exact meets_act rfl card_empty_le

end CTempFile

theorem CEventProcessor.meets_writeLoop {others : Finset HANDLE} (objTempFile : CTempFile)
    (bufRawCert : List BYTE) (cbTotal : Nat) (outcomes : List WriteOutcome) :
    (writeLoop objTempFile bufRawCert cbTotal outcomes).Meets (fileMonitor others) objTempFile.handles
      (fun _ own => own = objTempFile.handles) fun _ => True := by
  induction outcomes generalizing cbTotal with
  | nil =>
      refine Program.Meets.ite (fun _ => ?_) fun _ => Program.meets_pure rfl
      intro state _
      exact ⟨_, rfl, trivial⟩
  | cons outcome outcomes ih =>
      refine Program.Meets.ite (fun _ => ?_) fun _ => Program.meets_pure rfl
      refine (objTempFile.meets_write _ _ _ _).bind ?_
      rintro ⟨hr, cbWritten⟩ _ rfl
      exact Program.Meets.ite (fun _ => Program.meets_pure rfl) fun _ => ih _

/-! ### The process -/

namespace CProcessObject

/-- The process information holds the two handles of a process, or none. -/
inductive Holds (proc : CProcessObject) : Finset HANDLE → Prop where
  | none (hProcess : ¬ IsHandle proc.hProcess) (hThread : ¬ IsHandle proc.hThread) : Holds proc ∅
  | both (hProcess : IsHandle proc.hProcess) (hThread : IsHandle proc.hThread)
      (hne : proc.hThread ≠ proc.hProcess) : Holds proc {proc.hThread, proc.hProcess}

variable {others own : Finset HANDLE} {stop : Finset HANDLE → Prop} {proc : CProcessObject}

theorem not_isHandle_null : ¬ IsHandle NULL := fun h => h.1 rfl

theorem not_isHandle_invalid : ¬ IsHandle INVALID_HANDLE_VALUE := fun h => h.2 rfl

theorem Holds.card_le (h : proc.Holds own) : own.card ≤ 2 := by
  cases h with
  | none => exact card_empty_le
  | both => exact Finset.card_le_two

theorem Holds.eq_empty (h : proc.Holds own) (hinvalid : proc.hProcess = INVALID_HANDLE_VALUE) : own = ∅ := by
  cases h with
  | none => rfl
  | both hProcess => exact absurd (hinvalid ▸ hProcess) not_isHandle_invalid

theorem holds_new : Holds {} ∅ := .none not_isHandle_invalid not_isHandle_invalid

theorem Holds.withCmdLine (h : proc.Holds own) (bufCmdLine : CHeapBuffer WCHAR) :
    Holds { proc with bufCmdLine := bufCmdLine } own := by
  cases h with
  | none hProcess hThread => exact .none hProcess hThread
  | both hProcess hThread hne => exact .both hProcess hThread hne

theorem Holds.afterFailure (h : proc.Holds ∅) (clears : Bool) : (proc.afterFailure clears).Holds ∅ := by
  cases clears with
  | true => exact .none not_isHandle_null not_isHandle_null
  | false => exact h

theorem meets_createProcessW {commandLine : LPCWSTR} {hProcess hThread : HANDLE}
    (hprocess : hProcess ∉ others) (hthread : hThread ∉ others) (hne : hThread ≠ hProcess) :
    (Program.emit (.createProcessW commandLine hProcess hThread) : HandleProg Unit).Meets
      (handleMonitor others) ∅ (fun _ own' => own' = {hThread, hProcess}) stop := by
  refine Program.meets_emit (step_of_uses ?_ Finset.card_le_two) rfl
  have hthread' : hThread ∉ insert hProcess (∅ : Finset HANDLE) := by
    simpa using hne
  change (Use.next others ∅ (.acquire hProcess)).bind _ = _
  rw [Use.next_acquire hprocess (Finset.notMem_empty hProcess), Option.bind_some]
  change (Use.next others (insert hProcess ∅) (.acquire hThread)).bind _ = _
  rw [Use.next_acquire hthread hthread']
  rfl

theorem meets_create (pwszApplicationName : LPCWSTR) (bufArguments : List LPCWSTR) (o : ProcessOutcomes)
    (handles : ProcessHandles) (h : proc.Holds own) :
    (proc.create pwszApplicationName bufArguments o handles).Meets (handleMonitor others) own
      (fun result own' => result.2.Holds own') fun _ => True := by
  refine Program.Meets.ite (fun _ => Program.meets_pure h) fun hinvalid => ?_
  cases heapAlloc o.allocCmdLine CProcess.g_cchMaxCommandLine with
  | none => exact Program.meets_pure h
  | some cells =>
      have hinvalid' : proc.hProcess = INVALID_HANDLE_VALUE := not_not.mp hinvalid
      obtain rfl := h.eq_empty hinvalid'
      have hformat : (Program.lift (CProcess.formatCommandLine pwszApplicationName bufArguments cells) :
          HandleProg _).Meets (handleMonitor others) ∅ (fun _ own' => own' = ∅) fun _ => True :=
        Program.meets_lift (fun _ _ => rfl) trivial
      refine hformat.bind ?_
      rintro ⟨hr, cells⟩ _ rfl
      have hsame : ∀ bufCmdLine, Holds { proc with bufCmdLine := bufCmdLine } ∅ := fun _ => h.withCmdLine _
      refine Program.Meets.ite (fun _ => Program.meets_pure (hsame _)) fun _ => ?_
      cases o.createProcess with
      | error e =>
          have hfail : (Program.emit (.act (.createProcess (getCommandLine
              { proc with bufCmdLine := some cells }) false)) : HandleProg Unit).Meets
              (handleMonitor others) ∅ (fun _ own' => own' = ∅) fun _ => True :=
            Program.meets_emit (step_of_uses rfl card_empty_le) rfl
          refine hfail.bind ?_
          rintro _ _ rfl
          exact Program.meets_pure ((hsame _).afterFailure _)
      | ok info =>
          have hread : (Program.read : HandleProg HandleState).Meets (handleMonitor others) ∅
              (fun state own' => own' = ∅ ∧ state.handles = others) fun _ => True :=
            Program.meets_read fun state hknows => ⟨rfl, hknows.1.trans (Finset.union_empty others)⟩
          refine hread.bind ?_
          rintro state _ ⟨rfl, rfl⟩
          have hprocess := handles.hProcess.fresh state.handles
          have hthread := handles.hThread.fresh (insert (handles.hProcess.next state.handles) state.handles)
          rw [Finset.mem_insert, not_or] at hthread
          refine (meets_createProcessW hprocess hthread.2 hthread.1).bind ?_
          rintro _ _ rfl
          exact Program.meets_pure (.both (handles.hProcess.valid _) (handles.hThread.valid _) hthread.1)

theorem meets_useHandle {event : HandleAction} {handle : HANDLE} (h : proc.Holds own)
    (huses : event.uses = useOf handle (.employ handle)) (hown : handle = proc.hProcess) :
    (Program.emit event : HandleProg Unit).Meets (handleMonitor others) own (fun _ own' => own' = own)
      stop := by
  refine Program.meets_emit (step_of_uses ?_ h.card_le) rfl
  subst hown
  rw [huses, useOf]
  cases h with
  | none hProcess hThread =>
      rw [if_neg hProcess]
      rfl
  | both hProcess hThread hne =>
      rw [if_pos hProcess]
      change (Use.next others _ (.employ proc.hProcess)).bind _ = _
      rw [Use.next_employ (Finset.mem_insert_of_mem (Finset.mem_singleton_self _))]
      rfl

theorem meets_wait (o : ProcessOutcomes) (h : proc.Holds own) :
    (proc.wait o).Meets (handleMonitor others) own (fun _ own' => own' = own) stop := by
  refine (meets_useHandle h rfl rfl).bind ?_
  rintro _ _ rfl
  exact Program.meets_pure rfl

theorem meets_getExitCode (dwExitCode : DWORD) (o : ProcessOutcomes) (h : proc.Holds own) :
    (proc.getExitCode dwExitCode o).Meets (handleMonitor others) own (fun _ own' => own' = own) stop := by
  unfold getExitCode
  cases o.getExitCodeProcess with
  | error e =>
      refine (meets_useHandle h rfl rfl).bind ?_
      rintro _ _ rfl
      exact Program.meets_pure rfl
  | ok code =>
      refine (meets_useHandle h rfl rfl).bind ?_
      rintro _ _ rfl
      exact Program.meets_pure rfl

theorem meets_closeUnlessInvalid {hObject : HANDLE} (hown : hObject ∈ own ↔ IsHandle hObject)
    (hcard : own.card ≤ 2) :
    (closeUnlessInvalid hObject).Meets (handleMonitor others) own
      (fun _ own' => own' = own.erase hObject) stop := by
  refine Program.Meets.ite (fun _ => ?_) fun hinvalid => ?_
  · refine Program.meets_emit (step_of_uses ?_ ((Finset.card_erase_le).trans hcard)) rfl
    change monitor _ own (useOf hObject (.release hObject)) = _
    by_cases hvalid : IsHandle hObject
    · rw [useOf, if_pos hvalid]
      change (Use.next others own (.release hObject)).bind _ = _
      rw [Use.next_release (hown.mpr hvalid)]
      rfl
    · rw [useOf, if_neg hvalid, Finset.erase_eq_of_notMem (mt hown.mp hvalid)]
      rfl
  · have hnot : ¬ IsHandle hObject := fun hvalid => hinvalid hvalid.2
    exact Program.meets_pure (Finset.erase_eq_of_notMem (mt hown.mp hnot)).symm

theorem meets_destroy (h : proc.Holds own) :
    proc.destroy.Meets (handleMonitor others) own (fun _ own' => own' = ∅) stop := by
  cases h with
  | none hProcess hThread =>
      have hnone : ∀ {hObject : HANDLE}, ¬ IsHandle hObject →
          (hObject ∈ (∅ : Finset HANDLE) ↔ IsHandle hObject) :=
        fun hObject => iff_of_false (Finset.notMem_empty _) hObject
      refine (meets_closeUnlessInvalid (hnone hProcess) card_empty_le).bind ?_
      rintro _ _ rfl
      rw [Finset.erase_empty]
      exact meets_closeUnlessInvalid (hnone hThread) card_empty_le
  | both hProcess hThread hne =>
      have hfirst : proc.hProcess ∈ ({proc.hThread, proc.hProcess} : Finset HANDLE)
          ↔ IsHandle proc.hProcess :=
        iff_of_true (Finset.mem_insert_of_mem (Finset.mem_singleton_self _)) hProcess
      have hrest : ({proc.hThread, proc.hProcess} : Finset HANDLE).erase proc.hProcess = {proc.hThread} := by
        rw [Finset.pair_comm]
        exact Finset.erase_insert (by simpa using hne.symm)
      have hlast : proc.hThread ∈ ({proc.hThread} : Finset HANDLE) ↔ IsHandle proc.hThread :=
        iff_of_true (Finset.mem_singleton_self _) hThread
      refine (meets_closeUnlessInvalid hfirst Finset.card_le_two).bind ?_
      rintro _ _ rfl
      rw [hrest, ← Finset.erase_singleton proc.hThread]
      exact meets_closeUnlessInvalid hlast ((Finset.card_singleton _).le.trans one_le_two)

end CProcessObject

/-! ### A notification -/

namespace CEventProcessor

variable {others : Finset HANDLE} (processor : CEventProcessor)

theorem meets_report {own : Finset HANDLE} (hcard : own.card ≤ 2) (source : CEventSource)
    (wType : EventType) (id : EventId) (args : List CEventArg) (o : EventOutcomes) :
    (onHandles (source.report wType id args o)).Meets (handleMonitor others) own
      (fun _ own' => own' = own) fun _ => True := meets_quiet (quiet_report source wType id args o) hcard trivial

theorem meets_watchProcess {objProc : CProcessObject} {own : Finset HANDLE} (h : objProc.Holds own)
    (pwszTempFile : LPCWSTR) (dwExitCode : DWORD) (o : ProcessOutcomes) (events : EventId → EventOutcomes) :
    (processor.watchProcessObject objProc pwszTempFile dwExitCode o events).Meets (handleMonitor others) own
      (fun _ own' => own' = own) fun _ => True := by
  refine (meets_report h.card_le _ _ _ _ _).bind ?_
  rintro _ _ rfl
  refine (CProcessObject.meets_wait o h).bind ?_
  rintro hr _ rfl
  refine Program.Meets.ite (fun _ => ?_) fun _ => ?_
  · refine Program.Meets.ite (fun _ => ?_) fun _ => Program.meets_pure rfl
    refine (meets_report h.card_le _ _ _ _ _).bind ?_
    rintro _ _ rfl
    exact Program.meets_pure rfl
  refine (CProcessObject.meets_getExitCode dwExitCode o h).bind ?_
  rintro ⟨hr, dwExitCode⟩ _ rfl
  refine Program.Meets.ite (fun _ => Program.meets_pure rfl) fun _ => ?_
  refine Program.Meets.ite (fun _ => ?_) fun _ => ?_
  · refine (meets_report h.card_le _ _ _ _ _).bind ?_
    rintro _ _ rfl
    exact Program.meets_pure rfl
  · refine (meets_report h.card_le _ _ _ _ _).bind ?_
    rintro _ _ rfl
    exact Program.meets_pure rfl

theorem meets_runProcess (bufArgs : List LPCWSTR) (pwszTempFile : LPCWSTR) (dwExitCode : DWORD)
    (o : ProcessOutcomes) (handles : ProcessHandles) (events : EventId → EventOutcomes) :
    (processor.runProcessOnHandles bufArgs pwszTempFile dwExitCode o handles events).Meets
      (handleMonitor others) ∅ (fun _ own => own = ∅) fun _ => True := by
  have hbody : (processor.runProcessObject bufArgs pwszTempFile dwExitCode o handles events).Meets
      (handleMonitor others) ∅ (fun result own => result.2.Holds own) fun _ => True := by
    refine Program.Meets.ite (fun _ => Program.meets_pure CProcessObject.holds_new) fun _ => ?_
    refine (CProcessObject.meets_create _ _ o handles CProcessObject.holds_new).bind ?_
    rintro ⟨hr, objProc⟩ own hholds
    refine Program.Meets.ite (fun _ => ?_) fun _ => ?_
    · refine (meets_report hholds.card_le _ _ _ _ _).bind ?_
      rintro _ _ rfl
      exact Program.meets_pure hholds
    · refine (processor.meets_watchProcess hholds _ _ _ _).bind ?_
      rintro result _ rfl
      exact Program.meets_pure hholds
  refine hbody.bind ?_
  rintro ⟨result, objProc⟩ own hholds
  refine (CProcessObject.meets_destroy hholds).bind ?_
  rintro _ _ rfl
  exact Program.meets_pure rfl

variable (pwszSubjectKeyIdentifier pwszSerialNumber : LPCWSTR) (o : HandleOutcomes)

theorem meets_launch (pwszTempFile : LPCWSTR) {objTempFile : CTempFile} (hclosed : objTempFile.hFile = none) :
    (processor.launchOnHandles pwszSubjectKeyIdentifier pwszSerialNumber pwszTempFile o objTempFile).Meets
      (handleMonitor others) ∅ (fun result own => own = result.2.handles) fun _ => True := by
  have hnone : ∀ file : CTempFile, file.hFile = none → ∅ = file.handles := by
    intro file hfile
    unfold CTempFile.handles
    rw [hfile]
  have hescape : (Program.lift (processor.escapeArguments pwszSubjectKeyIdentifier pwszTempFile o.processor) :
      HandleProg _).Meets (handleMonitor others) ∅ (fun _ own => own = ∅) fun _ => True :=
    Program.meets_lift (fun _ _ => rfl) trivial
  refine hescape.bind ?_
  rintro ⟨hr, pwszEscSubjectKeyIdentifier, pwszEscTempFile⟩ _ rfl
  refine Program.Meets.ite (fun _ => Program.meets_pure (hnone _ hclosed)) fun _ => ?_
  refine Program.Meets.ite (fun _ => Program.meets_pure (hnone _ hclosed)) fun _ => ?_
  have harguments : (Program.lift processor.objConfig.getArguments : HandleProg _).Meets
      (handleMonitor others) ∅ (fun _ own => own = ∅) fun _ => True :=
    Program.meets_lift (fun _ _ => rfl) trivial
  refine harguments.bind ?_
  rintro bufBaseArgs _ rfl
  refine (processor.meets_runProcess _ _ _ _ _ _).bind ?_
  rintro ⟨hr, dwExitCode⟩ _ rfl
  refine Program.Meets.ite (fun _ => ?_) fun _ => ?_
  · exact Program.meets_pure (hnone _ hclosed)
  · exact Program.meets_pure (hnone _ hclosed)

theorem meets_writeAndLaunch (bufRawCert : List BYTE) :
    (processor.writeAndLaunchOnHandles pwszSubjectKeyIdentifier pwszSerialNumber bufRawCert o).Meets
      (handleMonitor others) ∅ (fun result own => own = result.2.handles) fun _ => True := by
  refine (meets_quiet (quiet_getTempFilePath o.processor) card_empty_le trivial).bind ?_
  rintro ⟨hr, strTempFile⟩ _ rfl
  refine Program.Meets.ite (fun _ => Program.meets_pure rfl) fun _ => ?_
  have hread : (Program.read : HandleProg HandleState).Meets (handleMonitor others) ∅
      (fun state own => own = ∅ ∧ state.handles = others) fun _ => True :=
    Program.meets_read fun state hknows => ⟨rfl, hknows.1.trans (Finset.union_empty others)⟩
  refine hread.bind ?_
  rintro state _ ⟨rfl, rfl⟩
  have hfresh : ∀ hFile, (o.onTable state.handles).tempFile.createFile = .ok hFile →
      hFile ∉ state.handles := by
    intro hFile hcreate
    change o.processor.tempFile.createFile.map (fun _ => o.hFile.next state.handles) = .ok hFile at hcreate
    cases hanswer : o.processor.tempFile.createFile with
    | error e =>
        rw [hanswer] at hcreate
        cases hcreate
    | ok handle =>
        rw [hanswer] at hcreate
        obtain rfl := Except.ok.inj hcreate
        exact o.hFile.fresh state.handles
  refine (meets_onHandles (CTempFile.meets_create _ _ hfresh)).bind ?_
  rintro ⟨hr, objTempFile⟩ _ rfl
  refine Program.Meets.ite (fun _ => Program.meets_pure rfl) fun _ => ?_
  refine (meets_onHandles (meets_writeLoop objTempFile _ _ _)).bind ?_
  rintro ⟨hr, cbTotal⟩ _ rfl
  refine Program.Meets.ite (fun _ => Program.meets_pure rfl) fun _ => ?_
  refine (meets_onHandles objTempFile.meets_close).bind ?_
  rintro closed _ ⟨hclosed, rfl⟩
  exact processor.meets_launch _ _ o _ hclosed

theorem meets_notifyCertIssued (bufRawCert : List BYTE) :
    (processor.notifyCertIssuedOnHandles pwszSubjectKeyIdentifier pwszSerialNumber bufRawCert o).Meets
      (handleMonitor others) ∅ (fun _ own => own = ∅) fun _ => True := by
  refine (processor.meets_writeAndLaunch _ _ o bufRawCert).bind ?_
  rintro ⟨hr, objTempFile⟩ _ rfl
  refine (meets_onHandles (objTempFile.meets_destroy _)).bind ?_
  rintro _ _ rfl
  exact Program.meets_pure rfl

end CEventProcessor

namespace CPMICertExit

variable {others : Finset HANDLE} (exit : CPMICertExit)

theorem meets_dispatchOnHandles (call : HandleNotification) : (exit.dispatchOnHandles call).Meets
    (handleMonitor others) ∅ (fun _ own => own = ∅) fun _ => True := by
  refine Program.Meets.ite (fun _ => ?_) fun hother => ?_
  · unfold notifyCertIssuedOnHandles
    refine Program.Meets.ite (fun _ => Program.meets_pure rfl) fun _ => ?_
    have hread : (Program.lift (exit.readIssuedCertificate
        (CCertServerExit.init call.context call.server).2 call.outcomes) : HandleProg _).Meets
        (handleMonitor others) ∅ (fun _ own => own = ∅) fun _ => True :=
      Program.meets_lift (fun _ _ => rfl) trivial
    refine hread.bind ?_
    rintro (hr | cert) _ rfl
    · exact Program.meets_pure rfl
    · exact cert.objEventProcessor.meets_notifyCertIssued _ _ _ _
  · exact meets_quiet (exit.quiet_dispatch hother _ _) card_empty_le trivial

theorem meets_notifyOnHandles (call : HandleNotification) : (exit.notifyOnHandles call).Meets
    (handleMonitor others) ∅ (fun _ own => own = ∅) fun _ => True := by
  refine (exit.meets_dispatchOnHandles call).bind ?_
  rintro hr _ rfl
  refine Program.Meets.ite (fun _ => ?_) fun _ => Program.meets_pure rfl
  refine (CEventProcessor.meets_report card_empty_le _ _ _ _ _).bind ?_
  rintro _ _ rfl
  exact Program.meets_pure rfl

theorem meets_serveOnHandles (calls : List HandleNotification) : (exit.serveOnHandles calls).Meets
    (handleMonitor others) ∅ (fun _ own => own = ∅) fun _ => True := by
  have hstep : ∀ (_ : Unit) (call : HandleNotification) (own : Finset HANDLE), own = ∅ →
      (exit.notifyOnHandles call >>= fun _ => pure () : HandleProg Unit).Meets (handleMonitor others) own
        (fun _ own' => own' = ∅) fun _ => True := by
    rintro _ call _ rfl
    refine (exit.meets_notifyOnHandles call).bind ?_
    rintro hr _ rfl
    exact Program.meets_pure rfl
  exact Program.Meets.each hstep rfl calls

/-- **A notification returns its handles**, over any list of notifications and whatever the calls behind
them answer. -/
theorem notifications_return_handles (calls : List HandleNotification) (state : HandleState) :
    ReturnsHandles state (exit.serveOnHandles calls state) :=
  returnsHandles_of_meets (exit.meets_serveOnHandles calls)

theorem showsAt_serve (calls : List HandleNotification) (state : HandleState) :
    Program.ShowsAt handleView (· = ·) (exit.serveOnHandles calls)
      (exit.serve (calls.map (·.notifyCall state.handles))) state := by
  induction calls generalizing state with
  | nil => exact Program.shows_pure rfl _
  | cons call calls ih =>
      have hfirst : Program.ShowsAt handleView (· = ·)
          (exit.notifyOnHandles call >>= fun _ => pure () : HandleProg Unit)
          (exit.notifyCall (call.notifyCall state.handles) >>= fun _ => pure ()) state := by
        refine (exit.showsAt_notify call state).bind ?_
        rintro hr _ - rfl
        exact Program.shows_pure rfl _
      refine hfirst.bind ?_
      rintro _ _ hreturned -
      -- the next notification finds the table as this one did
      have hmeets : (exit.notifyOnHandles call >>= fun _ => pure () : HandleProg Unit).Meets
          (handleMonitor state.handles) ∅ (fun _ own => own = ∅) fun _ => True := by
        refine (exit.meets_notifyOnHandles call).bind ?_
        rintro hr _ rfl
        exact Program.meets_pure rfl
      have hsame := ((returnsHandles_of_meets hmeets).returned _ hreturned).1
      rw [← hsame]
      exact ih _

/-- **Notifications on the handle table refine the notifications.** -/
theorem serveOnHandles_refines (calls : List HandleNotification) (state : HandleState) :
    (exit.serveOnHandles calls state).2.filterMap HandleAction.seen
        = (exit.serve (calls.map (·.notifyCall state.handles)) state.files).2
      ∧ (exit.serveOnHandles calls state).1
        = (exit.serve (calls.map (·.notifyCall state.handles)) state.files).1 := by
  obtain ⟨hevents, hending⟩ := exit.showsAt_serve calls state
  exact ⟨hevents, hending.eq⟩

end CPMICertExit

end PmiExitModule
