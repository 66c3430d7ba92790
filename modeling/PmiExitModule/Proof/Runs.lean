import PmiExitModule.Proof.CommandLine
import PmiExitModule.Proof.EventReport
import PmiExitModule.Proof.Preparation

/-!
# The runs of the event processor

What one notification of an issued certificate can do, said once: the runs of `RunProcess` and those of
`NotifyCertIssued` around it, as inductive relations between the way a call ends and the actions it
caused. Every invariant of the module is read off these runs by cases.
-/

namespace PmiExitModule

open Generic

/-- A report was made, and it ended so with these calls. -/
def Made (report : Prog Unit) (ending : Ending Fault Unit) (calls : List Action) : Prop :=
  ∃ files, report files = (ending, calls)

/-- A process was seen to end, and its exit code was 0. -/
def Exits (actions : List Action) : Prop :=
  .waitForSingleObject CProcess.WAIT_OBJECT_0 ∈ actions ∧ .getExitCodeProcess 0 ∈ actions

theorem Exits.mono {actions actions' : List Action} (h : Exits actions) (hsub : actions ⊆ actions') :
    Exits actions' :=
  ⟨hsub h.1, hsub h.2⟩

/-- What a report leaves: at most one `ReportEventW` call, on the strings of its arguments. -/
theorem eq_of_mem_of_made {source : CEventSource} {wType : EventType} {id : EventId}
    {args : List CEventArg} {o : EventOutcomes} {ending : Ending Fault Unit} {calls : List Action}
    (h : Made (source.report wType id args o) ending calls) {action : Action}
    (hmem : action ∈ calls) : ∃ accepted, action = .reportEvent
      ⟨wType, GENERAL_CATEGORY, id, args.map fun arg => (arg.format o).2⟩ accepted := by
  obtain ⟨files, hrun⟩ := h
  rcases source.report_cases wType id args o files with hcase | hcase | ⟨accepted, hcase⟩
  · obtain ⟨-, rfl⟩ := Prod.mk.inj (hrun.symm.trans hcase)
    cases hmem
  · obtain ⟨-, rfl⟩ := Prod.mk.inj (hrun.symm.trans hcase)
    cases hmem
  · obtain ⟨-, rfl⟩ := Prod.mk.inj (hrun.symm.trans hcase)
    exact ⟨accepted, List.mem_singleton.mp hmem⟩

namespace CEventProcessor

section ProcessRun

variable (processor : CEventProcessor) (bufArgs : List LPCWSTR) (pwszTempFile : LPCWSTR)
  (o : ProcessOutcomes) (events : EventId → EventOutcomes)

def Creates (proc : CProcess) : Prop :=
  ∃ files, CProcess.create {} processor.objConfig.getExePath bufArgs o files
    = (.returned (S_OK, proc), [.createProcess proc.getCommandLine true])

def ReportsStart (proc : CProcess) (ending : Ending Fault Unit) (calls : List Action) : Prop :=
  Made (processor.objEventSource.reportProcessStartSucceeded processor.objConfig.getExePath
    proc.getCommandLine proc.getProcessID proc.getThreadID (events .MSG_PROCESS_START_SUCCEEDED))
    ending calls

def ReportsExit (proc : CProcess) (dwExitCode : DWORD) (ending : Ending Fault Unit)
    (calls : List Action) : Prop :=
  Made (if dwExitCode ≠ 0 then
      processor.objEventSource.reportProcessFailed proc.getProcessID proc.getThreadID dwExitCode
        pwszTempFile (events .MSG_PROCESS_FAILED)
    else
      processor.objEventSource.reportProcessSucceeded proc.getProcessID proc.getThreadID dwExitCode
        (events .MSG_PROCESS_SUCCEEDED)) ending calls

variable {processor pwszTempFile events} in
theorem ReportsExit.cases {proc : CProcess} {dwExitCode : DWORD} {ending : Ending Fault Unit}
    {calls : List Action}
    (h : ReportsExit processor pwszTempFile events proc dwExitCode ending calls) :
    (dwExitCode ≠ 0 ∧ Made (processor.objEventSource.reportProcessFailed proc.getProcessID
      proc.getThreadID dwExitCode pwszTempFile (events .MSG_PROCESS_FAILED)) ending calls) ∨
    (dwExitCode = 0 ∧ Made (processor.objEventSource.reportProcessSucceeded proc.getProcessID
      proc.getThreadID dwExitCode (events .MSG_PROCESS_SUCCEEDED)) ending calls) := by
  unfold ReportsExit at h
  by_cases hzero : dwExitCode ≠ 0
  · rw [if_pos hzero] at h
    exact Or.inl ⟨hzero, h⟩
  · rw [if_neg hzero] at h
    exact Or.inr ⟨not_not.mp hzero, h⟩

inductive ProcessRun : Ending Fault (HRESULT × DWORD) → List Action → Prop where
  | noExePath (hnull : processor.objConfig.getExePath = .null) :
      ProcessRun (.returned (HRESULT_FROM_WIN32 ERROR_INVALID_OPERATION, 0)) []
  | createFaulted (fault : Fault) (files : FileSystem)
      (hnotNull : processor.objConfig.getExePath ≠ .null)
      (hcreate : CProcess.create {} processor.objConfig.getExePath bufArgs o files
        = (.faulted fault, [])) :
      ProcessRun (.faulted fault) []
  | notStarted (hr : HRESULT) (proc : CProcess) (calls : List Action) (ending : Ending Fault Unit)
      (reported : List Action) (hfailed : FAILED hr)
      (hcreate : ∃ files, CProcess.create {} processor.objConfig.getExePath bufArgs o files
        = (.returned (hr, proc), calls))
      (hcalls : calls = [] ∨ calls = [.createProcess proc.getCommandLine false])
      (hreport : Made (processor.objEventSource.reportProcessStartFailed
        processor.objConfig.getExePath proc.getCommandLine hr (events .MSG_PROCESS_START_FAILED))
        ending reported) :
      ProcessRun (ending.map fun _ => (hr, 0)) (calls ++ reported)
  | startUnreported (proc : CProcess) (fault : Fault) (started : List Action)
      (hcreates : Creates processor bufArgs o proc)
      (hstart : ReportsStart processor events proc (.faulted fault) started) :
      ProcessRun (.faulted fault) (.createProcess proc.getCommandLine true :: started)
  | waitFailed (proc : CProcess) (started : List Action) (hcreates : Creates processor bufArgs o proc)
      (hstart : ReportsStart processor events proc (.returned ()) started)
      (hwait : o.waitResult ≠ CProcess.WAIT_OBJECT_0) :
      ProcessRun (.returned (CProcess.waitHResult o.waitResult o.waitError, 0))
        (.createProcess proc.getCommandLine true :: started
          ++ [.waitForSingleObject o.waitResult])
  | timedOut (proc : CProcess) (started : List Action) (ending : Ending Fault Unit)
      (reported : List Action) (hcreates : Creates processor bufArgs o proc)
      (hstart : ReportsStart processor events proc (.returned ()) started)
      (hwait : o.waitResult ≠ CProcess.WAIT_OBJECT_0)
      (hreport : Made (processor.objEventSource.reportProcessTimedOut
        (g_dwProcessTimeoutMSecs / 1000) proc.getProcessID proc.getThreadID pwszTempFile
        (events .MSG_PROCESS_TIMEDOUT)) ending reported) :
      ProcessRun (ending.map fun _ => (HRESULT_FROM_WIN32 ERROR_TIMEOUT, 0))
        (.createProcess proc.getCommandLine true :: started
          ++ .waitForSingleObject o.waitResult :: reported)
  | exitCodeUnread (proc : CProcess) (started : List Action) (e : Win32Error)
      (hcreates : Creates processor bufArgs o proc)
      (hstart : ReportsStart processor events proc (.returned ()) started) :
      ProcessRun (.returned (HRESULT_FROM_WIN32 e.code, 0))
        (.createProcess proc.getCommandLine true :: started
          ++ [.waitForSingleObject CProcess.WAIT_OBJECT_0])
  | exited (proc : CProcess) (started : List Action) (dwExitCode : DWORD)
      (ending : Ending Fault Unit) (reported : List Action)
      (hcreates : Creates processor bufArgs o proc)
      (hstart : ReportsStart processor events proc (.returned ()) started)
      (hread : o.waitResult = CProcess.WAIT_OBJECT_0 ∧ o.getExitCodeProcess = .ok dwExitCode)
      (hreport : ReportsExit processor pwszTempFile events proc dwExitCode ending reported) :
      ProcessRun (ending.map fun _ => (S_OK, dwExitCode))
        (.createProcess proc.getCommandLine true :: started
          ++ .waitForSingleObject CProcess.WAIT_OBJECT_0 :: .getExitCodeProcess dwExitCode
            :: reported)

theorem watchProcess_run {proc : CProcess} (hcreates : Creates processor bufArgs o proc)
    (files : FileSystem) :
    ProcessRun processor bufArgs pwszTempFile o events
      (processor.watchProcess proc pwszTempFile 0 o events files).1
      (.createProcess proc.getCommandLine true ::
        (processor.watchProcess proc pwszTempFile 0 o events files).2) := by
  rcases hreport : processor.objEventSource.reportProcessStartSucceeded processor.objConfig.getExePath
    proc.getCommandLine proc.getProcessID proc.getThreadID (events .MSG_PROCESS_START_SUCCEEDED) files
    with ⟨ending, started⟩
  have hstart : ReportsStart processor events proc ending started := ⟨files, hreport⟩
  cases ending with
  | running => exact absurd (congrArg Prod.fst hreport) (CEventSource.report_ne_running _ _ _ _ _ _)
  | faulted fault =>
      rw [watchProcess, Program.bind_of_faulted hreport]
      exact .startUnreported proc fault started hcreates hstart
  | returned _ =>
      rw [watchProcess, Program.bind_of_returned hreport]
      have hwait : ∀ state, CProcess.wait o state
          = (.returned (CProcess.waitHResult o.waitResult o.waitError),
              [.waitForSingleObject o.waitResult]) := fun _ => rfl
      rw [Program.bind_of_returned (hwait _)]
      by_cases hended : o.waitResult = CProcess.WAIT_OBJECT_0
      · have hok : CProcess.waitHResult o.waitResult o.waitError = S_OK := by
          rw [CProcess.waitHResult, if_pos hended]
        simp only [hok, not_failed_S_OK, if_false]
        cases hexit : o.getExitCodeProcess with
        | error e =>
            have hcall : ∀ state, CProcess.getExitCode 0 o state
                = (.returned (HRESULT_FROM_WIN32 e.code, 0), []) := by
              intro state
              rw [CProcess.getExitCode, hexit]
              rfl
            rw [Program.bind_of_returned (hcall _)]
            simp only [e.failed, if_true, hended]
            exact .exitCodeUnread proc started e hcreates hstart
        | ok dwExitCode =>
            have hcall : ∀ state, CProcess.getExitCode 0 o state
                = (.returned (S_OK, dwExitCode), [.getExitCodeProcess dwExitCode]) := by
              intro state
              rw [CProcess.getExitCode, hexit]
              rfl
            rw [Program.bind_of_returned (hcall _)]
            simp only [not_failed_S_OK, if_false, hended]
            have hexited : ∀ report : Prog Unit, report = (if dwExitCode ≠ 0 then
                  processor.objEventSource.reportProcessFailed proc.getProcessID proc.getThreadID
                    dwExitCode pwszTempFile (events .MSG_PROCESS_FAILED)
                else
                  processor.objEventSource.reportProcessSucceeded proc.getProcessID proc.getThreadID
                    dwExitCode (events .MSG_PROCESS_SUCCEEDED)) → ∀ state,
                ReportsExit processor pwszTempFile events proc dwExitCode (report state).1
                  (report state).2 := by
              intro report hreport state
              refine ⟨state, ?_⟩
              rw [← hreport]
            by_cases hzero : dwExitCode ≠ 0
            · rw [if_pos hzero, Program.bind_pure_apply]
              exact .exited proc started dwExitCode _ _ hcreates hstart ⟨hended, hexit⟩
                (hexited _ (if_pos hzero).symm _)
            · rw [if_neg hzero, Program.bind_pure_apply]
              exact .exited proc started dwExitCode _ _ hcreates hstart ⟨hended, hexit⟩
                (hexited _ (if_neg hzero).symm _)
      · have hfailed := (CProcess.failed_waitHResult_iff _ o.waitError).mpr hended
        simp only [hfailed, if_true]
        by_cases htimeout : CProcess.waitHResult o.waitResult o.waitError
            = HRESULT_FROM_WIN32 ERROR_TIMEOUT
        · simp only [htimeout, if_true]
          rw [Program.bind_pure_apply]
          exact .timedOut proc started _ _ hcreates hstart hended ⟨_, rfl⟩
        · simp only [htimeout, if_false]
          exact .waitFailed proc started hcreates hstart hended

theorem runProcess_run (files : FileSystem) :
    ProcessRun processor bufArgs pwszTempFile o events
      (processor.runProcess bufArgs pwszTempFile 0 o events files).1
      (processor.runProcess bufArgs pwszTempFile 0 o events files).2 := by
  by_cases hnull : processor.objConfig.getExePath = .null
  · have hrun : processor.runProcess bufArgs pwszTempFile 0 o events files
        = (.returned (HRESULT_FROM_WIN32 ERROR_INVALID_OPERATION, 0), []) := by
      simp only [runProcess, hnull, if_true]
      rfl
    rw [hrun]
    exact .noExePath hnull
  -- a failure code of `Create` is reported and returned, before or in the call of `CreateProcessW`
  have hnotStarted : ∀ hr proc calls, FAILED hr →
      (calls = [] ∨ calls = [.createProcess proc.getCommandLine false]) →
      CProcess.create {} processor.objConfig.getExePath bufArgs o files
        = (.returned (hr, proc), calls) →
      ProcessRun processor bufArgs pwszTempFile o events
        (processor.runProcess bufArgs pwszTempFile 0 o events files).1
        (processor.runProcess bufArgs pwszTempFile 0 o events files).2 := by
    intro hr proc calls hfailed hcalls hcreate
    simp only [runProcess, hnull, if_false]
    rw [Program.bind_of_returned hcreate]
    simp only [hfailed, if_true]
    rw [Program.bind_pure_apply]
    exact .notStarted hr proc calls _ _ hfailed ⟨files, hcreate⟩ hcalls ⟨_, rfl⟩
  rcases CProcess.create_cases processor.objConfig.getExePath bufArgs o files with
    ⟨fault, -, -, hcreate⟩ | ⟨hr, proc, hfailed, -, hcreate⟩ | ⟨hr, proc, hfailed, -, hcreate⟩
      | ⟨proc, info, -, -, hcreate⟩
  · have hrun : processor.runProcess bufArgs pwszTempFile 0 o events files
        = (.faulted fault, []) := by
      simp only [runProcess, hnull, if_false]
      exact Program.bind_of_faulted hcreate
    rw [hrun]
    exact .createFaulted fault files hnull hcreate
  · exact hnotStarted hr proc _ hfailed (Or.inl rfl) hcreate
  · exact hnotStarted hr proc _ hfailed (Or.inr rfl) hcreate
  · simp only [runProcess, hnull, if_false]
    rw [Program.bind_of_returned hcreate]
    simp only [not_failed_S_OK, if_false, List.singleton_append]
    exact watchProcess_run processor bufArgs pwszTempFile o events ⟨files, hcreate⟩ _

section Creation

variable {processor bufArgs pwszTempFile o events} {text : LPCWSTR} {created : Bool}

theorem createProcess_notMem_of_made {source : CEventSource} {wType : EventType} {id : EventId}
    {args : List CEventArg} {o : EventOutcomes} {ending : Ending Fault Unit} {calls : List Action}
    (h : Made (source.report wType id args o) ending calls) : .createProcess text created ∉ calls := by
  intro hmem
  obtain ⟨accepted, heq⟩ := eq_of_mem_of_made h hmem
  cases heq

theorem createProcess_notMem_of_reportsExit {proc : CProcess} {dwExitCode : DWORD}
    {ending : Ending Fault Unit} {calls : List Action}
    (h : ReportsExit processor pwszTempFile events proc dwExitCode ending calls) :
    .createProcess text created ∉ calls := by
  rcases h.cases with ⟨-, hmade⟩ | ⟨-, hmade⟩
  · exact createProcess_notMem_of_made hmade
  · exact createProcess_notMem_of_made hmade

theorem ProcessRun.createProcess_mem {ending : Ending Fault (HRESULT × DWORD)} {calls : List Action}
    (h : ProcessRun processor bufArgs pwszTempFile o events ending calls)
    (hmem : .createProcess text created ∈ calls) :
    ∃ files, .createProcess text created
      ∈ (CProcess.create {} processor.objConfig.getExePath bufArgs o files).2 := by
  have hstarted : ∀ {proc : CProcess} {started rest : List Action}, Creates processor bufArgs o proc →
      .createProcess text created ∉ started → .createProcess text created ∉ rest →
      .createProcess text created ∈ .createProcess proc.getCommandLine true :: started ++ rest →
      ∃ files, .createProcess text created
        ∈ (CProcess.create {} processor.objConfig.getExePath bufArgs o files).2 := by
    rintro proc started rest ⟨files, hcreate⟩ hstarted hrest hmem
    refine ⟨files, hcreate ▸ ?_⟩
    rcases List.mem_append.mp hmem with hmem | hmem
    · rcases List.mem_cons.mp hmem with heq | hmem
      · exact List.mem_singleton.mpr heq
      · exact absurd hmem hstarted
    · exact absurd hmem hrest
  cases h with
  | noExePath hnull => cases hmem
  | createFaulted fault files hnotNull hcreate => cases hmem
  | notStarted hr proc calls ending reported hfailed hcreate hcalls hreport =>
      obtain ⟨files, hcreate⟩ := hcreate
      rcases List.mem_append.mp hmem with hmem | hmem
      · exact ⟨files, hcreate ▸ hmem⟩
      · exact absurd hmem (createProcess_notMem_of_made hreport)
  | startUnreported proc fault started hcreates hstart =>
      exact hstarted hcreates (createProcess_notMem_of_made hstart) List.not_mem_nil
        ((List.append_nil _).symm ▸ hmem)
  | waitFailed proc started hcreates hstart hwait =>
      exact hstarted hcreates (createProcess_notMem_of_made hstart) (by simp) hmem
  | timedOut proc started ending reported hcreates hstart hwait hreport =>
      exact hstarted hcreates (createProcess_notMem_of_made hstart)
        (by simp [createProcess_notMem_of_made hreport]) hmem
  | exitCodeUnread proc started e hcreates hstart =>
      exact hstarted hcreates (createProcess_notMem_of_made hstart) (by simp) hmem
  | exited proc started dwExitCode ending reported hcreates hstart hread hreport =>
      exact hstarted hcreates (createProcess_notMem_of_made hstart)
        (by simp [createProcess_notMem_of_reportsExit hreport]) hmem

end Creation

end ProcessRun

/-! ### The runs of `NotifyCertIssued` -/

section NotifyRun

variable (processor : CEventProcessor) (pwszSubjectKeyIdentifier pwszSerialNumber : LPCWSTR)
  (bufRawCert : List BYTE) (o : ProcessorOutcomes) (files : FileSystem)

/-- The runs of `NotifyCertIssued`, from these files. -/
inductive NotifyRun : Ending Fault HRESULT → List Action → Prop where
  | noTempFile (hr : HRESULT) (hfailed : FAILED hr) : NotifyRun (.returned hr) []
  | notOpened (path : WStr) (hr : HRESULT) (hnamed : TempPath o files path) (hfailed : FAILED hr) :
      NotifyRun (.returned hr) [.getTempFileName path]
  | writing (path : WStr) (handle : HANDLE) (writes : List Action) (objTempFile : CTempFile)
      (filesOpen : FileSystem) (hopened : Opened o files path handle writes)
      (hopen : objTempFile.hFile = some ⟨handle, path⟩)
      (hloop : writeLoop objTempFile bufRawCert 0 o.writeFile filesOpen = (.running, writes)) :
      NotifyRun .running (openingActions path handle writes)
  | notLaunched (path : WStr) (handle : HANDLE) (writes : List Action) (hr : HRESULT)
      (hopened : Opened o files path handle writes) (hfailed : FAILED hr) :
      NotifyRun (.returned hr) (openingActions path handle writes
        ++ [.closeHandle handle, .deleteFile path o.deleteFile])
  | launchFaulted (path : WStr) (handle : HANDLE) (writes : List Action) (fault : Fault)
      (hopened : Opened o files path handle writes)
      (hfault : processor.escapeArguments pwszSubjectKeyIdentifier (.str path) o = .error fault
        ∨ processor.objConfig.getArguments = .error fault) :
      NotifyRun (.faulted fault) (openingActions path handle writes ++ [.closeHandle handle])
  | preserved (path : WStr) (handle : HANDLE) (writes : List Action) (bufArgs : List LPCWSTR)
      (ending : Ending Fault (HRESULT × DWORD)) (calls : List Action)
      (hopened : Opened o files path handle writes)
      (hlaunch : RunsOn processor pwszSubjectKeyIdentifier pwszSerialNumber bufRawCert o files path bufArgs)
      (hrun : ProcessRun processor bufArgs (.str path) o.process o.events ending calls)
      (hkeep : ∀ hr dwExitCode, ending = .returned (hr, dwExitCode) → FAILED hr ∨ dwExitCode ≠ 0) :
      NotifyRun (ending.map Prod.fst)
        (openingActions path handle writes ++ .closeHandle handle :: calls)
  | deleted (path : WStr) (handle : HANDLE) (writes : List Action) (bufArgs : List LPCWSTR)
      (hr : HRESULT) (calls : List Action) (hopened : Opened o files path handle writes)
      (hlaunch : RunsOn processor pwszSubjectKeyIdentifier pwszSerialNumber bufRawCert o files path bufArgs)
      (hrun : ProcessRun processor bufArgs (.str path) o.process o.events (.returned (hr, 0)) calls)
      (hok : ¬ FAILED hr) :
      NotifyRun (.returned hr) (openingActions path handle writes ++ .closeHandle handle :: calls
        ++ [.deleteFile path o.deleteFile])

section Destructor

variable {processor pwszSubjectKeyIdentifier pwszSerialNumber bufRawCert o files} {hr : HRESULT}
  {objTempFile : CTempFile} {fault : Fault} {actions finish : List Action}

theorem notifyCertIssued_of_returned
    (hbody : processor.writeAndLaunch pwszSubjectKeyIdentifier pwszSerialNumber bufRawCert o files
      = (.returned (hr, objTempFile), actions))
    (hdestroy : ∀ state, objTempFile.destroy o.deleteFile state = (.returned (), finish)) :
    processor.notifyCertIssued pwszSubjectKeyIdentifier pwszSerialNumber bufRawCert o files
      = (.returned hr, actions ++ finish) := by
  have hafter : ∀ state, (objTempFile.destroy o.deleteFile >>= fun _ => (pure hr : Prog HRESULT)) state
      = (.returned hr, finish) := by
    intro state
    rw [Program.bind_pure_apply, hdestroy]
    rfl
  exact Program.bind_chain hbody (hafter _)

theorem notifyCertIssued_of_faulted
    (hbody : processor.writeAndLaunch pwszSubjectKeyIdentifier pwszSerialNumber bufRawCert o files
      = (.faulted fault, actions)) :
    processor.notifyCertIssued pwszSubjectKeyIdentifier pwszSerialNumber bufRawCert o files
      = (.faulted fault, actions) :=
  Program.bind_of_faulted hbody

theorem notifyCertIssued_of_running
    (hbody : processor.writeAndLaunch pwszSubjectKeyIdentifier pwszSerialNumber bufRawCert o files
      = (.running, actions)) :
    processor.notifyCertIssued pwszSubjectKeyIdentifier pwszSerialNumber bufRawCert o files
      = (.running, actions) :=
  Program.bind_of_running hbody

theorem writeAndLaunch_of_running
    (hprepare : processor.prepare pwszSubjectKeyIdentifier pwszSerialNumber bufRawCert o files
      = (.running, actions)) :
    processor.writeAndLaunch pwszSubjectKeyIdentifier pwszSerialNumber bufRawCert o files
      = (.running, actions) := by
  rw [writeAndLaunch_eq]
  exact Program.bind_of_running hprepare

theorem writeAndLaunch_of_faulted
    (hprepare : processor.prepare pwszSubjectKeyIdentifier pwszSerialNumber bufRawCert o files
      = (.faulted fault, actions)) :
    processor.writeAndLaunch pwszSubjectKeyIdentifier pwszSerialNumber bufRawCert o files
      = (.faulted fault, actions) := by
  rw [writeAndLaunch_eq]
  exact Program.bind_of_faulted hprepare

theorem writeAndLaunch_of_ready {bufArgs : List LPCWSTR} {pwszTempFile : LPCWSTR}
    (hprepare : processor.prepare pwszSubjectKeyIdentifier pwszSerialNumber bufRawCert o files
      = (.returned ((hr, objTempFile), some (bufArgs, pwszTempFile)), actions)) :
    processor.writeAndLaunch pwszSubjectKeyIdentifier pwszSerialNumber bufRawCert o files
      = ((processor.runAndKeep o objTempFile bufArgs pwszTempFile (replay files actions)).1,
          actions ++ (processor.runAndKeep o objTempFile bufArgs pwszTempFile (replay files actions)).2) := by
  rw [writeAndLaunch_eq]
  exact Program.bind_of_returned hprepare

theorem notifyCertIssued_of_prepared
    (hprepare : processor.prepare pwszSubjectKeyIdentifier pwszSerialNumber bufRawCert o files
      = (.returned ((hr, objTempFile), none), actions))
    (hdestroy : ∀ state, objTempFile.destroy o.deleteFile state = (.returned (), finish)) :
    processor.notifyCertIssued pwszSubjectKeyIdentifier pwszSerialNumber bufRawCert o files
      = (.returned hr, actions ++ finish) := by
  apply notifyCertIssued_of_returned _ hdestroy
  rw [writeAndLaunch_eq]
  exact (Program.bind_of_returned hprepare).trans (Prod.ext rfl (List.append_nil _))

end Destructor

variable {processor o} in
theorem runAndKeep_eq (objTempFile : CTempFile) (bufArgs : List LPCWSTR) (pwszTempFile : LPCWSTR) :
    processor.runAndKeep o objTempFile bufArgs pwszTempFile files
      = ((processor.runProcess bufArgs pwszTempFile 0 o.process o.events files).1.map fun result =>
          (result.1, if FAILED result.1 ∨ result.2 ≠ 0 then objTempFile.preserve else objTempFile),
        (processor.runProcess bufArgs pwszTempFile 0 o.process o.events files).2) := by
  rw [← Program.bind_pure_apply, runAndKeep]
  apply congrFun
  congr 1
  funext result
  obtain ⟨hr, dwExitCode⟩ := result
  by_cases hkeep : FAILED hr ∨ dwExitCode ≠ 0
  · simp only [hkeep, if_true]
  · simp only [hkeep, if_false]

theorem notifyCertIssued_run :
    NotifyRun processor pwszSubjectKeyIdentifier pwszSerialNumber bufRawCert o files
      (processor.notifyCertIssued pwszSubjectKeyIdentifier pwszSerialNumber bufRawCert o files).1
      (processor.notifyCertIssued pwszSubjectKeyIdentifier pwszSerialNumber bufRawCert o files).2 := by
  rcases hprepare : processor.prepare pwszSubjectKeyIdentifier pwszSerialNumber bufRawCert o files with
    ⟨ending, actions⟩
  cases prepareRun_of_prepare hprepare with
  | noTempFile hr hfailed _ =>
      rw [notifyCertIssued_of_prepared hprepare (CTempFile.destroy_fresh _)]
      exact .noTempFile hr hfailed
  | refused path hr hfailed _ hnamed _ =>
      rw [notifyCertIssued_of_prepared hprepare (CTempFile.destroy_fresh _)]
      exact .notOpened path hr hnamed hfailed
  | writing path handle writes objTempFile filesOpen hopened hopen hloop =>
      rw [notifyCertIssued_of_running (writeAndLaunch_of_running hprepare)]
      exact .writing path handle writes objTempFile filesOpen hopened hopen hloop
  | notWritten path handle writes hr objTempFile hfailed hopened howns hopen hpreserve =>
      rw [notifyCertIssued_of_prepared hprepare (CTempFile.destroy_of_open howns hopen hpreserve _)]
      exact .notLaunched path handle writes hr hopened hfailed
  | argumentsFaulted path handle writes fault hopened hfault =>
      rw [notifyCertIssued_of_faulted (writeAndLaunch_of_faulted hprepare)]
      exact .launchFaulted path handle writes fault hopened hfault
  | notBuilt path handle writes hr objTempFile hfailed hopened howns hclosed hpreserve =>
      rw [notifyCertIssued_of_prepared hprepare (CTempFile.destroy_of_closed howns hclosed hpreserve _),
        List.append_assoc]
      exact .notLaunched path handle writes hr hopened hfailed
  | ready path handle writes hr objTempFile bufArgs hopened howns hclosed hpreserve _ =>
      have hlaunch : RunsOn processor pwszSubjectKeyIdentifier pwszSerialNumber bufRawCert o files path
          bufArgs := ⟨_, _, hprepare⟩
      have hrun := runProcess_run processor bufArgs (.str path) o.process o.events
        (replay files (openingActions path handle writes ++ [.closeHandle handle]))
      have hbody := writeAndLaunch_of_ready hprepare
      rw [runAndKeep_eq] at hbody
      rcases hprocess : processor.runProcess bufArgs (.str path) 0 o.process o.events
        (replay files (openingActions path handle writes ++ [.closeHandle handle])) with ⟨ending, calls⟩
      rw [hprocess] at hrun
      rw [hprocess, List.append_assoc] at hbody
      cases ending with
      | running =>
          rw [notifyCertIssued_of_running hbody]
          apply NotifyRun.preserved path handle writes bufArgs _ calls hopened hlaunch hrun
          intro hr dwExitCode heq
          cases heq
      | faulted fault =>
          rw [notifyCertIssued_of_faulted hbody]
          apply NotifyRun.preserved path handle writes bufArgs _ calls hopened hlaunch hrun
          intro hr dwExitCode heq
          cases heq
      | returned result =>
          obtain ⟨hr, dwExitCode⟩ := result
          by_cases hnot : FAILED hr ∨ dwExitCode ≠ 0
          · rw [Ending.map, if_pos hnot] at hbody
            have hkept : objTempFile.preserve.hFile = none := hclosed
            rw [notifyCertIssued_of_returned hbody (CTempFile.destroy_of_preserved hkept rfl _),
              List.append_nil]
            apply NotifyRun.preserved path handle writes bufArgs _ calls hopened hlaunch hrun
            rintro _ _ ⟨⟩
            exact hnot
          · rw [Ending.map, if_neg hnot] at hbody
            rw [notifyCertIssued_of_returned hbody
              (CTempFile.destroy_of_closed howns hclosed hpreserve _)]
            obtain ⟨hok, hzero⟩ := not_or.mp hnot
            obtain rfl : dwExitCode = 0 := not_not.mp hzero
            exact .deleted path handle writes bufArgs hr calls hopened hlaunch hrun hok

variable {processor pwszSubjectKeyIdentifier pwszSerialNumber bufRawCert o files} in
theorem NotifyRun.createProcess_mem {ending : Ending Fault HRESULT} {actions : List Action}
    (h : NotifyRun processor pwszSubjectKeyIdentifier pwszSerialNumber bufRawCert o files ending
      actions) {text : LPCWSTR} {created : Bool} (hmem : .createProcess text created ∈ actions) :
    ∃ path bufArgs filesBefore, TempPath o files path
      ∧ LaunchesWith processor pwszSubjectKeyIdentifier pwszSerialNumber o path bufArgs
      ∧ .createProcess text created
        ∈ (CProcess.create {} processor.objConfig.getExePath bufArgs o.process filesBefore).2 := by
  have hopening : ∀ {path handle writes}, Opened o files path handle writes →
      .createProcess text created ∉ openingActions path handle writes := by
    intro path handle writes hopened hmem
    simp only [openingActions, List.mem_cons, reduceCtorEq, false_or] at hmem
    obtain ⟨piece, heq⟩ := hopened.writes _ hmem
    cases heq
  cases h with
  | noTempFile hr hfailed => cases hmem
  | notOpened path hr hnamed hfailed => simp at hmem
  | writing path handle writes objTempFile filesOpen hopened hopen hloop =>
      exact absurd hmem (hopening hopened)
  | notLaunched path handle writes hr hopened hfailed => simp [hopening hopened] at hmem
  | launchFaulted path handle writes fault hopened hfault => simp [hopening hopened] at hmem
  | preserved path handle writes bufArgs ending calls hopened hlaunch hrun hkeep =>
      simp only [List.mem_append, hopening hopened, List.mem_cons, reduceCtorEq, false_or] at hmem
      obtain ⟨filesBefore, hcreate⟩ := hrun.createProcess_mem hmem
      exact ⟨path, bufArgs, filesBefore, hopened.named, hlaunch.launchesWith, hcreate⟩
  | deleted path handle writes bufArgs hr calls hopened hlaunch hrun hok =>
      simp only [List.mem_append, hopening hopened, List.mem_cons, reduceCtorEq, false_or,
        List.not_mem_nil, or_false] at hmem
      obtain ⟨filesBefore, hcreate⟩ := hrun.createProcess_mem hmem
      exact ⟨path, bufArgs, filesBefore, hopened.named, hlaunch.launchesWith, hcreate⟩

variable {processor pwszSubjectKeyIdentifier pwszSerialNumber bufRawCert o files} in
theorem RunsOn.create_subset {path : WStr} {bufArgs : List LPCWSTR}
    (h : RunsOn processor pwszSubjectKeyIdentifier pwszSerialNumber bufRawCert o files path bufArgs)
    (hexePath : processor.objConfig.getExePath ≠ .null) :
    ∃ filesBefore, (CProcess.create {} processor.objConfig.getExePath bufArgs o.process filesBefore).2
      ⊆ (processor.notifyCertIssued pwszSubjectKeyIdentifier pwszSerialNumber bufRawCert o files).2 := by
  obtain ⟨⟨hr, objTempFile⟩, actions, hprepare⟩ := h
  refine ⟨replay files actions, ?_⟩
  have hprocess : (CProcess.create {} processor.objConfig.getExePath bufArgs o.process
      (replay files actions)).2
      <+: (processor.runProcess bufArgs (.str path) 0 o.process o.events (replay files actions)).2 := by
    unfold runProcess
    rw [if_neg hexePath]
    exact Program.isPrefix_bind _ _ _
  have hbody : (processor.writeAndLaunch pwszSubjectKeyIdentifier pwszSerialNumber bufRawCert o files).2
      <+: (processor.notifyCertIssued pwszSubjectKeyIdentifier pwszSerialNumber bufRawCert o files).2 :=
    Program.isPrefix_bind _ _ _
  rw [writeAndLaunch_of_ready hprepare, runAndKeep_eq] at hbody
  intro action hmem
  exact hbody.subset (List.mem_append_right _ (hprocess.subset hmem))

end NotifyRun

/-! ### A run in which every call succeeds -/

def oneName (path : WStr) (hshort : path.length < MAX_PATH) : TempFileNames where
  next _ _ files := if files path = none then .ok path else .error ⟨80, by decide⟩
  fresh folder filePrefix files p h := by
    by_cases hfree : files path = none
    · rw [if_pos hfree, Except.ok.injEq] at h
      exact h ▸ hfree
    · rw [if_neg hfree] at h
      cases h
  short folder filePrefix files p h := by
    by_cases hfree : files path = none
    · rw [if_pos hfree, Except.ok.injEq] at h
      exact h ▸ hshort
    · rw [if_neg hfree] at h
      cases h

def acceptingEvents : EventOutcomes where
  allocStrings := true
  allocMessage := true
  formatMessage := .found (.ofLiteral "text")
  reportEvent := .ok ()

def exampleTempPath : WStr := .ofLiteral "C:\\T\\PMI1.tmp"

/-- Every call succeeds, and one call writes the whole certificate. -/
def succeedingProcessor (bufRawCert : List BYTE) : ProcessorOutcomes where
  getTempPath := .ok (.ofLiteral "C:\\T\\")
  allocTempFile := some fun _ => NUL
  tempFileNames := oneName exampleTempPath (by decide)
  tempFile := { allocPath := some fun _ => NUL, createFile := .ok 4 }
  writeFile := [.ok (BitVec.ofNat 32 bufRawCert.length)]
  allocEscSubjectKeyIdentifier := some fun _ => NUL
  allocEscTempFile := some fun _ => NUL
  allocArgs := true
  process := CProcess.succeedingProcess
  events := fun _ => acceptingEvents
  deleteFile := true

end CEventProcessor

end PmiExitModule
