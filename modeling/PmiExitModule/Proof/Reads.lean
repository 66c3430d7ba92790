import PmiExitModule.Generic.Interleaving
import PmiExitModule.Proof.Notify

/-!
# What a notification reads

`GetTempFileNameW` looks at the files, to find a name that is not in use, and no other call of the module
answers with what it finds there. Everything in front of that call leaves no trace, so the first call of a
notification settles all its others.
-/

namespace PmiExitModule

open Generic Program

namespace CEventSource

theorem blind_report (source : CEventSource) (wType : EventType) (id : EventId) (args : List CEventArg)
    (o : EventOutcomes) : (source.report wType id args o).Blind := by
  have hstrings : ∀ event, (source.reportStrings event o).Blind := by
    intro event
    unfold reportStrings
    refine (blind_pure _).ite (Blind.ite (blind_lift _) ?_)
    cases o.reportEvent with
    | error e => exact (blind_emit _).bind fun _ => blind_pure _
    | ok _ => exact (blind_emit _).bind fun _ => blind_pure _
  have hreport : (source.reportEvent wType id args o).Blind :=
    (blind_pure _).ite ((blind_pure _).ite (hstrings _))
  exact hreport.bind fun _ => blind_pure _

end CEventSource

namespace CTempFile

theorem blind_close (file : CTempFile) : file.close.Blind := by
  unfold close
  cases file.hFile with
  | none => exact blind_pure _
  | some openFile => exact (blind_emit _).bind fun _ => blind_pure _

theorem blind_create (file : CTempFile) (pwszPath : LPCWSTR) (o : CreateFileOutcomes) :
    (file.create pwszPath o).Blind := by
  unfold create
  refine (blind_pure _).ite (file.blind_close.bind fun file => (blind_lift _).bind fun length => ?_)
  refine (blind_pure _).ite ?_
  cases heapAlloc o.allocPath (length.2 + 1) with
  | none => exact blind_pure _
  | some cells =>
      refine (blind_lift _).bind fun copied => (blind_pure _).ite ((blind_lift _).bind fun path => ?_)
      cases o.createFile with
      | error e => exact blind_pure _
      | ok handle => exact (blind_emit _).bind fun _ => blind_pure _

theorem blind_write (file : CTempFile) (buf : List BYTE) (cbIndex cbCount : Nat) (o : WriteOutcome) :
    (file.write buf cbIndex cbCount o).Blind := by
  unfold write
  cases file.hFile with
  | none => exact blind_pure _
  | some openFile =>
      cases o with
      | error e => exact (blind_emit _).bind fun _ => blind_pure _
      | ok nBytesWritten => exact (blind_emit _).bind fun _ => blind_pure _

theorem blind_destroy (file : CTempFile) (deleted : Bool) : (file.destroy deleted).Blind := by
  unfold destroy
  exact file.blind_close.bind fun file => (blind_pure _).ite
    (Blind.ite ((blind_lift _).bind fun path => blind_emit _) (blind_pure _))

end CTempFile

namespace CProcess

theorem blind_create (proc : CProcess) (app : LPCWSTR) (args : List LPCWSTR) (o : ProcessOutcomes) :
    (proc.create app args o).Blind := by
  unfold create
  refine (blind_pure _).ite ?_
  cases heapAlloc o.allocCmdLine g_cchMaxCommandLine with
  | none => exact blind_pure _
  | some cells =>
      refine (blind_lift _).bind fun formatted => (blind_pure _).ite ?_
      cases o.createProcess with
      | error e => exact (blind_emit _).bind fun _ => blind_pure _
      | ok info => exact (blind_emit _).bind fun _ => blind_pure _

theorem blind_wait (o : ProcessOutcomes) : (wait o).Blind :=
  (blind_emit _).bind fun _ => blind_pure _

theorem blind_getExitCode (dwExitCode : DWORD) (o : ProcessOutcomes) : (getExitCode dwExitCode o).Blind := by
  unfold getExitCode
  cases o.getExitCodeProcess with
  | error e => exact blind_pure _
  | ok code => exact (blind_emit _).bind fun _ => blind_pure _

end CProcess

namespace CEventProcessor

variable (processor : CEventProcessor)

theorem blind_writeLoop (objTempFile : CTempFile) (bufRawCert : List BYTE) (outcomes : List WriteOutcome)
    (cbTotal : Nat) : (writeLoop objTempFile bufRawCert cbTotal outcomes).Blind := by
  induction outcomes generalizing cbTotal with
  | nil => exact blind_wait.ite (blind_pure _)
  | cons outcome rest ih =>
      exact Blind.ite ((objTempFile.blind_write bufRawCert 0 _ outcome).bind fun written =>
        (blind_pure _).ite (ih _)) (blind_pure _)

theorem blind_watchProcess (objProc : CProcess) (pwszTempFile : LPCWSTR) (dwExitCode : DWORD)
    (o : ProcessOutcomes) (events : EventId → EventOutcomes) :
    (processor.watchProcess objProc pwszTempFile dwExitCode o events).Blind := by
  unfold watchProcess
  refine (CEventSource.blind_report _ _ _ _ _).bind fun _ => (CProcess.blind_wait o).bind fun waited => ?_
  refine Blind.ite (Blind.ite ((CEventSource.blind_report _ _ _ _ _).bind fun _ => blind_pure _)
    (blind_pure _)) ?_
  refine (CProcess.blind_getExitCode dwExitCode o).bind fun code => (blind_pure _).ite ?_
  exact Blind.ite ((CEventSource.blind_report _ _ _ _ _).bind fun _ => blind_pure _)
    ((CEventSource.blind_report _ _ _ _ _).bind fun _ => blind_pure _)

theorem blind_runProcess (bufArgs : List LPCWSTR) (pwszTempFile : LPCWSTR) (dwExitCode : DWORD)
    (o : ProcessOutcomes) (events : EventId → EventOutcomes) :
    (processor.runProcess bufArgs pwszTempFile dwExitCode o events).Blind := by
  unfold runProcess
  refine (blind_pure _).ite ((CProcess.blind_create {} _ bufArgs o).bind fun created => ?_)
  exact Blind.ite ((CEventSource.blind_report _ _ _ _ _).bind fun _ => blind_pure _)
    (processor.blind_watchProcess _ _ _ _ _)

theorem blind_launch (pwszSubjectKeyIdentifier pwszSerialNumber pwszTempFile : LPCWSTR)
    (o : ProcessorOutcomes) (objTempFile : CTempFile) :
    (processor.launch pwszSubjectKeyIdentifier pwszSerialNumber pwszTempFile o objTempFile).Blind := by
  unfold launch
  refine (blind_lift _).bind fun escaped => (blind_pure _).ite ((blind_pure _).ite ?_)
  refine (blind_lift _).bind fun bufBaseArgs => (processor.blind_runProcess _ _ _ _ _).bind fun ran => ?_
  exact (blind_pure _).ite (blind_pure _)

variable (pwszSubjectKeyIdentifier pwszSerialNumber : LPCWSTR) (bufRawCert : List BYTE)
  (o : ProcessorOutcomes) {files files' : FileSystem}

/-- Of the files `NotifyCertIssued` sees what `GetTempFilePath` answers. -/
theorem notifyCertIssued_congr (h : getTempFilePath o files = getTempFilePath o files') :
    processor.notifyCertIssued pwszSubjectKeyIdentifier pwszSerialNumber bufRawCert o files
      = processor.notifyCertIssued pwszSubjectKeyIdentifier pwszSerialNumber bufRawCert o files' := by
  have hbody : processor.writeAndLaunch pwszSubjectKeyIdentifier pwszSerialNumber bufRawCert o files
      = processor.writeAndLaunch pwszSubjectKeyIdentifier pwszSerialNumber bufRawCert o files' := by
    refine bind_congr_of_blind h fun named => (blind_pure _).ite ?_
    refine (CTempFile.blind_create {} _ _).bind fun created => (blind_pure _).ite ?_
    refine (blind_writeLoop _ _ _ _).bind fun written => (blind_pure _).ite ?_
    exact (CTempFile.blind_close _).bind fun closed => processor.blind_launch _ _ _ _ _
  exact bind_congr_of_blind hbody fun ran => (CTempFile.blind_destroy _ _).bind fun _ => blind_pure _

theorem notifyCertIssued_of_not_named (h : ¬ Named o files) : ∃ hr,
    processor.notifyCertIssued pwszSubjectKeyIdentifier pwszSerialNumber bufRawCert o files
      = (.returned hr, []) := by
  obtain ⟨hr, buf, hfailed, hrun⟩ := getTempFilePath_of_not_named h
  have hbody : processor.writeAndLaunch pwszSubjectKeyIdentifier pwszSerialNumber bufRawCert o files
      = (.returned (hr, {}), []) := by
    apply bind_chain hrun
    simp only [hfailed, if_true]
    rfl
  exact ⟨hr, notifyCertIssued_of_returned hbody fun _ => rfl⟩

theorem head?_notifyCertIssued {path : WStr} (halloc : o.allocTempFile ≠ none)
    (h : TempPath o files path) :
    (processor.notifyCertIssued pwszSubjectKeyIdentifier pwszSerialNumber bufRawCert o files).2.head?
      = some (.getTempFileName path) := by
  obtain ⟨buf, -, hrun⟩ := getTempFilePath_of_tempPath halloc h
  have hbody : (getTempFilePath o files).2
      <+: (processor.writeAndLaunch pwszSubjectKeyIdentifier pwszSerialNumber bufRawCert o files).2 :=
    isPrefix_bind _ _ files
  obtain ⟨rest, hrest⟩ := hbody.trans (isPrefix_bind _ _ files)
  rw [hrun] at hrest
  exact congrArg List.head? hrest.symm

/-- Two runs of the event processor that name the same file are the same. -/
theorem notifyCertIssued_eq {path : WStr} (halloc : o.allocTempFile ≠ none) (h : TempPath o files path)
    (h' : TempPath o files' path) :
    processor.notifyCertIssued pwszSubjectKeyIdentifier pwszSerialNumber bufRawCert o files
      = processor.notifyCertIssued pwszSubjectKeyIdentifier pwszSerialNumber bufRawCert o files' := by
  obtain ⟨buf, -, hrun⟩ := getTempFilePath_of_short halloc h.short
  exact processor.notifyCertIssued_congr _ _ _ o ((hrun files h).trans (hrun files' h').symm)

end CEventProcessor

namespace CPMICertExit

variable (exit : CPMICertExit)

/-- A notification does not look at the files, or is handled by the event processor. -/
theorem dispatch_reads (exitEvent context : LONG) (o : NotifyOutcomes) :
    (exit.dispatch exitEvent context o).Blind
      ∨ ∃ cert : IssuedCertificate, exit.dispatch exitEvent context o
        = cert.objEventProcessor.notifyCertIssued cert.pwszSubjectKeyIdentifier cert.pwszSerialNumber
            cert.bufRawCert o.processor := by
  by_cases hissued : exitEvent = EXITEVENT_CERTISSUED
  · rw [dispatch, if_pos hissued, notifyCertIssued]
    rcases CCertServerExit.init context o.server with ⟨hr, objServer⟩
    by_cases hfailed : FAILED hr
    · simp only [hfailed, if_true]
      exact Or.inl (blind_pure _)
    · simp only [hfailed, if_false, notifyCertIssuedWith]
      cases hread : exit.readIssuedCertificate objServer o with
      | error fault => exact Or.inl fun _ _ => rfl
      | ok read =>
          cases read with
          | error hr => exact Or.inl fun _ _ => rfl
          | ok cert =>
              refine Or.inr ⟨cert, ?_⟩
              funext files
              exact lift_ok_bind_apply _ _ _
  · left
    rw [dispatch, if_neg hissued]
    refine (blind_pure _).ite ((blind_pure _).ite ((blind_pure _).ite ((blind_pure _).ite (Blind.ite ?_
      ((blind_pure _).ite ((blind_pure _).ite (blind_pure _)))))))
    rcases hinit : CCertServerExit.init context o.server with ⟨hr, objServer⟩
    rw [notifyCRLIssued, hinit]
    exact (blind_pure _).ite (blind_pure _)

theorem blind_failureReport (exitEvent context : LONG) (o : NotifyOutcomes) (hr : HRESULT) :
    Blind (if FAILED hr then do
        exit.objEventSource.reportNotifyFailedInternalError exitEvent context hr
          (o.processor.events .MSG_NOTIFY_FAILED)
        return S_OK
      else (return hr : Prog HRESULT)) :=
  Blind.ite ((CEventSource.blind_report _ _ _ _ _).bind fun _ => blind_pure _) (blind_pure _)

/-- A notification whose handling leaves no trace makes one call at most, and names no file. -/
theorem reports_of_untraced {call : NotifyCall} {files : FileSystem} {hr : HRESULT}
    (h : exit.dispatch call.exitEvent call.context call.outcomes files = (.returned hr, [])) :
    (exit.notifyCall call files).2.head?.toList = (exit.notifyCall call files).2
      ∧ ∀ path, (exit.notifyCall call files).2.head? ≠ some (.getTempFileName path) := by
  have hnone : (exit.notifyCall call files).2 = []
      ∨ ∃ event accepted, (exit.notifyCall call files).2 = [.reportEvent event accepted] := by
    rcases exit.notify_cases h with ⟨hr', reportEnding, reported, -, -, ⟨files', hmade⟩, hnotify⟩
      | ⟨-, hnotify⟩
    · have hcalls : (exit.notifyCall call files).2 = reported := congrArg Prod.snd hnotify
      rw [hcalls]
      rcases CEventSource.report_cases _ _ _ _ _ files' with hcase | hcase | ⟨accepted, hcase⟩
      · exact Or.inl (Prod.mk.inj (hmade.symm.trans hcase)).2
      · exact Or.inl (Prod.mk.inj (hmade.symm.trans hcase)).2
      · exact Or.inr ⟨_, accepted, (Prod.mk.inj (hmade.symm.trans hcase)).2⟩
    · exact Or.inl (congrArg Prod.snd hnotify)
  rcases hnone with hcalls | ⟨event, accepted, hcalls⟩ <;> simp [hcalls]

section Issued

variable {exit} {call : NotifyCall} {cert : IssuedCertificate} {files : FileSystem}
  (hcert : exit.dispatch call.exitEvent call.context call.outcomes
    = cert.objEventProcessor.notifyCertIssued cert.pwszSubjectKeyIdentifier cert.pwszSerialNumber
        cert.bufRawCert call.outcomes.processor)

include hcert

theorem head?_notifyCall {path : WStr} (halloc : call.outcomes.processor.allocTempFile ≠ none)
    (h : CEventProcessor.TempPath call.outcomes.processor files path) :
    (exit.notifyCall call files).2.head? = some (.getTempFileName path) := by
  have hbegins := cert.objEventProcessor.head?_notifyCertIssued cert.pwszSubjectKeyIdentifier
    cert.pwszSerialNumber cert.bufRawCert _ halloc h
  rw [← hcert] at hbegins
  obtain ⟨rest, hrest⟩ : (exit.dispatch call.exitEvent call.context call.outcomes files).2
      <+: (exit.notifyCall call files).2 := isPrefix_bind _ _ files
  rw [← hrest, List.head?_append, hbegins]
  rfl

theorem reports_of_not_named (h : ¬ CEventProcessor.Named call.outcomes.processor files) :
    (exit.notifyCall call files).2.head?.toList = (exit.notifyCall call files).2
      ∧ ∀ path, (exit.notifyCall call files).2.head? ≠ some (.getTempFileName path) := by
  obtain ⟨hr, hrun⟩ := cert.objEventProcessor.notifyCertIssued_of_not_named
    cert.pwszSubjectKeyIdentifier cert.pwszSerialNumber cert.bufRawCert _ h
  rw [← hcert] at hrun
  exact exit.reports_of_untraced hrun

end Issued

/-- **A notification looks at the files once**, and by the end of its first call: on two states of the
files on which it begins alike it makes the same calls. -/
theorem readsFirst_notifyCall (call : NotifyCall) :
    ReadsFirst fun files => (exit.notifyCall call files).2 := by
  intro files files' (hhead : (exit.notifyCall call files).2.head? = (exit.notifyCall call files').2.head?)
  change (exit.notifyCall call files).2 = (exit.notifyCall call files').2
  have hafter := exit.blind_failureReport call.exitEvent call.context call.outcomes
  rcases exit.dispatch_reads call.exitEvent call.context call.outcomes with hblind | ⟨cert, hcert⟩
  · exact congrArg Prod.snd (hblind.bind hafter files files')
  by_cases h : CEventProcessor.Named call.outcomes.processor files
  · obtain ⟨halloc, path, hpath⟩ := h
    rw [head?_notifyCall hcert halloc hpath] at hhead
    by_cases h' : CEventProcessor.Named call.outcomes.processor files'
    · obtain ⟨-, path', hpath'⟩ := h'
      rw [head?_notifyCall hcert halloc hpath', Option.some.injEq, Action.getTempFileName.injEq] at hhead
      subst hhead
      have hsame : exit.dispatch call.exitEvent call.context call.outcomes files
          = exit.dispatch call.exitEvent call.context call.outcomes files' := by
        rw [hcert]
        exact cert.objEventProcessor.notifyCertIssued_eq _ _ _ _ halloc hpath hpath'
      exact congrArg Prod.snd (bind_congr_of_blind hsame hafter)
    · exact absurd hhead.symm ((reports_of_not_named hcert h').2 path)
  · have h' : ¬ CEventProcessor.Named call.outcomes.processor files' := by
      rintro ⟨halloc, path, hpath⟩
      exact (reports_of_not_named hcert h).2 path (hhead.trans (head?_notifyCall hcert halloc hpath))
    -- neither names a file, so both make one call at most, and the first call settles them
    rw [← (reports_of_not_named hcert h).1, hhead, (reports_of_not_named hcert h').1]

end CPMICertExit

end PmiExitModule
