import PmiExitModule.PMICertExit
import PmiExitModule.Proof.MultiString
import PmiExitModule.Proof.Runs

/-!
# The runs of `Notify`

A notification of an issued certificate stops before it reaches the event processor, without a trace, or
is a run of the event processor; every other notification leaves no trace at all. What `Notify` adds is
the report of a failure.
-/

namespace PmiExitModule

open Generic

/-- One call of `Notify`, with what the calls behind it answer. -/
structure NotifyCall where
  exitEvent : LONG
  context : LONG
  outcomes : NotifyOutcomes

section OrBreak

variable {α β : Type} {step : Except Fault (HRESULT × α)}
  {next : α → Except Fault (Except HRESULT β)} {hr : HRESULT} {value : α}

theorem orBreak_of_faulted {fault : Fault} (h : step = .error fault) :
    orBreak step next = .error fault := by
  rw [orBreak, h]
  rfl

theorem orBreak_of_failed (h : step = .ok (hr, value)) (hfailed : FAILED hr) :
    orBreak step next = .ok (.error hr) := by
  rw [orBreak, h]
  simp only [bind, Except.bind, hfailed, if_true]
  rfl

theorem orBreak_of_succeeded (h : step = .ok (hr, value)) (hok : ¬ FAILED hr) :
    orBreak step next = next value := by
  rw [orBreak, h]
  simp only [bind, Except.bind, hok, if_false]

theorem succeeded_of_orBreak {result : β} (h : orBreak step next = .ok (.ok result)) :
    ∃ hr value, step = .ok (hr, value) ∧ ¬ FAILED hr ∧ next value = .ok (.ok result) := by
  obtain ⟨⟨hr, value⟩, hstep, -⟩ := exists_of_bind_eq_ok h
  by_cases hfailed : FAILED hr
  · rw [orBreak_of_failed hstep hfailed] at h
    cases h
  · exact ⟨hr, value, hstep, hfailed, (orBreak_of_succeeded hstep hfailed).symm.trans h⟩

theorem failed_of_orBreak (h : orBreak step next = .ok (.error hr)) :
    FAILED hr ∨ ∃ value, next value = .ok (.error hr) := by
  obtain ⟨⟨hr', value⟩, hstep, -⟩ := exists_of_bind_eq_ok h
  by_cases hfailed : FAILED hr'
  · rw [orBreak_of_failed hstep hfailed, Except.ok.injEq, Except.error.injEq] at h
    exact Or.inl (h ▸ hfailed)
  · rw [orBreak_of_succeeded hstep hfailed] at h
    exact Or.inr ⟨value, h⟩

end OrBreak

namespace CPMICertExit

variable (exit : CPMICertExit)

def notifyCall (call : NotifyCall) : Prog HRESULT :=
  exit.notify call.exitEvent call.context call.outcomes

theorem failed_of_readIssuedCertificate {objServer : CCertServerExit} {o : NotifyOutcomes}
    {hr : HRESULT} (h : exit.readIssuedCertificate objServer o = .ok (.error hr)) : FAILED hr := by
  rcases failed_of_orBreak h with hfailed | ⟨ski, h⟩
  · exact hfailed
  rcases failed_of_orBreak h with hfailed | ⟨serial, h⟩
  · exact hfailed
  rcases failed_of_orBreak h with hfailed | ⟨buf, h⟩
  · exact hfailed
  rcases failed_of_orBreak h with hfailed | ⟨objEventProcessor, h⟩
  · exact hfailed
  · cases h

/-- The event processor an issued certificate is handed to: its log is the log of the exit module, its
configuration is loaded, with the path of the EXE as it was read into the buffer, and every static
argument is a string. -/
theorem processor_of_readIssuedCertificate {objServer : CCertServerExit} {o : NotifyOutcomes}
    {cert : IssuedCertificate} (h : exit.readIssuedCertificate objServer o = .ok (.ok cert)) :
    cert.objEventProcessor.objEventSource = exit.objEventSource
      ∧ CEventProcessorConfig.init {} o.registry = .ok (S_OK, cert.objEventProcessor.objConfig)
      ∧ ∃ (value : RegistryValue) (garbage : Nat → BYTE) (static : List WStr),
        o.registry.queryExePath = .ok value ∧ o.registry.allocExePath = some garbage
        ∧ cert.objEventProcessor.objConfig.strExePath
          = some (CEventProcessorConfig.exePathBuffer value garbage)
        ∧ cert.objEventProcessor.objConfig.getArguments = .ok (static.map .str) := by
  obtain ⟨_, _, -, -, h⟩ := succeeded_of_orBreak h
  obtain ⟨_, _, -, -, h⟩ := succeeded_of_orBreak h
  obtain ⟨_, _, -, -, h⟩ := succeeded_of_orBreak h
  obtain ⟨hr, objEventProcessor, hinit, hok, h⟩ := succeeded_of_orBreak h
  obtain ⟨hr', config, hconfig, hcases⟩ := CEventProcessorConfig.init_cases o.registry
  have hprocessor : CEventProcessor.init { objEventSource := exit.objEventSource } o.registry
      = .ok (hr', { objConfig := config, objEventSource := exit.objEventSource }) := by
    simp only [CEventProcessor.init, hconfig]
    rfl
  obtain ⟨rfl, rfl⟩ := Prod.mk.inj (Except.ok.inj (hinit.symm.trans hprocessor))
  obtain ⟨rfl, value, garbage, static, hquery, halloc, hexe, hargs⟩ := hcases.resolve_left hok
  obtain rfl := Except.ok.inj (Except.ok.inj h)
  exact ⟨rfl, hconfig, value, garbage, static, hquery, halloc, hexe, hargs⟩

theorem notifyCRLIssued_cases (context : LONG) (o : NotifyOutcomes) (files : FileSystem) :
    (∃ hr, FAILED hr ∧ notifyCRLIssued context o files = (.returned hr, []))
      ∨ notifyCRLIssued context o files = (.returned S_OK, []) := by
  unfold notifyCRLIssued
  rcases CCertServerExit.init context o.server with ⟨hr, objServer⟩
  by_cases hfailed : FAILED hr
  · left
    refine ⟨hr, hfailed, ?_⟩
    simp only [hfailed, if_true]
    rfl
  · right
    simp only [hfailed, if_false]
    rfl

/-- What a notification that is dispatched can do: nothing that leaves a trace, or the run of the event
processor on what was read of an issued certificate. -/
theorem dispatch_cases (exitEvent context : LONG) (o : NotifyOutcomes) (files : FileSystem) :
    (∃ fault, exitEvent = EXITEVENT_CERTISSUED
      ∧ exit.readIssuedCertificate (CCertServerExit.init context o.server).2 o = .error fault
      ∧ exit.dispatch exitEvent context o files = (.faulted fault, [])) ∨
    (∃ hr, (exitEvent = EXITEVENT_CERTISSUED → FAILED hr) ∧ (FAILED hr ∨ hr = S_OK)
      ∧ exit.dispatch exitEvent context o files = (.returned hr, [])) ∨
    ∃ cert, exitEvent = EXITEVENT_CERTISSUED ∧ ¬ FAILED (CCertServerExit.init context o.server).1
      ∧ exit.readIssuedCertificate (CCertServerExit.init context o.server).2 o = .ok (.ok cert)
      ∧ exit.dispatch exitEvent context o files
        = cert.objEventProcessor.notifyCertIssued cert.pwszSubjectKeyIdentifier cert.pwszSerialNumber
            cert.bufRawCert o.processor files := by
  by_cases hissued : exitEvent = EXITEVENT_CERTISSUED
  · subst hissued
    have hdispatch : exit.dispatch EXITEVENT_CERTISSUED context o = exit.notifyCertIssued context o :=
      if_pos rfl
    rcases hinit : CCertServerExit.init context o.server with ⟨hr, objServer⟩
    by_cases hfailed : FAILED hr
    · refine Or.inr (Or.inl ⟨hr, fun _ => hfailed, Or.inl hfailed, ?_⟩)
      rw [hdispatch, notifyCertIssued, hinit]
      simp only [hfailed, if_true]
      rfl
    · have hwith : exit.dispatch EXITEVENT_CERTISSUED context o
          = exit.notifyCertIssuedWith objServer o := by
        rw [hdispatch, notifyCertIssued, hinit]
        simp only [hfailed, if_false]
      rw [hwith]
      cases hread : exit.readIssuedCertificate objServer o with
      | error fault =>
          refine Or.inl ⟨fault, rfl, rfl, ?_⟩
          rw [notifyCertIssuedWith, hread]
          rfl
      | ok read =>
          cases read with
          | error hr =>
              have hfailed := exit.failed_of_readIssuedCertificate hread
              refine Or.inr (Or.inl ⟨hr, fun _ => hfailed, Or.inl hfailed, ?_⟩)
              rw [notifyCertIssuedWith, hread]
              rfl
          | ok cert =>
              refine Or.inr (Or.inr ⟨cert, rfl, hfailed, rfl, ?_⟩)
              rw [notifyCertIssuedWith, hread]
              rfl
  · have hother : (∃ hr, FAILED hr ∧ exit.dispatch exitEvent context o files = (.returned hr, []))
        ∨ exit.dispatch exitEvent context o files = (.returned S_OK, []) := by
      rw [dispatch, if_neg hissued]
      -- every other branch of the switch answers `S_OK`
      by_cases hcrlissued : exitEvent = EXITEVENT_CRLISSUED
      · subst hcrlissued
        exact notifyCRLIssued_cases context o files
      · right
        repeat' split
        all_goals rfl
    rcases hother with ⟨hr, hfailed, hrun⟩ | hrun
    · refine Or.inr (Or.inl ⟨hr, ?_, Or.inl hfailed, hrun⟩)
      intro h
      exact absurd h hissued
    · refine Or.inr (Or.inl ⟨S_OK, ?_, Or.inr rfl, hrun⟩)
      intro h
      exact absurd h hissued

/-- What `Notify` makes of the run it dispatched to: a failure code is reported and swallowed, anything
else is kept as it is. -/
theorem notify_cases {exitEvent context : LONG} {o : NotifyOutcomes} {files : FileSystem}
    {ending : Ending Fault HRESULT} {actions : List Action}
    (h : exit.dispatch exitEvent context o files = (ending, actions)) :
    (∃ hr reportEnding reported, ending = .returned hr ∧ FAILED hr
      ∧ Made (exit.objEventSource.reportNotifyFailedInternalError exitEvent context hr
        (o.processor.events .MSG_NOTIFY_FAILED)) reportEnding reported
      ∧ exit.notify exitEvent context o files
        = (reportEnding.map fun _ => S_OK, actions ++ reported)) ∨
    ((∀ hr, ending = .returned hr → ¬ FAILED hr)
      ∧ exit.notify exitEvent context o files = (ending, actions)) := by
  cases ending with
  | faulted fault =>
      refine Or.inr ⟨?_, Program.bind_of_faulted h⟩
      intro hr heq
      cases heq
  | running =>
      refine Or.inr ⟨?_, Program.bind_of_running h⟩
      intro hr heq
      cases heq
  | returned hr =>
      by_cases hfailed : FAILED hr
      · refine Or.inl ⟨hr, _, _, rfl, hfailed, ⟨replay files actions, rfl⟩, ?_⟩
        unfold notify
        apply Program.bind_chain h
        simp only [hfailed, if_true]
        exact Program.bind_pure_apply _ _ _
      · refine Or.inr ⟨?_, ?_⟩
        · intro hr' heq
          obtain rfl := Ending.returned.inj heq
          exact hfailed
        · rw [notify, Program.bind_of_returned h]
          simp only [hfailed, if_false]
          exact Prod.ext rfl (List.append_nil _)

end CPMICertExit

end PmiExitModule
