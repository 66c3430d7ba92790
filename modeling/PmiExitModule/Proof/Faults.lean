import PmiExitModule.Proof.Runs

/-!
# The faults of a run on strings

When the values a notification was handed and the static arguments are strings, no null pointer and no
pointer into nowhere is followed in its run: what is left is the path of the EXE, whose buffer may end
before a terminator.
-/

namespace PmiExitModule

open Generic

/-- The only fault of a computation is an access outside a block. -/
def OutOfBoundsOnly {α : Type} (x : Except Fault α) : Prop :=
  ∀ fault, x = .error fault → fault = .outOfBounds

namespace OutOfBoundsOnly

variable {α β : Type}

theorem ok (value : α) : OutOfBoundsOnly (.ok value) := by
  intro fault h
  cases h

theorem outOfBounds : OutOfBoundsOnly (.error .outOfBounds : Except Fault α) := by
  intro fault h
  exact (Except.error.inj h).symm

theorem bind {x : Except Fault α} {f : α → Except Fault β} (hx : OutOfBoundsOnly x)
    (hf : ∀ value, OutOfBoundsOnly (f value)) : OutOfBoundsOnly (x >>= f) := by
  intro fault h
  cases x with
  | error fault' =>
      obtain rfl := Except.error.inj h
      exact hx fault' rfl
  | ok value => exact hf value fault h

theorem ite {c : Prop} [Decidable c] {x y : Except Fault α} (hx : OutOfBoundsOnly x)
    (hy : OutOfBoundsOnly y) : OutOfBoundsOnly (if c then x else y) := by
  split
  · exact hx
  · exact hy

end OutOfBoundsOnly

open OutOfBoundsOnly

theorem outOfBoundsOnly_read (p : LPCWSTR) (n : Nat) : OutOfBoundsOnly (p.read n) := by
  cases p with
  | null => exact ok _
  | str s => exact ok _
  | unterminated cells => exact ite (ok _) outOfBounds

theorem outOfBoundsOnly_store (cells : List WCHAR) (pos : Nat) (units : List WCHAR) :
    OutOfBoundsOnly (store cells pos units) := ite (ok _) outOfBounds

/-- A copy follows its source whatever it is: a null pointer stands for the empty string. -/
theorem outOfBoundsOnly_stringCchCopyExW (dest : Cursor) (src : LPCWSTR) :
    OutOfBoundsOnly (stringCchCopyExW dest src) := by
  apply ite (ok _)
  apply (outOfBoundsOnly_read _ _).bind
  intro units
  apply (outOfBoundsOnly_store _ _ _).bind
  intro cells
  exact ok _

namespace CProcess

theorem outOfBoundsOnly_hasWhiteSpace {pwszArg : LPCWSTR} (hnotNull : pwszArg ≠ .null) :
    OutOfBoundsOnly (hasWhiteSpace pwszArg) := by
  cases pwszArg with
  | null => exact absurd rfl hnotNull
  | str s => exact ok _
  | unterminated cells => exact ite (ok _) outOfBounds

theorem outOfBoundsOnly_writeArgument (current : Cursor) {pwszArg : LPCWSTR}
    (hnotNull : pwszArg ≠ .null) : OutOfBoundsOnly (writeArgument current pwszArg) := by
  apply (outOfBoundsOnly_hasWhiteSpace hnotNull).bind
  intro fEscape
  -- the copies behind the opening quote are the same whether it was written or not
  refine ite ((outOfBoundsOnly_stringCchCopyExW _ _).bind ?_) ((ok (S_OK, current)).bind ?_)
  all_goals
    intro opened
    apply ite (ok _)
    apply (outOfBoundsOnly_stringCchCopyExW _ _).bind
    intro copied
    apply ite (ok _)
    exact ite (outOfBoundsOnly_stringCchCopyExW _ _) (ok _)

theorem outOfBoundsOnly_writeArguments {args : List LPCWSTR} (hnotNull : ∀ a ∈ args, a ≠ .null)
    (current : Cursor) : OutOfBoundsOnly (writeArguments current args) := by
  induction args generalizing current with
  | nil => exact ok _
  | cons a args ih =>
      obtain ⟨ha, hargs⟩ := List.forall_mem_cons.mp hnotNull
      apply (outOfBoundsOnly_stringCchCopyExW _ _).bind
      intro separated
      apply ite (ok _)
      apply (outOfBoundsOnly_writeArgument _ ha).bind
      intro written
      exact ite (ok _) (ih hargs _)

theorem outOfBoundsOnly_formatCommandLine {app : LPCWSTR} {args : List LPCWSTR} (happ : app ≠ .null)
    (hargs : ∀ a ∈ args, a ≠ .null) (cells : List WCHAR) :
    OutOfBoundsOnly (formatCommandLine app args cells) := by
  apply (outOfBoundsOnly_writeArgument _ happ).bind
  intro path
  apply ite (ok _)
  apply (outOfBoundsOnly_writeArguments hargs _).bind
  intro written
  exact ok _

end CProcess

theorem outOfBounds_of_made {source : CEventSource} {wType : EventType} {id : EventId}
    {args : List CEventArg} {o : EventOutcomes} {fault : Fault} {calls : List Action}
    (h : Made (source.report wType id args o) (.faulted fault) calls) : fault = .outOfBounds := by
  obtain ⟨files, hrun⟩ := h
  rcases source.report_cases wType id args o files with hcase | hcase | ⟨accepted, hcase⟩
  · exact Ending.faulted.inj (Prod.mk.inj (hrun.symm.trans hcase)).1
  · cases (Prod.mk.inj (hrun.symm.trans hcase)).1
  · cases (Prod.mk.inj (hrun.symm.trans hcase)).1

theorem Ending.map_eq_faulted {φ α β : Type} {f : α → β} {ending : Ending φ α} {fault : φ}
    (h : ending.map f = .faulted fault) : ending = .faulted fault := by
  cases ending with
  | faulted fault' => exact congrArg _ (Ending.faulted.inj h)
  | returned value => cases h
  | running => cases h

namespace CEventProcessor

section ProcessRun

variable {processor : CEventProcessor} {bufArgs : List LPCWSTR} {pwszTempFile : LPCWSTR}
  {o : ProcessOutcomes} {events : EventId → EventOutcomes}

theorem ProcessRun.outOfBounds {ending : Ending Fault (HRESULT × DWORD)} {calls : List Action}
    (h : ProcessRun processor bufArgs pwszTempFile o events ending calls)
    (hargs : ∀ a ∈ bufArgs, a ≠ .null) {fault : Fault} (hfault : ending = .faulted fault) :
    fault = .outOfBounds := by
  cases h with
  | noExePath hnull => cases hfault
  | createFaulted fault' files hnotNull hcreate =>
      obtain rfl := Ending.faulted.inj hfault
      rcases CProcess.create_cases processor.objConfig.getExePath bufArgs o files with
        ⟨fault'', cells, hformat, hrun⟩ | ⟨hr, proc, -, -, hrun⟩ | ⟨hr, proc, -, -, hrun⟩
          | ⟨proc, info, -, -, hrun⟩
      · obtain rfl := Ending.faulted.inj (Prod.mk.inj (hcreate.symm.trans hrun)).1
        exact CProcess.outOfBoundsOnly_formatCommandLine hnotNull hargs cells _ hformat
      all_goals cases (Prod.mk.inj (hcreate.symm.trans hrun)).1
  | notStarted hr proc calls ending reported hfailed hcreate hcalls hreport =>
      obtain rfl := Ending.map_eq_faulted hfault
      exact outOfBounds_of_made hreport
  | startUnreported proc fault' started hcreates hstart =>
      obtain rfl := Ending.faulted.inj hfault
      exact outOfBounds_of_made hstart
  | waitFailed proc started hcreates hstart hwait => cases hfault
  | timedOut proc started ending reported hcreates hstart hwait hreport =>
      obtain rfl := Ending.map_eq_faulted hfault
      exact outOfBounds_of_made hreport
  | exitCodeUnread proc started e hcreates hstart => cases hfault
  | exited proc started dwExitCode ending reported hcreates hstart hread hreport =>
      obtain rfl := Ending.map_eq_faulted hfault
      rcases hreport.cases with ⟨-, hmade⟩ | ⟨-, hmade⟩
      · exact outOfBounds_of_made hmade
      · exact outOfBounds_of_made hmade

end ProcessRun

/-- On strings nothing between the writing of the temp file and the process can fault. -/
theorem not_launchFaulted {processor : CEventProcessor} {ski path : WStr} {static : List WStr}
    {o : ProcessorOutcomes} {fault : Fault}
    (hargs : processor.objConfig.getArguments = .ok (static.map .str)) :
    ¬ (processor.escapeArguments (.str ski) (.str path) o = .error fault
      ∨ processor.objConfig.getArguments = .error fault) := by
  rintro (hescape | hbase)
  · rcases processor.escapeArguments_cases ski path o with ⟨hr, escSki, escPath, -, hrun⟩ | hrun
    all_goals
      rw [hescape] at hrun
      cases hrun
  · rw [hargs] at hbase
    cases hbase

theorem NotifyRun.outOfBounds {processor : CEventProcessor} {ski serial : WStr}
    {bufRawCert : List BYTE} {o : ProcessorOutcomes} {files : FileSystem} {static : List WStr}
    {ending : Ending Fault HRESULT} {actions : List Action}
    (h : NotifyRun processor (.str ski) (.str serial) bufRawCert o files ending actions)
    (hargs : processor.objConfig.getArguments = .ok (static.map .str)) {fault : Fault}
    (hfault : ending = .faulted fault) : fault = .outOfBounds := by
  cases h with
  | noTempFile hr hfailed => cases hfault
  | notOpened path hr hnamed hfailed => cases hfault
  | writing path handle writes objTempFile filesOpen hopened hopen hloop => cases hfault
  | notLaunched path handle writes hr hopened hfailed => cases hfault
  | launchFaulted path handle writes fault' hopened hfaulted =>
      exact absurd hfaulted (not_launchFaulted hargs)
  | preserved path handle writes bufArgs ending calls hopened hlaunch hrun hkeep =>
      have hnotNull : ∀ a ∈ bufArgs, a ≠ .null := by
        rw [hlaunch.launchesWith.eq_map_str hargs]
        simp
      exact hrun.outOfBounds hnotNull (Ending.map_eq_faulted hfault)
  | deleted path handle writes bufArgs hr calls hopened hlaunch hrun hok => cases hfault

end CEventProcessor

end PmiExitModule
