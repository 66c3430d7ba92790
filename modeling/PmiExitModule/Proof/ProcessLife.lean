import PmiExitModule.Proof.Handles

/-!
# The life of a `CProcess`

The object says nothing about the order in which its methods are called. In any order it creates one
process at most: what it waits for and asks for an exit code is that process, and while there is none it
is `INVALID_HANDLE_VALUE` or null, which no table has; its destructor closes the two handles it was given
and no others.
-/

namespace PmiExitModule

open Generic

/-- The handles of the process that an object has created. -/
abbrev Creation := Option (HANDLE × HANDLE)

namespace Creation

def OfProcess (created : Creation) (h : HANDLE) : Prop :=
  match created with
  | none => ¬ IsHandle h
  | some (hProcess, _) => h = hProcess

def OfEither (created : Creation) (h : HANDLE) : Prop :=
  match created with
  | none => ¬ IsHandle h
  | some (hProcess, hThread) => h = hProcess ∨ h = hThread

instance (created : Creation) (h : HANDLE) : Decidable (created.OfProcess h) := by
  cases created <;> unfold OfProcess <;> infer_instance

instance (created : Creation) (h : HANDLE) : Decidable (created.OfEither h) := by
  cases created <;> unfold OfEither <;> infer_instance

/-- Where a call leads, if the object may make it. -/
def next (created : Creation) : HandleAction → Option Creation
  | .act _ => some created
  | .createProcessW _ hProcess hThread => if created = none then some (some (hProcess, hThread)) else none
  | .waitForSingleObject h _ => if created.OfProcess h then some created else none
  | .getExitCodeProcess h _ => if created.OfProcess h then some created else none
  | .closeHandle h => if created.OfEither h then some created else none

end Creation

namespace CProcessObject

variable {proc : CProcessObject} {created : Creation} {stop : Creation → Prop}

/-- The process information is that of the process that was created. -/
inductive Remembers (proc : CProcessObject) : Creation → Prop where
  | fresh (hProcess : ¬ IsHandle proc.hProcess) (hThread : ¬ IsHandle proc.hThread) : Remembers proc none
  | created (hvalid : proc.hProcess ≠ INVALID_HANDLE_VALUE) :
      Remembers proc (some (proc.hProcess, proc.hThread))

theorem Remembers.ofProcess (h : proc.Remembers created) : created.OfProcess proc.hProcess := by
  cases h with
  | fresh hProcess => exact hProcess
  | created => exact rfl

theorem Remembers.ofEither (h : proc.Remembers created) :
    created.OfEither proc.hProcess ∧ created.OfEither proc.hThread := by
  cases h with
  | fresh hProcess hThread => exact ⟨hProcess, hThread⟩
  | created => exact ⟨Or.inl rfl, Or.inr rfl⟩

/-- A program of the object, on the monitor of its process. -/
def Behaves {α : Type} (program : HandleProg α) (created : Creation) (post : α → Creation → Prop) : Prop :=
  program.Meets (.ofStep Creation.next) created post fun _ => True

theorem Remembers.eq_none (h : proc.Remembers created) (hinvalid : proc.hProcess = INVALID_HANDLE_VALUE) :
    created = none := by
  cases h with
  | fresh => rfl
  | created hvalid => exact absurd hinvalid hvalid

theorem Remembers.withCmdLine (h : proc.Remembers created) (bufCmdLine : CHeapBuffer WCHAR) :
    Remembers { proc with bufCmdLine := bufCmdLine } created := by
  cases h with
  | fresh hProcess hThread => exact .fresh hProcess hThread
  | created hvalid => exact .created hvalid

theorem Remembers.afterFailure (h : proc.Remembers none) (clears : Bool) :
    (proc.afterFailure clears).Remembers none := by
  cases clears with
  | true => exact .fresh not_isHandle_null not_isHandle_null
  | false => exact h

theorem behaves_create (pwszApplicationName : LPCWSTR) (bufArguments : List LPCWSTR) (o : ProcessOutcomes)
    (handles : ProcessHandles) (h : proc.Remembers created) :
    Behaves (proc.create pwszApplicationName bufArguments o handles) created
      fun result created' => result.2.Remembers created' := by
  refine Program.Meets.ite (fun _ => Program.meets_pure h) fun hinvalid => ?_
  cases heapAlloc o.allocCmdLine CProcess.g_cchMaxCommandLine with
  | none => exact Program.meets_pure h
  | some cells =>
      have hinvalid' : proc.hProcess = INVALID_HANDLE_VALUE := not_not.mp hinvalid
      obtain rfl := h.eq_none hinvalid'
      have hformat : Behaves (Program.lift (CProcess.formatCommandLine pwszApplicationName bufArguments cells))
          none fun _ created' => created' = none := Program.meets_lift (fun _ _ => rfl) trivial
      refine hformat.bind ?_
      rintro ⟨hr, cells⟩ _ rfl
      refine Program.Meets.ite (fun _ => Program.meets_pure (h.withCmdLine _)) fun _ => ?_
      cases o.createProcess with
      | error e =>
          have hfail : Behaves (Program.emit (.act (.createProcess (getCommandLine
              { proc with bufCmdLine := some cells }) false))) none fun _ created' => created' = none :=
            Program.meets_emit rfl rfl
          refine hfail.bind ?_
          rintro _ _ rfl
          exact Program.meets_pure ((h.withCmdLine _).afterFailure _)
      | ok info =>
          have hread : Behaves (Program.read : HandleProg HandleState) none fun _ created' => created' = none :=
            Program.meets_read fun _ _ => rfl
          refine hread.bind ?_
          rintro state _ rfl
          have hvalid := (handles.hProcess.valid state.handles).2
          have hcreate : ∀ commandLine hProcess hThread, Behaves
              (Program.emit (.createProcessW commandLine hProcess hThread)) none
              fun _ created' => created' = some (hProcess, hThread) := by
            intro commandLine hProcess hThread
            exact Program.meets_emit rfl rfl
          refine (hcreate _ _ _).bind ?_
          rintro _ _ rfl
          exact Program.meets_pure (.created hvalid)

theorem behaves_wait (o : ProcessOutcomes) (h : proc.Remembers created) :
    Behaves (proc.wait o) created fun _ created' => created' = created := by
  have hwait : Behaves (Program.emit (.waitForSingleObject proc.hProcess o.waitResult)) created
      fun _ created' => created' = created := Program.meets_emit (if_pos h.ofProcess) rfl
  refine hwait.bind ?_
  rintro _ _ rfl
  exact Program.meets_pure rfl

theorem behaves_getExitCode (dwExitCode : DWORD) (o : ProcessOutcomes) (h : proc.Remembers created) :
    Behaves (proc.getExitCode dwExitCode o) created fun _ created' => created' = created := by
  have hread : ∀ code, Behaves (Program.emit (.getExitCodeProcess proc.hProcess code)) created
      fun _ created' => created' = created := fun code => Program.meets_emit (if_pos h.ofProcess) rfl
  unfold getExitCode
  cases o.getExitCodeProcess with
  | error e =>
      refine (hread none).bind ?_
      rintro _ _ rfl
      exact Program.meets_pure rfl
  | ok code =>
      refine (hread (some code)).bind ?_
      rintro _ _ rfl
      exact Program.meets_pure rfl

theorem behaves_destroy (h : proc.Remembers created) :
    Behaves proc.destroy created fun _ created' => created' = created := by
  have hclose : ∀ hObject, created.OfEither hObject → Behaves (closeUnlessInvalid hObject) created
      fun _ created' => created' = created := by
    intro hObject hown
    refine Program.Meets.ite (fun _ => ?_) fun _ => Program.meets_pure rfl
    exact Program.meets_emit (if_pos hown) rfl
  refine (hclose _ h.ofEither.1).bind ?_
  rintro _ _ rfl
  exact hclose _ h.ofEither.2

theorem behaves_call (c : ProcessCall) (h : proc.Remembers created) :
    Behaves (proc.call c) created fun proc' created' => proc'.Remembers created' := by
  cases c with
  | create pwszApplicationName bufArguments o handles =>
      refine (behaves_create pwszApplicationName bufArguments o handles h).bind ?_
      rintro ⟨hr, proc'⟩ created' hremembers
      exact Program.meets_pure hremembers
  | wait o =>
      refine (behaves_wait o h).bind ?_
      rintro hr _ rfl
      exact Program.meets_pure h
  | getExitCode dwExitCode o =>
      refine (behaves_getExitCode dwExitCode o h).bind ?_
      rintro result _ rfl
      exact Program.meets_pure h

theorem behaves_life (calls : List ProcessCall) : Behaves (life calls) none fun _ _ => True := by
  have hnew : Remembers {} none := .fresh not_isHandle_invalid not_isHandle_invalid
  have hstep : ∀ (proc : CProcessObject) (c : ProcessCall) (created : Creation), proc.Remembers created →
      Behaves (proc.call c) created fun proc' created' => proc'.Remembers created' :=
    fun proc c created hremembers => behaves_call c hremembers
  refine (Program.Meets.each hstep hnew calls).bind ?_
  intro proc created hremembers
  exact (behaves_destroy hremembers).mono fun _ _ _ => trivial

/-! ### The handles of the object -/

theorem meets_call {others own : Finset HANDLE} (c : ProcessCall) (h : proc.Holds own) :
    (proc.call c).Meets (handleMonitor others) own (fun proc' own' => proc'.Holds own') fun _ => True := by
  cases c with
  | create pwszApplicationName bufArguments o handles =>
      refine (meets_create pwszApplicationName bufArguments o handles h).bind ?_
      rintro ⟨hr, proc'⟩ own' hholds
      exact Program.meets_pure hholds
  | wait o =>
      refine (meets_wait o h).bind ?_
      rintro hr _ rfl
      exact Program.meets_pure h
  | getExitCode dwExitCode o =>
      refine (meets_getExitCode dwExitCode o h).bind ?_
      rintro result _ rfl
      exact Program.meets_pure h

theorem meets_life {others : Finset HANDLE} (calls : List ProcessCall) :
    (life calls).Meets (handleMonitor others) ∅ (fun _ own => own = ∅) fun _ => True := by
  have hstep : ∀ (proc : CProcessObject) (c : ProcessCall) (own : Finset HANDLE), proc.Holds own →
      (proc.call c).Meets (handleMonitor others) own (fun proc' own' => proc'.Holds own') fun _ => True :=
    fun proc c own hholds => meets_call c hholds
  refine (Program.Meets.each hstep holds_new calls).bind ?_
  intro proc own hholds
  exact meets_destroy hholds

/-- **An object creates one process at most and gives its handles back**, in whatever order its methods
are called. -/
theorem life_keeps_process (calls : List ProcessCall) (state : HandleState) :
    (∃ created, monitor Creation.next none (life calls state).2 = some created)
      ∧ ReturnsHandles state (life calls state) := by
  obtain ⟨created, hmonitor, -⟩ := behaves_life calls state trivial
  exact ⟨⟨created, hmonitor⟩, returnsHandles_of_meets (meets_life calls)⟩

end CProcessObject

end PmiExitModule
