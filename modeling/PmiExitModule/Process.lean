import PmiExitModule.Win32.StrSafe
import PmiExitModule.Win32.System

/-!
# `CProcess`

The Win32 process wrapper: it renders a command line into a buffer of its own, creates the process,
waits for it and reads its exit code.
-/

namespace PmiExitModule

open Generic

def SPACE : WCHAR := 0x20
def QUOTE : WCHAR := 0x22

def wszSpace : WStr := ⟨[SPACE], by decide⟩

def wszQuote : WStr := ⟨[QUOTE], by decide⟩

namespace CProcess

def g_cchMaxCommandLine : Nat := 32768

def scanForSpace : List WCHAR → Bool
  | [] => false
  | c :: rest => if c = SPACE then true else scanForSpace rest

/-- `CProcess::HasWhiteSpace`. It dereferences its argument, and over a block without a terminator
it runs out of the block unless a space stops it first. -/
def hasWhiteSpace : LPCWSTR → Except Fault Bool
  | .null => .error .nullPointer
  | .str s => .ok (scanForSpace s.units)
  | .unterminated cells => if scanForSpace cells then .ok true else .error .outOfBounds

/-- `CProcess::WriteArgument`, on the cursor its first two parameters refer to. -/
def writeArgument (current : Cursor) (pwszArg : LPCWSTR) : Except Fault (HRESULT × Cursor) := do
  let fEscape ← hasWhiteSpace pwszArg
  let (hr, current) ← if fEscape then stringCchCopyExW current (.str wszQuote) else pure (S_OK, current)
  if FAILED hr then return (hr, current)
  let (hr, current) ← stringCchCopyExW current pwszArg
  if FAILED hr then return (hr, current)
  if fEscape then stringCchCopyExW current (.str wszQuote) else return (hr, current)

/-- The loop of `FormatCommandLine` over the arguments, with the `hr` it is left with. -/
def writeArguments (current : Cursor) : List LPCWSTR → Except Fault (HRESULT × Cursor)
  | [] => return (S_OK, current)
  | pwszArg :: rest => do
      let (hr, current) ← stringCchCopyExW current (.str wszSpace)
      if FAILED hr then return (hr, current)
      let (hr, current) ← writeArgument current pwszArg
      if FAILED hr then return (hr, current)
      writeArguments current rest

/-- `CProcess::FormatCommandLine`. The `hr` of the loop is dropped: the function ends with
`return S_OK`. -/
def formatCommandLine (pwszApplicationName : LPCWSTR) (bufArgs : List LPCWSTR)
    (bufResult : List WCHAR) : Except Fault (HRESULT × List WCHAR) := do
  let (hr, current) ← writeArgument ⟨bufResult, 0, bufResult.length⟩ pwszApplicationName
  if FAILED hr then return (hr, current.cells)
  let (_, current) ← writeArguments current bufArgs
  return (S_OK, current.cells)

end CProcess

structure ProcessInformation where
  dwProcessId : DWORD
  dwThreadId : DWORD
  deriving DecidableEq

/-- The members of `CProcess`; no process information stands for `INVALID_HANDLE_VALUE`. -/
structure CProcess where
  procInfo : Option ProcessInformation := none
  bufCmdLine : CHeapBuffer WCHAR := none

structure ProcessOutcomes where
  allocCmdLine : HeapOutcome WCHAR
  createProcess : Except Win32Error ProcessInformation
  /-- The result of `WaitForSingleObject`, and the last error behind `WAIT_FAILED`. -/
  waitResult : DWORD
  waitError : Win32Error
  getExitCodeProcess : Except Win32Error DWORD

namespace CProcess

def getCommandLine (proc : CProcess) : LPCWSTR := proc.bufCmdLine.get

def getProcessID (proc : CProcess) : DWORD := (proc.procInfo.map (·.dwProcessId)).getD 0

def getThreadID (proc : CProcess) : DWORD := (proc.procInfo.map (·.dwThreadId)).getD 0

def create (proc : CProcess) (pwszApplicationName : LPCWSTR) (bufArguments : List LPCWSTR)
    (o : ProcessOutcomes) : Prog (HRESULT × CProcess) := do
  if proc.procInfo.isSome then return (HRESULT_FROM_WIN32 ERROR_INVALID_OPERATION, proc)
  match heapAlloc o.allocCmdLine g_cchMaxCommandLine with
  | none => return (E_OUTOFMEMORY, proc)
  | some cells =>
      let (hr, cells) ← Program.lift (formatCommandLine pwszApplicationName bufArguments cells)
      let proc := { proc with bufCmdLine := some cells }
      if FAILED hr then return (hr, proc)
      match o.createProcess with
      | .error e =>
          Program.emit (.createProcess proc.getCommandLine false)
          return (HRESULT_FROM_WIN32 e.code, proc)
      | .ok info =>
          Program.emit (.createProcess proc.getCommandLine true)
          return (hr, { proc with procInfo := some info })

def WAIT_OBJECT_0 : DWORD := 0
def WAIT_ABANDONED : DWORD := 0x80
def WAIT_TIMEOUT : DWORD := 0x102
def WAIT_FAILED : DWORD := 0xFFFFFFFF

/-- The `switch` of `CProcess::Wait`. -/
def waitHResult (dwRes : DWORD) (lastError : Win32Error) : HRESULT :=
  if dwRes = WAIT_OBJECT_0 then S_OK
  else if dwRes = WAIT_ABANDONED then E_ABORT
  else if dwRes = WAIT_TIMEOUT then HRESULT_FROM_WIN32 ERROR_TIMEOUT
  else if dwRes = WAIT_FAILED then HRESULT_FROM_WIN32 lastError.code
  else E_UNEXPECTED

def wait (o : ProcessOutcomes) : Prog HRESULT := do
  Program.emit (.waitForSingleObject o.waitResult)
  return waitHResult o.waitResult o.waitError

/-- `CProcess::GetExitCode`; on failure the caller's `dwExitCode` keeps its value. -/
def getExitCode (dwExitCode : DWORD) (o : ProcessOutcomes) : Prog (HRESULT × DWORD) := do
  match o.getExitCodeProcess with
  | .error e => return (HRESULT_FROM_WIN32 e.code, dwExitCode)
  | .ok code =>
      Program.emit (.getExitCodeProcess code)
      return (S_OK, code)

/-! ### What the calls can do -/

theorem formatCommandLine_hr {app : LPCWSTR} {args : List LPCWSTR} {cells cells' : List WCHAR}
    {hr : HRESULT} (h : formatCommandLine app args cells = .ok (hr, cells')) :
    FAILED hr ∨ hr = S_OK := by
  unfold formatCommandLine at h
  obtain ⟨⟨hrPath, path⟩, -, h⟩ := exists_of_bind_eq_ok h
  by_cases hfailed : FAILED hrPath
  · left
    simp only [hfailed, if_true] at h
    obtain ⟨rfl, -⟩ := Prod.mk.inj (Except.ok.inj h)
    exact hfailed
  · right
    simp only [hfailed, if_false] at h
    obtain ⟨result, -, h⟩ := exists_of_bind_eq_ok h
    exact (Prod.mk.inj (Except.ok.inj h)).1.symm

/-- `Create` faults or fails before the call, fails in the call, or creates exactly one process. -/
theorem create_cases (app : LPCWSTR) (args : List LPCWSTR) (o : ProcessOutcomes)
    (files : FileSystem) :
    (∃ fault cells, formatCommandLine app args cells = .error fault
      ∧ create {} app args o files = (.faulted fault, [])) ∨
    (∃ hr proc, FAILED hr ∧ proc.procInfo = none ∧
      create {} app args o files = (.returned (hr, proc), [])) ∨
    (∃ hr proc, FAILED hr ∧ proc.procInfo = none ∧ create {} app args o files
      = (.returned (hr, proc), [.createProcess proc.getCommandLine false])) ∨
    ∃ proc info, o.createProcess = .ok info ∧ proc.procInfo = some info ∧ create {} app args o files
      = (.returned (S_OK, proc), [.createProcess proc.getCommandLine true]) := by
  cases halloc : o.allocCmdLine with
  | none => exact Or.inr (Or.inl ⟨E_OUTOFMEMORY, {}, by simp, rfl, by simp [create, halloc]⟩)
  | some garbage =>
      cases hformat : formatCommandLine app args
          ((List.range g_cchMaxCommandLine).map garbage) with
      | error fault => exact Or.inl ⟨fault, _, hformat, by simp [create, halloc, hformat]⟩
      | ok result =>
          obtain ⟨hr, cells⟩ := result
          right
          by_cases hfailed : FAILED hr
          · refine Or.inl ⟨hr, { bufCmdLine := some cells }, hfailed, rfl, ?_⟩
            simp [create, halloc, hformat, hfailed]
          · right
            obtain rfl : hr = S_OK := (formatCommandLine_hr hformat).resolve_left hfailed
            cases hcreate : o.createProcess with
            | error e =>
                refine Or.inl ⟨_, { bufCmdLine := some cells }, e.failed, rfl, ?_⟩
                simp [create, halloc, hformat, hcreate]
            | ok info =>
                refine Or.inr ⟨{ procInfo := some info, bufCmdLine := some cells }, info, rfl, rfl, ?_⟩
                simp [create, halloc, hformat, hcreate, getCommandLine]

theorem failed_waitHResult_iff (dwRes : DWORD) (lastError : Win32Error) :
    FAILED (waitHResult dwRes lastError) ↔ dwRes ≠ WAIT_OBJECT_0 := by
  have htimeout : FAILED (HRESULT_FROM_WIN32 ERROR_TIMEOUT) := by decide
  unfold waitHResult
  by_cases hobject : dwRes = WAIT_OBJECT_0
  · simp [hobject]
  · rw [if_neg hobject]
    apply iff_of_true _ hobject
    split
    · exact failed_E_ABORT
    split
    · exact htimeout
    split
    · exact lastError.failed
    · exact failed_E_UNEXPECTED

end CProcess

end PmiExitModule
