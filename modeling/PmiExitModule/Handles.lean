import Mathlib.Data.Finset.Lattice.Fold
import Mathlib.Order.Lattice.Nat
import PmiExitModule.Generic.Resources
import PmiExitModule.PMICertExit

/-!
# Notifications on the handle table

The kernel hands out handles that are not in use: one for the temp file, and two for each process, which
`CProcess` keeps in its process information until its destructor closes them. A `CProcess` that has not
created its process holds `INVALID_HANDLE_VALUE`, to which `Wait` and `GetExitCode` are applied all the
same; a `CreateProcessW` that fails may have cleared the process information.
-/

namespace PmiExitModule

open Generic

/-- The calls of a notification, with those on the handles of a process told apart. -/
inductive HandleAction where
  | act (action : Action)
  /-- `CreateProcessW` succeeded with these handles of the process and of its thread. -/
  | createProcessW (commandLine : LPCWSTR) (hProcess hThread : HANDLE)
  | waitForSingleObject (hHandle : HANDLE) (dwRes : DWORD)
  /-- `GetExitCodeProcess`, with the exit code if it succeeded. -/
  | getExitCodeProcess (hProcess : HANDLE) (dwExitCode : Option DWORD)
  | closeHandle (hObject : HANDLE)
  deriving DecidableEq

structure HandleState where
  files : FileSystem
  /-- The handles that are in use, whoever they were handed out to. -/
  handles : Finset HANDLE

/-- `INVALID_HANDLE_VALUE` is the pseudo handle of the current process, which is on no table: what is
called on it uses no handle. -/
def IsHandle (h : HANDLE) : Prop := h ≠ NULL ∧ h ≠ INVALID_HANDLE_VALUE

instance (h : HANDLE) : Decidable (IsHandle h) := inferInstanceAs (Decidable (_ ∧ _))

/-- What is a use of a handle only if it is one. -/
def useOf (h : HANDLE) (use : Use HANDLE) : List (Use HANDLE) := if IsHandle h then [use] else []

def HandleAction.uses : HandleAction → List (Use HANDLE)
  | act (.createFile _ hFile) => [.acquire hFile]
  | act (.writeFile hFile _ _) => [.employ hFile]
  | act (.closeHandle hFile) => [.release hFile]
  | act _ => []
  | createProcessW _ hProcess hThread => [.acquire hProcess, .acquire hThread]
  | waitForSingleObject hHandle _ => useOf hHandle (.employ hHandle)
  | getExitCodeProcess hProcess _ => useOf hProcess (.employ hProcess)
  | closeHandle hObject => useOf hObject (.release hObject)

def HandleAction.applyFiles (files : FileSystem) : HandleAction → FileSystem
  | act action => applyAction files action
  | _ => files

def applyHandleAction (state : HandleState) (event : HandleAction) : HandleState where
  files := event.applyFiles state.files
  handles := event.uses.foldl Use.apply state.handles

instance : Replay HandleAction HandleState := ⟨applyHandleAction⟩

abbrev HandleProg (α : Type) := Program Fault HandleAction HandleState α

/-- A part of a notification that is on no handle of a process. -/
def onHandles {α : Type} (program : Prog α) : HandleProg α := program.along HandleState.files .act

/-- Where the kernel takes a handle from. -/
structure KernelHandles where
  next : Finset HANDLE → HANDLE
  fresh : ∀ inUse, next inUse ∉ inUse
  valid : ∀ inUse, IsHandle (next inUse)

instance : Inhabited KernelHandles where
  default := {
    next := fun inUse => inUse.sup id + 2 ^ 64
    fresh := by
      intro inUse hmem
      have hle : inUse.sup id + 2 ^ 64 ≤ inUse.sup id := Finset.le_sup (f := id) hmem
      exact absurd hle (Nat.not_le.mpr (Nat.lt_add_of_pos_right (by decide)))
    valid := by
      intro inUse
      have hlarge : INVALID_HANDLE_VALUE < inUse.sup id + 2 ^ 64 :=
        Nat.lt_of_lt_of_le (by decide) (Nat.le_add_left _ _)
      exact ⟨Nat.ne_of_gt (Nat.zero_lt_of_lt hlarge), Nat.ne_of_gt hlarge⟩ }

/-- What `CreateProcessW` does with the handles in the process information. -/
structure ProcessHandles where
  hProcess : KernelHandles
  hThread : KernelHandles
  /-- Where it fails, it has cleared them. -/
  clears : Bool

/-! ### `CProcess` -/

/-- The members of `CProcess`, those of `m_stProcInfo` among them. -/
structure CProcessObject where
  hProcess : HANDLE := INVALID_HANDLE_VALUE
  hThread : HANDLE := INVALID_HANDLE_VALUE
  dwProcessId : DWORD := 0
  dwThreadId : DWORD := 0
  bufCmdLine : CHeapBuffer WCHAR := none

namespace CProcessObject

variable (proc : CProcessObject)

def getCommandLine : LPCWSTR := proc.bufCmdLine.get

/-- The object behind a failed `CreateProcessW`. -/
def afterFailure (clears : Bool) : CProcessObject :=
  if clears then
    { proc with hProcess := NULL, hThread := NULL, dwProcessId := 0, dwThreadId := 0 }
  else proc

def create (pwszApplicationName : LPCWSTR) (bufArguments : List LPCWSTR) (o : ProcessOutcomes)
    (handles : ProcessHandles) : HandleProg (HRESULT × CProcessObject) := do
  if proc.hProcess ≠ INVALID_HANDLE_VALUE then
    return (HRESULT_FROM_WIN32 ERROR_INVALID_OPERATION, proc)
  match heapAlloc o.allocCmdLine CProcess.g_cchMaxCommandLine with
  | none => return (E_OUTOFMEMORY, proc)
  | some cells =>
      let (hr, cells) ←
        Program.lift (CProcess.formatCommandLine pwszApplicationName bufArguments cells)
      let proc := { proc with bufCmdLine := some cells }
      if FAILED hr then return (hr, proc)
      match o.createProcess with
      | .error e =>
          Program.emit (.act (.createProcess proc.getCommandLine false))
          return (HRESULT_FROM_WIN32 e.code, proc.afterFailure handles.clears)
      | .ok info =>
          let state ← Program.read
          let hProcess := handles.hProcess.next state.handles
          let hThread := handles.hThread.next (insert hProcess state.handles)
          Program.emit (.createProcessW proc.getCommandLine hProcess hThread)
          return (hr, { proc with
            hProcess := hProcess
            hThread := hThread
            dwProcessId := info.dwProcessId
            dwThreadId := info.dwThreadId })

def wait (o : ProcessOutcomes) : HandleProg HRESULT := do
  Program.emit (.waitForSingleObject proc.hProcess o.waitResult)
  return CProcess.waitHResult o.waitResult o.waitError

def getExitCode (dwExitCode : DWORD) (o : ProcessOutcomes) : HandleProg (HRESULT × DWORD) := do
  match o.getExitCodeProcess with
  | .error e =>
      Program.emit (.getExitCodeProcess proc.hProcess none)
      return (HRESULT_FROM_WIN32 e.code, dwExitCode)
  | .ok code =>
      Program.emit (.getExitCodeProcess proc.hProcess (some code))
      return (S_OK, code)

def closeUnlessInvalid (hObject : HANDLE) : HandleProg Unit := do
  if hObject ≠ INVALID_HANDLE_VALUE then Program.emit (.closeHandle hObject)

/-- `CProcess::~CProcess`. -/
def destroy : HandleProg Unit := do
  closeUnlessInvalid proc.hProcess
  closeUnlessInvalid proc.hThread

end CProcessObject

/-- A call on a `CProcess`. -/
inductive ProcessCall where
  | create (pwszApplicationName : LPCWSTR) (bufArguments : List LPCWSTR) (o : ProcessOutcomes)
      (handles : ProcessHandles)
  | wait (o : ProcessOutcomes)
  | getExitCode (dwExitCode : DWORD) (o : ProcessOutcomes)

namespace CProcessObject

def call (proc : CProcessObject) : ProcessCall → HandleProg CProcessObject
  | .create pwszApplicationName bufArguments o handles => do
      let (_, proc) ← proc.create pwszApplicationName bufArguments o handles
      return proc
  | .wait o => do
      let _ ← proc.wait o
      return proc
  | .getExitCode dwExitCode o => do
      let _ ← proc.getExitCode dwExitCode o
      return proc

/-- An object from its constructor to its destructor, with these calls made on it. -/
def life (calls : List ProcessCall) : HandleProg Unit := do
  let proc ← Program.each call {} calls
  proc.destroy

end CProcessObject

/-! ### `CEventProcessor` -/

/-- What the calls behind an event processor answer, with the handles its file and its process get. -/
structure HandleOutcomes where
  /-- The handle in the answer of `CreateFileW` is not looked at. -/
  processor : ProcessorOutcomes
  hFile : KernelHandles
  process : ProcessHandles

/-- The answers on a table that has these handles in use. -/
def HandleOutcomes.onTable (o : HandleOutcomes) (inUse : Finset HANDLE) : ProcessorOutcomes :=
  { o.processor with
    tempFile := { o.processor.tempFile with
      createFile := o.processor.tempFile.createFile.map fun _ => o.hFile.next inUse } }

namespace CEventProcessor

variable (processor : CEventProcessor)

def watchProcessObject (objProc : CProcessObject) (pwszTempFile : LPCWSTR) (dwExitCode : DWORD)
    (o : ProcessOutcomes) (events : EventId → EventOutcomes) : HandleProg (HRESULT × DWORD) := do
  let source := processor.objEventSource
  onHandles (source.reportProcessStartSucceeded processor.objConfig.getExePath objProc.getCommandLine
    objProc.dwProcessId objProc.dwThreadId (events .MSG_PROCESS_START_SUCCEEDED))
  let hr ← objProc.wait o
  if FAILED hr then
    if hr = HRESULT_FROM_WIN32 ERROR_TIMEOUT then
      onHandles (source.reportProcessTimedOut (g_dwProcessTimeoutMSecs / 1000) objProc.dwProcessId
        objProc.dwThreadId pwszTempFile (events .MSG_PROCESS_TIMEDOUT))
    return (hr, dwExitCode)
  let (hr, dwExitCode) ← objProc.getExitCode dwExitCode o
  if FAILED hr then return (hr, dwExitCode)
  if dwExitCode ≠ 0 then
    onHandles (source.reportProcessFailed objProc.dwProcessId objProc.dwThreadId dwExitCode
      pwszTempFile (events .MSG_PROCESS_FAILED))
  else
    onHandles (source.reportProcessSucceeded objProc.dwProcessId objProc.dwThreadId dwExitCode
      (events .MSG_PROCESS_SUCCEEDED))
  return (hr, dwExitCode)

/-- `RunProcess` up to the destructor of its `CProcess`, which is declared first. -/
def runProcessObject (bufArgs : List LPCWSTR) (pwszTempFile : LPCWSTR) (dwExitCode : DWORD)
    (o : ProcessOutcomes) (handles : ProcessHandles) (events : EventId → EventOutcomes) :
    HandleProg ((HRESULT × DWORD) × CProcessObject) := do
  let exePath := processor.objConfig.getExePath
  if exePath = .null then return ((HRESULT_FROM_WIN32 ERROR_INVALID_OPERATION, dwExitCode), {})
  let (hr, objProc) ← CProcessObject.create {} exePath bufArgs o handles
  if FAILED hr then
    onHandles (processor.objEventSource.reportProcessStartFailed exePath objProc.getCommandLine hr
      (events .MSG_PROCESS_START_FAILED))
    return ((hr, dwExitCode), objProc)
  let result ← processor.watchProcessObject objProc pwszTempFile dwExitCode o events
  return (result, objProc)

def runProcessOnHandles (bufArgs : List LPCWSTR) (pwszTempFile : LPCWSTR) (dwExitCode : DWORD)
    (o : ProcessOutcomes) (handles : ProcessHandles) (events : EventId → EventOutcomes) :
    HandleProg (HRESULT × DWORD) := do
  let (result, objProc) ←
    processor.runProcessObject bufArgs pwszTempFile dwExitCode o handles events
  objProc.destroy
  return result

def launchOnHandles (pwszSubjectKeyIdentifier pwszSerialNumber pwszTempFile : LPCWSTR)
    (o : HandleOutcomes) (objTempFile : CTempFile) : HandleProg (HRESULT × CTempFile) := do
  let (hr, pwszEscSubjectKeyIdentifier, pwszEscTempFile) ←
    Program.lift (processor.escapeArguments pwszSubjectKeyIdentifier pwszTempFile o.processor)
  if FAILED hr then return (hr, objTempFile)
  if !o.processor.allocArgs then return (E_OUTOFMEMORY, objTempFile)
  let bufBaseArgs ← Program.lift processor.objConfig.getArguments
  let bufArgs := bufBaseArgs
    ++ certIssuedArguments pwszEscSubjectKeyIdentifier pwszSerialNumber pwszEscTempFile
  let (hr, dwExitCode) ← processor.runProcessOnHandles bufArgs pwszTempFile 0 o.processor.process
    o.process o.processor.events
  if FAILED hr ∨ dwExitCode ≠ 0 then return (hr, objTempFile.preserve)
  return (hr, objTempFile)

/-- The temp file gets its handle from the table as it is when `CTempFile::Create` is called. -/
def writeAndLaunchOnHandles (pwszSubjectKeyIdentifier pwszSerialNumber : LPCWSTR)
    (bufRawCert : List BYTE) (o : HandleOutcomes) : HandleProg (HRESULT × CTempFile) := do
  let (hr, strTempFile) ← onHandles (getTempFilePath o.processor)
  if FAILED hr then return (hr, {})
  let state ← Program.read
  let (hr, objTempFile) ←
    onHandles (CTempFile.create {} (CHeapBuffer.get strTempFile) (o.onTable state.handles).tempFile)
  if FAILED hr then return (hr, objTempFile)
  let (hr, _) ← onHandles (writeLoop objTempFile bufRawCert 0 o.processor.writeFile)
  if FAILED hr then return (hr, objTempFile)
  let objTempFile ← onHandles objTempFile.close
  processor.launchOnHandles pwszSubjectKeyIdentifier pwszSerialNumber (CHeapBuffer.get strTempFile) o
    objTempFile

def notifyCertIssuedOnHandles (pwszSubjectKeyIdentifier pwszSerialNumber : LPCWSTR)
    (bufRawCert : List BYTE) (o : HandleOutcomes) : HandleProg HRESULT := do
  let (hr, objTempFile) ←
    processor.writeAndLaunchOnHandles pwszSubjectKeyIdentifier pwszSerialNumber bufRawCert o
  onHandles (objTempFile.destroy o.processor.deleteFile)
  return hr

end CEventProcessor

/-! ### `CPMICertExit` -/

/-- One call of `Notify`, with what the calls behind it answer. -/
structure HandleNotification where
  exitEvent : LONG
  context : LONG
  server : ServerOutcomes
  registry : RegistryOutcomes
  processor : HandleOutcomes

namespace HandleNotification

variable (call : HandleNotification)

def outcomes : NotifyOutcomes := ⟨call.server, call.registry, call.processor.processor⟩

/-- The answers on a table that has these handles in use. -/
def onTable (inUse : Finset HANDLE) : NotifyOutcomes :=
  ⟨call.server, call.registry, call.processor.onTable inUse⟩

end HandleNotification

namespace CPMICertExit

variable (exit : CPMICertExit) (call : HandleNotification)

/-- `CPMICertExit::NotifyCertIssued(lContext)`. -/
def notifyCertIssuedOnHandles : HandleProg HRESULT := do
  let (hr, obj) := CCertServerExit.init call.context call.server
  if FAILED hr then return hr
  match ← Program.lift (exit.readIssuedCertificate obj call.outcomes) with
  | .error hr => return hr
  | .ok cert =>
      cert.objEventProcessor.notifyCertIssuedOnHandles cert.pwszSubjectKeyIdentifier
        cert.pwszSerialNumber cert.bufRawCert call.processor

/-- Only a notification of an issued certificate takes handles. -/
def dispatchOnHandles : HandleProg HRESULT :=
  if call.exitEvent = EXITEVENT_CERTISSUED then exit.notifyCertIssuedOnHandles call
  else onHandles (exit.dispatch call.exitEvent call.context call.outcomes)

def notifyOnHandles : HandleProg HRESULT := do
  let hr ← exit.dispatchOnHandles call
  if FAILED hr then do
    onHandles (exit.objEventSource.reportNotifyFailedInternalError call.exitEvent call.context hr
      (call.processor.processor.events .MSG_NOTIFY_FAILED))
    return S_OK
  return hr

/-- The notifications of a CA, one after the other, up to the first that does not return. -/
def serveOnHandles (calls : List HandleNotification) : HandleProg Unit :=
  Program.each (fun _ call => exit.notifyOnHandles call >>= fun _ => pure ()) () calls

end CPMICertExit

end PmiExitModule
