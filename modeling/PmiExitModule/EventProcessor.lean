import PmiExitModule.EventProcessorConfig
import PmiExitModule.EventSource
import PmiExitModule.Process
import PmiExitModule.TempFile

/-!
# `CEventProcessor`

The handling of one issued certificate: it is written to a temp file, the configured process is run on
that file, and the file is deleted unless the process could not be seen to succeed.
-/

namespace PmiExitModule

open Generic

def APOSTROPHE : WCHAR := 0x27

def wszApostrophe : WStr := ⟨[APOSTROPHE], by decide⟩

/-- `GetTempFileNameW` with `uUnique` 0: it creates a file under a name that is not in use, and
refuses a folder that does not leave room for the name. -/
structure TempFileNames where
  next : (folder filePrefix : WStr) → FileSystem → Except Win32Error WStr
  fresh : ∀ folder filePrefix files path,
    next folder filePrefix files = .ok path → files path = none
  short : ∀ folder filePrefix files path,
    next folder filePrefix files = .ok path → path.length < MAX_PATH

/-- What the calls of one `CEventProcessor::NotifyCertIssued` answer. -/
structure ProcessorOutcomes where
  getTempPath : Except Win32Error WStr
  allocTempFile : HeapOutcome WCHAR
  tempFileNames : TempFileNames
  tempFile : CreateFileOutcomes
  writeFile : List WriteOutcome
  allocEscSubjectKeyIdentifier : HeapOutcome WCHAR
  allocEscTempFile : HeapOutcome WCHAR
  allocArgs : Bool
  process : ProcessOutcomes
  events : EventId → EventOutcomes
  deleteFile : Bool

structure CEventProcessor where
  objConfig : CEventProcessorConfig := {}
  objEventSource : CEventSource

namespace CEventProcessor

def g_pwszTempFileNamePrefix : WStr := .ofLiteral "PMI"
def g_dwProcessTimeoutMSecs : DWORD := 10000

def init (processor : CEventProcessor) (o : RegistryOutcomes) :
    Except Fault (HRESULT × CEventProcessor) := do
  let (hr, config) ← processor.objConfig.init o
  return (hr, { processor with objConfig := config })

def getTempFilePath (o : ProcessorOutcomes) : Prog (HRESULT × CHeapBuffer WCHAR) := do
  match o.getTempPath with
  | .error e => return (HRESULT_FROM_WIN32 e.code, none)
  | .ok folder =>
      match heapAlloc o.allocTempFile (MAX_PATH + 1) with
      | none => return (E_OUTOFMEMORY, none)
      | some cells =>
          let files ← Program.read
          match o.tempFileNames.next folder g_pwszTempFileNamePrefix files with
          | .error e => return (HRESULT_FROM_WIN32 e.code, some cells)
          | .ok path =>
              Program.emit (.getTempFileName path)
              let cells ← Program.lift (store cells 0 (path.units ++ [NUL]))
              return (S_OK, some cells)

def wcslen : LPCWSTR → Except Fault Nat
  | .null => .error .nullPointer
  | .str s => .ok s.length
  | .unterminated _ => .error .outOfBounds

def escapeCopies (pwsz : LPCWSTR) (result : Cursor) : Except Fault (HRESULT × Cursor) := do
  let (hr, result) ← stringCchCopyExW result (.str wszApostrophe)
  if FAILED hr then return (hr, result)
  let (hr, result) ← stringCchCopyExW result pwsz
  if FAILED hr then return (hr, result)
  stringCchCopyExW result (.str wszApostrophe)

def escapeArgumentForPS (pwsz : LPCWSTR) (heap : HeapOutcome WCHAR) :
    Except Fault (HRESULT × CHeapBuffer WCHAR) := do
  let cch := (← wcslen pwsz) + 3
  match heapAlloc heap cch with
  | none => return (E_OUTOFMEMORY, none)
  | some cells =>
      let (hr, result) ← escapeCopies pwsz ⟨cells, 0, cch⟩
      return (hr, some result.cells)

/-- The write loop of `NotifyCertIssued`, on a schedule of `WriteFile` outcomes. Every turn hands
`Write` the index 0 and the length of the whole buffer. -/
def writeLoop (objTempFile : CTempFile) (bufRawCert : List BYTE) (cbTotal : Nat) :
    List WriteOutcome → Prog (HRESULT × Nat)
  | [] => if cbTotal < bufRawCert.length then Program.wait else return (S_OK, cbTotal)
  | o :: rest =>
      if cbTotal < bufRawCert.length then do
        let (hr, cbWritten) ← objTempFile.write bufRawCert 0 bufRawCert.length o
        if FAILED hr then return (hr, cbTotal)
        writeLoop objTempFile bufRawCert (cbTotal + cbWritten) rest
      else return (S_OK, cbTotal)

def wszCertIssued : WStr := .ofLiteral "certissued"
def wszSubjectKeyIdentifierSwitch : WStr := .ofLiteral "-subjectkeyidentifier"
def wszSerialNumberSwitch : WStr := .ofLiteral "-serialnumber"
def wszRawCertPathSwitch : WStr := .ofLiteral "-rawcertpath"

def certIssuedArguments (pwszEscSubjectKeyIdentifier pwszSerialNumber pwszEscTempFile : LPCWSTR) :
    List LPCWSTR :=
  [.str wszCertIssued, .str wszSubjectKeyIdentifierSwitch, pwszEscSubjectKeyIdentifier,
    .str wszSerialNumberSwitch, pwszSerialNumber, .str wszRawCertPathSwitch, pwszEscTempFile]

/-- What `RunProcess` does once the process is created: it reports the start, waits, and reports how
the process ended. -/
def watchProcess (processor : CEventProcessor) (objProc : CProcess) (pwszTempFile : LPCWSTR)
    (dwExitCode : DWORD) (o : ProcessOutcomes) (events : EventId → EventOutcomes) :
    Prog (HRESULT × DWORD) := do
  let source := processor.objEventSource
  source.reportProcessStartSucceeded processor.objConfig.getExePath objProc.getCommandLine
    objProc.getProcessID objProc.getThreadID (events .MSG_PROCESS_START_SUCCEEDED)
  let hr ← CProcess.wait o
  if FAILED hr then
    if hr = HRESULT_FROM_WIN32 ERROR_TIMEOUT then
      source.reportProcessTimedOut (g_dwProcessTimeoutMSecs / 1000) objProc.getProcessID
        objProc.getThreadID pwszTempFile (events .MSG_PROCESS_TIMEDOUT)
    return (hr, dwExitCode)
  let (hr, dwExitCode) ← CProcess.getExitCode dwExitCode o
  if FAILED hr then return (hr, dwExitCode)
  if dwExitCode ≠ 0 then
    source.reportProcessFailed objProc.getProcessID objProc.getThreadID dwExitCode pwszTempFile
      (events .MSG_PROCESS_FAILED)
  else
    source.reportProcessSucceeded objProc.getProcessID objProc.getThreadID dwExitCode
      (events .MSG_PROCESS_SUCCEEDED)
  return (hr, dwExitCode)

def runProcess (processor : CEventProcessor) (bufArgs : List LPCWSTR) (pwszTempFile : LPCWSTR)
    (dwExitCode : DWORD) (o : ProcessOutcomes) (events : EventId → EventOutcomes) :
    Prog (HRESULT × DWORD) := do
  let exePath := processor.objConfig.getExePath
  if exePath = .null then return (HRESULT_FROM_WIN32 ERROR_INVALID_OPERATION, dwExitCode)
  let (hr, objProc) ← CProcess.create {} exePath bufArgs o
  if FAILED hr then
    processor.objEventSource.reportProcessStartFailed exePath objProc.getCommandLine hr
      (events .MSG_PROCESS_START_FAILED)
    return (hr, dwExitCode)
  processor.watchProcess objProc pwszTempFile dwExitCode o events

/-- The two calls of `EscapeArgumentForPS` under `EscapeForPS`: the strings that stand for the
subject key identifier and the temp path in the arguments. -/
def escapeArguments (processor : CEventProcessor) (pwszSubjectKeyIdentifier pwszTempFile : LPCWSTR)
    (o : ProcessorOutcomes) : Except Fault (HRESULT × LPCWSTR × LPCWSTR) := do
  if !processor.objConfig.fEscapeForPS then
    return (S_OK, pwszSubjectKeyIdentifier, pwszTempFile)
  let (hr, strEscSubjectKeyIdentifier) ←
    escapeArgumentForPS pwszSubjectKeyIdentifier o.allocEscSubjectKeyIdentifier
  if FAILED hr then return (hr, pwszSubjectKeyIdentifier, pwszTempFile)
  let (hr, strEscTempFile) ← escapeArgumentForPS pwszTempFile o.allocEscTempFile
  if FAILED hr then return (hr, CHeapBuffer.get strEscSubjectKeyIdentifier, pwszTempFile)
  return (hr, CHeapBuffer.get strEscSubjectKeyIdentifier, CHeapBuffer.get strEscTempFile)

/-- What `NotifyCertIssued` does once the temp file is written: it builds the arguments and runs the
process. -/
def launch (processor : CEventProcessor)
    (pwszSubjectKeyIdentifier pwszSerialNumber pwszTempFile : LPCWSTR) (o : ProcessorOutcomes)
    (objTempFile : CTempFile) : Prog (HRESULT × CTempFile) := do
  let (hr, pwszEscSubjectKeyIdentifier, pwszEscTempFile) ←
    Program.lift (processor.escapeArguments pwszSubjectKeyIdentifier pwszTempFile o)
  if FAILED hr then return (hr, objTempFile)
  if !o.allocArgs then return (E_OUTOFMEMORY, objTempFile)
  let bufBaseArgs ← Program.lift processor.objConfig.getArguments
  let bufArgs := bufBaseArgs
    ++ certIssuedArguments pwszEscSubjectKeyIdentifier pwszSerialNumber pwszEscTempFile
  let (hr, dwExitCode) ← processor.runProcess bufArgs pwszTempFile 0 o.process o.events
  if FAILED hr ∨ dwExitCode ≠ 0 then return (hr, objTempFile.preserve)
  return (hr, objTempFile)

/-- The body of `NotifyCertIssued`, up to the destructors of its locals. -/
def writeAndLaunch (processor : CEventProcessor)
    (pwszSubjectKeyIdentifier pwszSerialNumber : LPCWSTR) (bufRawCert : List BYTE)
    (o : ProcessorOutcomes) : Prog (HRESULT × CTempFile) := do
  let (hr, strTempFile) ← getTempFilePath o
  if FAILED hr then return (hr, {})
  let (hr, objTempFile) ← CTempFile.create {} (CHeapBuffer.get strTempFile) o.tempFile
  if FAILED hr then return (hr, objTempFile)
  let (hr, _) ← writeLoop objTempFile bufRawCert 0 o.writeFile
  if FAILED hr then return (hr, objTempFile)
  let objTempFile ← objTempFile.close
  processor.launch pwszSubjectKeyIdentifier pwszSerialNumber (CHeapBuffer.get strTempFile) o
    objTempFile

def notifyCertIssued (processor : CEventProcessor)
    (pwszSubjectKeyIdentifier pwszSerialNumber : LPCWSTR) (bufRawCert : List BYTE)
    (o : ProcessorOutcomes) : Prog HRESULT := do
  let (hr, objTempFile) ←
    processor.writeAndLaunch pwszSubjectKeyIdentifier pwszSerialNumber bufRawCert o
  objTempFile.destroy o.deleteFile
  return hr

end CEventProcessor

end PmiExitModule
