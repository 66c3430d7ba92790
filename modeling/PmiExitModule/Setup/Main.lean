import PmiExitModule.Generic.Program
import PmiExitModule.Setup.Arguments
import PmiExitModule.Win32.Registry

/-!
# The setup tool

`wmain` of the tool that registers the message DLL for the event log. What it leaves behind is the
event source's key with its values, which its registry calls change one at a time: an install that
fails midway leaves the values it had set.
-/

namespace PmiExitModule

open Generic

namespace Setup

def BACKSLASH : WCHAR := 0x5C

def EXIT_SUCCESS : Nat := 0
def EXIT_FAILURE : Nat := 1

def ERROR_FILE_NOT_FOUND : DWORD := 2

def PMI_EXITMODULE_CATEGORYCOUNT : DWORD := 1
def PMI_EXITMODULE_PARAMETERCOUNT : DWORD := 0

def g_pwszMessageDLLName : WStr := .ofLiteral "PMIExitModuleMessages.dll"

def wszCategoryCount : WStr := .ofLiteral "CategoryCount"
def wszParameterCount : WStr := .ofLiteral "ParameterCount"

def rgpwszPathValueNames : List WStr :=
  [.ofLiteral "CategoryMessageFile", .ofLiteral "EventMessageFile",
    .ofLiteral "ParameterMessageFile"]

/-- The key `g_pwszRegKeyPath`: it is absent, or has values under names. -/
abbrev EventSourceKey := Option (WStr → Option StoredValue)

/-- A registry call that succeeded. -/
inductive RegAction where
  /-- `RegCreateKeyExW` opened the key, or created it. -/
  | createKey
  | setKeyValue (name : WStr) (value : StoredValue)
  | deleteKey
  deriving DecidableEq

def applyRegAction (key : EventSourceKey) : RegAction → EventSourceKey
  | .createKey => some (key.getD fun _ => none)
  | .setKeyValue name value => key.map fun values => Function.update values name (some value)
  | .deleteKey => none

instance : Replay RegAction EventSourceKey := ⟨applyRegAction⟩

/-- A program of the setup tool. -/
abbrev SetupProg (α : Type) := Program Fault RegAction EventSourceKey α

structure SetupOutcomes where
  /-- The full path of the running executable, where `GetModuleFileNameW` finds it. -/
  moduleFileName : Except Win32Error WStr
  pathFileExists : WStr → Bool
  regCreateKeyEx : DWORD
  regSetKeyValue : (name : WStr) → DWORD
  regDeleteKeyEx : DWORD

/-- `GetModuleFileNameW(NULL, buf, nSize)` on a path it finds: the count it returns and the string it
leaves in the buffer. A path that does not fit is cut, and the count is then `nSize`. -/
def getModuleFileNameW (path : WStr) (nSize : Nat) : Nat × WStr :=
  if path.length < nSize then (path.length, path) else (nSize, path.take (nSize - 1))

/-- `wcsrchr`, as the index of the last occurrence. -/
def wcsrchr : List WCHAR → WCHAR → Option Nat
  | [], _ => none
  | unit :: rest, c =>
      match wcsrchr rest c with
      | some n => some (n + 1)
      | none => if unit = c then some 0 else none

/-- `FindMessageDLL(OUT strPath)`. Of the count it only looks at 0. -/
def findMessageDLL (strPath : WStr) (o : SetupOutcomes) : Bool × WStr :=
  match o.moduleFileName with
  | .error _ => (false, strPath)
  | .ok fullPath =>
      let (cch, wszPath) := getModuleFileNameW fullPath (MAX_PATH + 1)
      if cch = 0 then (false, strPath)
      else
        match wcsrchr wszPath.units BACKSLASH with
        | none => (false, strPath)
        | some dirEnd =>
            let strPath := wszPath.take (dirEnd + 1) ++ g_pwszMessageDLLName
            (o.pathFileExists strPath, strPath)

/-- The first `cbData` bytes of a block. -/
def readBlock (block : List BYTE) (cbData : Nat) : Except Fault (List BYTE) :=
  if cbData ≤ block.length then .ok (block.take cbData) else .error .outOfBounds

/-- `RegSetKeyValueW(hkey, NULL, name, dwType, pData, cbData)`. -/
def regSetKeyValueW (name : WStr) (dwType : DWORD) (pData : List BYTE) (cbData : Nat)
    (o : SetupOutcomes) : SetupProg DWORD := do
  let data ← Program.lift (readBlock pData cbData)
  if o.regSetKeyValue name = ERROR_SUCCESS then
    Program.emit (.setKeyValue name ⟨dwType, data⟩)
  return o.regSetKeyValue name

/-- `(DWORD)strPath.length() * sizeof(WCHAR)` as a `DWORD`. -/
def cbPath (strPath : WStr) : Nat := strPath.length % 2 ^ 32 * 2 % 2 ^ 32

/-- The loop of `InstallMessageDLL` over the value names. -/
def setPathValues (strPath : WStr) (o : SetupOutcomes) : List WStr → SetupProg Bool
  | [] => return true
  | name :: rest => do
      let lStatus ← regSetKeyValueW name REG_SZ (bytesOfUnits (strPath.units ++ [NUL]))
        (cbPath strPath) o
      if lStatus ≠ ERROR_SUCCESS then return false
      setPathValues strPath o rest

def installMessageDLL (strPath : WStr) (o : SetupOutcomes) : SetupProg Bool := do
  if o.regCreateKeyEx ≠ ERROR_SUCCESS then return false
  Program.emit .createKey
  let lStatus ← regSetKeyValueW wszCategoryCount REG_DWORD
    (bytesOfDword PMI_EXITMODULE_CATEGORYCOUNT) 4 o
  if lStatus ≠ ERROR_SUCCESS then return false
  let lStatus ← regSetKeyValueW wszParameterCount REG_DWORD
    (bytesOfDword PMI_EXITMODULE_PARAMETERCOUNT) 4 o
  if lStatus ≠ ERROR_SUCCESS then return false
  setPathValues strPath o rgpwszPathValueNames

def uninstallMessageDLL (o : SetupOutcomes) : SetupProg Bool := do
  if o.regDeleteKeyEx = ERROR_SUCCESS then
    Program.emit .deleteKey
    return true
  return o.regDeleteKeyEx = ERROR_FILE_NOT_FOUND

/-- The branch of `wmain` for `Operation::INSTALL`. -/
def install (path : WStr) (o : SetupOutcomes) : SetupProg Bool := do
  let (fSuccess, strPath) := if path = wszEmpty then findMessageDLL path o else (true, path)
  if fSuccess then installMessageDLL strPath o else return false

/-- `wmain`, as its exit code. -/
def wmain (argv : List WStr) (o : SetupOutcomes) : SetupProg Nat := do
  let (parsed, args) := CArguments.tryParse {} argv
  if !parsed then return EXIT_FAILURE
  let fSuccess ← match args.eOperation with
    | .INSTALL => install args.strPath o
    | .UINSTALL => uninstallMessageDLL o
  return if fSuccess then EXIT_SUCCESS else EXIT_FAILURE

end Setup

end PmiExitModule
