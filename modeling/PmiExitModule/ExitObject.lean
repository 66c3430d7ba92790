import Mathlib.Data.Finset.Lattice.Fold
import Mathlib.Order.Lattice.Nat
import PmiExitModule.Generic.Resources
import PmiExitModule.PMICertExit

/-!
# `CPMICertExit` over its life

The object the CA holds. `Initialize` may be called any number of times, and each call that gets to
`m_objEventSource.Open()` closes the event log before it registers for it again; a notification reports
on the handle the last call left behind; the destructor closes what is open. The system hands out
handles that are not in use.
-/

namespace PmiExitModule

open Generic

def E_POINTER : HRESULT := 0x80004003
def E_INVALIDARG : HRESULT := 0x80070057

/-- The calls of the module, with those on handles of the event log told apart. -/
inductive ModuleAction where
  /-- `RegisterEventSourceW` succeeded with this handle. -/
  | registerEventSource (hEventLog : HANDLE)
  | deregisterEventSource (hEventLog : HANDLE)
  | reportEventW (hEventLog : HANDLE) (event : Event) (accepted : Bool)
  | act (action : Action)
  deriving DecidableEq

structure ModuleState where
  files : FileSystem
  /-- The event log handles of the process that are in use, whoever registered for them. -/
  eventLogs : Finset HANDLE

def applyModuleAction (state : ModuleState) : ModuleAction → ModuleState
  | .registerEventSource hEventLog => { state with eventLogs := insert hEventLog state.eventLogs }
  | .deregisterEventSource hEventLog => { state with eventLogs := state.eventLogs.erase hEventLog }
  | .reportEventW _ _ _ => state
  | .act action => { state with files := applyAction state.files action }

instance : Replay ModuleAction ModuleState := ⟨applyModuleAction⟩

abbrev ModuleProg (α : Type) := Program Fault ModuleAction ModuleState α

def ModuleAction.uses : ModuleAction → List (Use HANDLE)
  | registerEventSource hEventLog => [.acquire hEventLog]
  | deregisterEventSource hEventLog => [.release hEventLog]
  | reportEventW hEventLog _ _ => [.employ hEventLog]
  | act _ => []

/-- Where `RegisterEventSourceW` takes a handle from. -/
structure HandleSource where
  next : Finset HANDLE → HANDLE
  fresh : ∀ inUse, next inUse ∉ inUse
  nonNull : ∀ inUse, next inUse ≠ NULL

instance : Inhabited HandleSource where
  default := {
    next := fun inUse => inUse.sup id + 1
    fresh := by
      intro inUse hmem
      exact Nat.not_succ_le_self (inUse.sup id) (Finset.le_sup (f := id) hmem)
    nonNull := fun inUse => Nat.succ_ne_zero (inUse.sup id) }

/-! ### `CEventSource` with its handle -/

structure CEventSourceObject where
  hEventLog : HANDLE := NULL

namespace CEventSourceObject

variable (source : CEventSourceObject)

/-- The source as the reports see it. -/
def view : CEventSource := ⟨source.hEventLog ≠ NULL⟩

def close : ModuleProg CEventSourceObject := do
  if source.hEventLog ≠ NULL then
    Program.emit (.deregisterEventSource source.hEventLog)
    return { source with hEventLog := NULL }
  return source

/-- `CEventSource::Open()`. -/
def openLog (o : Except Win32Error HandleSource) : ModuleProg (HRESULT × CEventSourceObject) := do
  let source ← source.close
  match o with
  | .error e => return (HRESULT_FROM_WIN32 e.code, { source with hEventLog := NULL })
  | .ok handles =>
      let state ← Program.read
      let hEventLog := handles.next state.eventLogs
      Program.emit (.registerEventSource hEventLog)
      return (S_OK, { source with hEventLog := hEventLog })

def destroy : ModuleProg Unit := do
  let _ ← source.close

/-- A call of the module as it is made while this source is the module's. -/
def embed : Action → ModuleAction
  | .reportEvent event accepted => .reportEventW source.hEventLog event accepted
  | action => .act action

end CEventSourceObject

/-! ### `CPMICertExit` -/

structure InitializeOutcomes where
  allocConfig : HeapOutcome WCHAR
  registerEventSource : Except Win32Error HandleSource
  server : ServerOutcomes
  moduleRegistryLocation : PropertyOutcomes
  allocRegStorageLoc : HeapOutcome WCHAR
  caType : PropertyOutcomes
  /-- The `lVal` of the variant behind `caType`, whatever its type is. -/
  caTypeVal : LONG

namespace CCertServerExit

variable (server : CCertServerExit) (o : InitializeOutcomes)

/-- `CCertServerExit::GetCertificateProperty`, on the answers behind one property. -/
def getProperty (answer : PropertyOutcomes) : HRESULT × Option VARIANT :=
  if !server.ptrInner then (HRESULT_FROM_WIN32 ERROR_INTERNAL_ERROR, none)
  else if FAILED answer.append then (answer.append, none)
  else if FAILED answer.getCertificateProperty then (answer.getCertificateProperty, none)
  else (answer.getCertificateProperty, some answer.varResult)

def getModuleRegistryLocation (strResult : CHeapBuffer WCHAR) :
    Except Fault (HRESULT × CHeapBuffer WCHAR) :=
  match server.getProperty o.moduleRegistryLocation with
  | (hr, none) => .ok (hr, strResult)
  | (_, some var) => strResult.copy var.bstrVal o.allocRegStorageLoc

/-- `CCertServerExit::GetCATypeProperty`. On failure the result is the 0 it starts from. -/
def getCATypeProperty : HRESULT × LONG :=
  match server.getProperty o.caType with
  | (hr, none) => (hr, 0)
  | (hr, some _) => (hr, o.caTypeVal)

end CCertServerExit

def ALL_EXITEVENTS : LONG :=
  EXITEVENT_CERTDENIED ||| EXITEVENT_CERTISSUED ||| EXITEVENT_CERTPENDING
    ||| EXITEVENT_CERTRETRIEVEPENDING ||| EXITEVENT_CERTREVOKED ||| EXITEVENT_CRLISSUED
    ||| EXITEVENT_SHUTDOWN ||| EXITEVENT_CERTIMPORTED

/-- The members of `CPMICertExit`. Its constructor leaves `m_eCAType` uninitialised. -/
structure CPMICertExitObject where
  strConfig : CHeapBuffer WCHAR := none
  strRegStorageLoc : CHeapBuffer WCHAR := none
  eCAType : Option LONG := none
  objEventSource : CEventSourceObject := {}

namespace CPMICertExitObject

variable (object : CPMICertExitObject)

/-- What `Initialize` reads from the CA once its event source is open. The failures of the two
properties are set back to `S_OK`. -/
def readServer (o : InitializeOutcomes) : Except Fault (HRESULT × CPMICertExitObject) := do
  let (hr, objServer) := CCertServerExit.init 0 o.server
  if FAILED hr then return (hr, object)
  let (_, strRegStorageLoc) ← objServer.getModuleRegistryLocation o object.strRegStorageLoc
  let (hr, eCAType) := objServer.getCATypeProperty o
  let object := { object with strRegStorageLoc := strRegStorageLoc, eCAType := some eCAType }
  if FAILED hr then return (S_OK, object)
  return (hr, object)

/-- `CPMICertExit::Initialize`; `pEventMask` says whether the pointer is set. The answer is the code
and what was stored through the pointer. -/
def initializeObject (strConfig : BSTR) (pEventMask : Bool) (o : InitializeOutcomes) :
    ModuleProg ((HRESULT × Option LONG) × CPMICertExitObject) := do
  if !pEventMask then return ((E_POINTER, none), object)
  if strConfig = .null then return ((E_INVALIDARG, some ALL_EXITEVENTS), object)
  let (hr, strConfig) ← Program.lift (object.strConfig.copy strConfig o.allocConfig)
  let object := { object with strConfig := strConfig }
  if FAILED hr then return ((hr, some ALL_EXITEVENTS), object)
  let (hr, objEventSource) ← object.objEventSource.openLog o.registerEventSource
  let object := { object with objEventSource := objEventSource }
  if FAILED hr then return ((hr, some ALL_EXITEVENTS), object)
  let (hr, object) ← Program.lift (object.readServer o)
  return ((hr, some ALL_EXITEVENTS), object)

/-- The exit module as `Notify` sees it. -/
def view : CPMICertExit := ⟨object.objEventSource.view⟩

def notify (exitEvent context : LONG) (o : NotifyOutcomes) : ModuleProg HRESULT :=
  (object.view.notify exitEvent context o).along ModuleState.files object.objEventSource.embed

end CPMICertExitObject

/-! ### The calls of a CA -/

inductive ExitCall where
  | initializeObject (strConfig : BSTR) (pEventMask : Bool) (o : InitializeOutcomes)
  | notify (exitEvent context : LONG) (o : NotifyOutcomes)

namespace CPMICertExitObject

def call (object : CPMICertExitObject) : ExitCall → ModuleProg CPMICertExitObject
  | .initializeObject strConfig pEventMask o => do
      let (_, object) ← object.initializeObject strConfig pEventMask o
      return object
  | .notify exitEvent context o => do
      let _ ← object.notify exitEvent context o
      return object

/-- An object from its creation to its destructor, with these calls made on it. -/
def life (calls : List ExitCall) : ModuleProg Unit := do
  let object ← Program.each call {} calls
  object.objEventSource.destroy

end CPMICertExitObject

end PmiExitModule
