import PmiExitModule.Win32.Registry
import PmiExitModule.Win32.StrSafe

/-!
# `CEventProcessorConfig`

The registry configuration of the event processor. The path of the EXE is read into a raw buffer, the
static arguments are a `MULTI_SZ` value that two passes walk: the first counts the strings, the second
stores a pointer to each.
-/

namespace PmiExitModule

open Generic

def g_cbRegValueBuffer : Nat := 1024

/-- What `CRegKey::QueryValue` answers on success: the type and the stored bytes, as many as the
buffer takes at most. -/
structure RegistryValue where
  dwType : DWORD
  data : List BYTE
  fits : data.length ≤ 2 * g_cbRegValueBuffer

/-- What `CRegKey::QueryMultiStringValue` leaves in the buffer and the count on success: it has
checked that the last character is NUL and that the last two are when there are two. -/
structure MultiString where
  buf : List WCHAR
  cch : Nat
  length : buf.length = g_cbRegValueBuffer
  pos : 1 ≤ cch
  le : cch ≤ buf.length
  last : buf[cch - 1]? = some NUL
  lastTwo : 1 < cch → buf[cch - 2]? = some NUL

/-- What the calls of `CEventProcessorConfig::Init` answer. -/
structure RegistryOutcomes where
  /-- The status of `CRegKey::Open`. -/
  openKey : DWORD
  allocExePath : HeapOutcome BYTE
  queryExePath : Except Win32Error RegistryValue
  queryEscapeForPS : Except Win32Error DWORD
  allocArgData : Bool
  queryArguments : Except Win32Error MultiString
  allocArguments : Bool

/-- The members of `CEventProcessorConfig`. The pointers of `bufArguments` lead into `bufArgData`, so
they are offsets; a slot that was allocated and not stored to holds none. -/
structure CEventProcessorConfig where
  strExePath : CHeapBuffer WCHAR := none
  bufArgData : CHeapBuffer WCHAR := none
  bufArguments : CHeapBuffer (Option Nat) := none
  fEscapeForPS : Bool := false

namespace CEventProcessorConfig

/-- `a - b` on `size_t`. -/
def sizeSub (a b : Nat) : Nat := (a + 2 ^ 64 - b) % 2 ^ 64

/-- One string a pass walked over: where it starts, the count that remained, and its length. -/
structure Visit where
  offset : Nat
  cchMax : Nat
  cchArg : Nat
  deriving DecidableEq

/-- The counting pass, `while (pwsz && *pwsz)`: the `hr` it is left with, `cArgs`, and the strings it
walked over. -/
def countArguments (buf : List WCHAR) (pwsz cchMax cArgs : Nat) (hr : HRESULT) :
    Except Fault (HRESULT × Nat × List Visit) :=
  match _h : buf[pwsz]? with
  | none => .error .outOfBounds
  | some c =>
      if c = NUL then .ok (hr, cArgs, [])
      else
        match stringCchLengthW buf pwsz cchMax with
        | .error fault => .error fault
        | .ok (hr, cchArg) =>
            if FAILED hr then .ok (hr, cArgs, [])
            else
              match countArguments buf (pwsz + (cchArg + 1)) (sizeSub cchMax (cchArg + 1))
                  (cArgs + 1) hr with
              | .error fault => .error fault
              | .ok (hr, cArgs, visits) => .ok (hr, cArgs, ⟨pwsz, cchMax, cchArg⟩ :: visits)
termination_by buf.length - pwsz
decreasing_by
  have hlt := (List.getElem?_eq_some_iff.mp _h).1
  omega

def storeArgument (slots : List (Option Nat)) (nIndex pwsz : Nat) :
    Except Fault (List (Option Nat)) :=
  if nIndex < slots.length then .ok (slots.set nIndex (some pwsz)) else .error .outOfBounds

/-- The filling pass, `for (UINT nIndex = 0; pwsz && *pwsz; nIndex++)`. Its `cchMax` is decremented by
`(ULONG)cchArg + 1`, computed in 32 bits. -/
def fillArguments (buf : List WCHAR) (pwsz cchMax nIndex : Nat) (hr : HRESULT)
    (slots : List (Option Nat)) : Except Fault (HRESULT × List (Option Nat) × List Visit) :=
  match _h : buf[pwsz]? with
  | none => .error .outOfBounds
  | some c =>
      if c = NUL then .ok (hr, slots, [])
      else
        match stringCchLengthW buf pwsz cchMax with
        | .error fault => .error fault
        | .ok (hr, cchArg) =>
            if FAILED hr then .ok (hr, slots, [])
            else
              match storeArgument slots nIndex pwsz with
              | .error fault => .error fault
              | .ok slots =>
                  match fillArguments buf (pwsz + (cchArg + 1))
                      (sizeSub cchMax ((cchArg % 2 ^ 32 + 1) % 2 ^ 32)) ((nIndex + 1) % 2 ^ 32)
                      hr slots with
                  | .error fault => .error fault
                  | .ok (hr, slots, visits) => .ok (hr, slots, ⟨pwsz, cchMax, cchArg⟩ :: visits)
termination_by buf.length - pwsz
decreasing_by
  have hlt := (List.getElem?_eq_some_iff.mp _h).1
  omega

/-- The part of `Init` that reads the flag; a value that cannot be read is ignored. -/
def readEscapeForPS (config : CEventProcessorConfig) (o : RegistryOutcomes) : CEventProcessorConfig :=
  match o.queryEscapeForPS with
  | .error _ => config
  | .ok dwEscapeForPS => { config with fEscapeForPS := dwEscapeForPS ≠ 0 }

/-- The part of `Init` that reads the static arguments; a value that cannot be read is ignored. -/
def readArguments (config : CEventProcessorConfig) (o : RegistryOutcomes) :
    Except Fault (HRESULT × CEventProcessorConfig) := do
  if !o.allocArgData then return (E_OUTOFMEMORY, config)
  match o.queryArguments with
  | .error _ => return (S_OK, config)
  | .ok data =>
      let config := { config with bufArgData := some data.buf }
      let (hr, cArgs, _) ← countArguments data.buf 0 data.cch 0 S_OK
      if !o.allocArguments then return (E_OUTOFMEMORY, config)
      let slots := List.replicate cArgs none
      let (hr, slots, _) ← fillArguments data.buf 0 data.cch 0 hr slots
      return (hr, { config with bufArguments := some slots })

def init (config : CEventProcessorConfig) (o : RegistryOutcomes) :
    Except Fault (HRESULT × CEventProcessorConfig) := do
  if o.openKey ≠ ERROR_SUCCESS then return (HRESULT_FROM_WIN32 o.openKey, config)
  match heapAlloc o.allocExePath (2 * g_cbRegValueBuffer) with
  | none => return (E_OUTOFMEMORY, config)
  | some fresh =>
      match o.queryExePath with
      | .error e =>
          return (HRESULT_FROM_WIN32 e.code, { config with strExePath := some (unitsOfBytes fresh) })
      | .ok value =>
          let config :=
            { config with
              strExePath := some (unitsOfBytes (value.data ++ fresh.drop value.data.length)) }
          if value.dwType ≠ REG_SZ ∧ value.dwType ≠ REG_EXPAND_SZ then
            return (E_UNEXPECTED, config)
          (config.readEscapeForPS o).readArguments o

def getExePath (config : CEventProcessorConfig) : LPCWSTR := config.strExePath.get

/-- The string a slot of `bufArguments` points to; a slot that was never stored to points anywhere. -/
def argumentAt (buf : List WCHAR) : Option Nat → Except Fault LPCWSTR
  | none => .error .wildPointer
  | some offset => .ok (.ofCells (buf.drop offset))

/-- `GetArguments()`, as the strings its pointers lead to. -/
def getArguments (config : CEventProcessorConfig) : Except Fault (List LPCWSTR) :=
  (config.bufArguments.getD []).mapM (argumentAt (config.bufArgData.getD []))

end CEventProcessorConfig

end PmiExitModule
