import PmiExitModule.Win32.StrSafe

/-!
# `CCertServerExit`

The wrapper of the CA's `ICertServerExit`, which answers properties as variants. A string property is
copied into a heap string whatever the type of its variant is; the raw certificate is copied from a
`BSTR` variant only.
-/

namespace PmiExitModule

open Generic

def VT_BSTR : WORD := 8

/-- The `bstrVal` of a variant. The payload of a variant of another type may be no `BSTR` at all. -/
inductive BSTR where
  | null
  | bytes (data : List BYTE)
  | wild
  deriving DecidableEq

/-- A `VARIANT`: any type tag, and a payload that is a `BSTR` when the tag says so. -/
structure VARIANT where
  vt : WORD
  bstrVal : BSTR
  wellTyped : vt = VT_BSTR → bstrVal ≠ .wild

namespace BSTR

def sysStringByteLen : BSTR → Except Fault Nat
  | null => .ok 0
  | bytes data => .ok data.length
  | wild => .error .wildPointer

def sysStringLen (bstr : BSTR) : Except Fault Nat := bstr.sysStringByteLen.map (· / 2)

/-- A `BSTR` as a string pointer: a terminator stands behind its bytes. -/
def toPointer : BSTR → Except Fault LPCWSTR
  | null => .ok .null
  | bytes data => .ok (.ofCells (unitsOfBytes (data ++ [0, 0])))
  | wild => .error .wildPointer

end BSTR

/-- `CHeapWString::Copy`. A null `BSTR` clears the string, which is no failure. -/
def CHeapBuffer.copy (strResult : CHeapBuffer WCHAR) (bstr : BSTR) (heap : HeapOutcome WCHAR) :
    Except Fault (HRESULT × CHeapBuffer WCHAR) := do
  if bstr = .null then return (S_OK, none)
  let cch := (← bstr.sysStringLen) + 1
  match heapAlloc heap cch with
  | none => return (E_OUTOFMEMORY, strResult)
  | some cells =>
      let (hr, cells) ← stringCchCopyW cells (← bstr.toPointer)
      return (hr, some cells)

inductive PropertyName where
  | wszPROPCERTIFICATESUBJECTKEYIDENTIFIER
  | wszPROPCERTIFICATESERIALNUMBER
  | wszPROPRAWCERTIFICATE
  deriving DecidableEq, Repr

inductive CertServerPropType where
  | PropTypeBinary
  | PropTypeString
  deriving DecidableEq, Repr

/-- What the calls behind one property answer: `CComBSTR::Append`, and
`ICertServerExit::GetCertificateProperty` with the variant it leaves. -/
structure PropertyOutcomes where
  append : HRESULT
  getCertificateProperty : HRESULT
  varResult : VARIANT

structure ServerOutcomes where
  coCreateInstance : HRESULT
  setContext : HRESULT
  property : PropertyName → CertServerPropType → PropertyOutcomes
  allocString : PropertyName → HeapOutcome WCHAR
  allocRawCert : Bool

/-- The members of `CCertServerExit`; `ptrInner` says whether the interface pointer is set. -/
structure CCertServerExit where
  ptrInner : Bool := false
  lContext : LONG := 0

namespace CCertServerExit

/-- `CCertServerExit::Init`, on a cleared object. -/
def init (lContext : LONG) (o : ServerOutcomes) : HRESULT × CCertServerExit :=
  if FAILED o.coCreateInstance then (o.coCreateInstance, {})
  else if lContext ≠ 0 then
    if FAILED o.setContext then (o.setContext, {})
    else (o.setContext, ⟨true, lContext⟩)
  else (o.coCreateInstance, ⟨true, lContext⟩)

variable (server : CCertServerExit) (o : ServerOutcomes)

/-- `CCertServerExit::GetCertificateProperty`; the variant is there on success only. -/
def getCertificateProperty (name : PropertyName) (ePropType : CertServerPropType) :
    HRESULT × Option VARIANT :=
  let answer := o.property name ePropType
  if !server.ptrInner then (HRESULT_FROM_WIN32 ERROR_INTERNAL_ERROR, none)
  else if FAILED answer.append then (answer.append, none)
  else if FAILED answer.getCertificateProperty then (answer.getCertificateProperty, none)
  else (answer.getCertificateProperty, some answer.varResult)

def copyString (var : VARIANT) (heap : HeapOutcome WCHAR) :
    Except Fault (HRESULT × CHeapBuffer WCHAR) :=
  CHeapBuffer.copy none var.bstrVal heap

/-- `CCertServerExit::GetCertificateStringProperty`. The type of the variant is not looked at. -/
def getCertificateStringProperty (name : PropertyName) :
    Except Fault (HRESULT × CHeapBuffer WCHAR) :=
  match server.getCertificateProperty o name .PropTypeString with
  | (hr, none) => .ok (hr, none)
  | (_, some var) => copyString var (o.allocString name)

def getCertificateSubjectKeyIdentifierProperty : Except Fault (HRESULT × CHeapBuffer WCHAR) :=
  server.getCertificateStringProperty o .wszPROPCERTIFICATESUBJECTKEYIDENTIFIER

def getCertificateSerialNumberProperty : Except Fault (HRESULT × CHeapBuffer WCHAR) :=
  server.getCertificateStringProperty o .wszPROPCERTIFICATESERIALNUMBER

def bstrBytes : BSTR → Except Fault (List BYTE)
  | .null => .ok []
  | .bytes data => .ok data
  | .wild => .error .wildPointer

def getRawCertificateProperty : Except Fault (HRESULT × CHeapBuffer BYTE) :=
  match server.getCertificateProperty o .wszPROPRAWCERTIFICATE .PropTypeBinary with
  | (hr, none) => .ok (hr, none)
  | (hr, some var) =>
      if var.vt ≠ VT_BSTR then .ok (HRESULT_FROM_WIN32 ERROR_INVALID_DATA, none)
      else do
        let data ← bstrBytes var.bstrVal
        if !o.allocRawCert then return (E_OUTOFMEMORY, none)
        return (hr, some data)

end CCertServerExit

end PmiExitModule
