import PmiExitModule.Win32.StrSafe
import PmiExitModule.Win32.System

/-!
# `CTempFile`

A file that its destructor deletes unless it was told to preserve it. Whether the object owns a path
is the length of `strPath`, and whether the file is open is `hFile`.
-/

namespace PmiExitModule

open Generic

structure OpenFile where
  handle : HANDLE
  path : WStr
  deriving DecidableEq

/-- The members of `CTempFile`; no open file stands for `INVALID_HANDLE_VALUE`. -/
structure CTempFile where
  strPath : CHeapBuffer WCHAR := none
  hFile : Option OpenFile := none
  fPreserve : Bool := false
  deriving DecidableEq

structure CreateFileOutcomes where
  allocPath : HeapOutcome WCHAR
  createFile : Except Win32Error HANDLE

/-- What one `WriteFile` answers: it fails, or reports how many bytes it wrote. -/
abbrev WriteOutcome := Except Win32Error DWORD

namespace CTempFile

def close (file : CTempFile) : Prog CTempFile := do
  match file.hFile with
  | none => return file
  | some openFile =>
      Program.emit (.closeHandle openFile.handle)
      return { file with hFile := none }

/-- `StringCchLengthW(pwszPath, MAX_PATH + 1, &cch)` on a pointer: a null pointer is refused, and a
block without a terminator is read past its end unless it is longer than the count. -/
def pathLength : LPCWSTR → Except Fault (HRESULT × Nat)
  | .null => .ok (STRSAFE_E_INVALID_PARAMETER, 0)
  | .str s => stringCchLengthW (s.units ++ [NUL]) 0 (MAX_PATH + 1)
  | .unterminated cells => stringCchLengthW cells 0 (MAX_PATH + 1)

def derefString : LPCWSTR → Except Fault WStr
  | .null => .error .nullPointer
  | .str s => .ok s
  | .unterminated _ => .error .outOfBounds

def create (file : CTempFile) (pwszPath : LPCWSTR) (o : CreateFileOutcomes) :
    Prog (HRESULT × CTempFile) := do
  if 0 < file.strPath.getLength then
    return (HRESULT_FROM_WIN32 ERROR_INVALID_OPERATION, file)
  let file ← file.close
  let (hr, cch) ← Program.lift (pathLength pwszPath)
  if FAILED hr then return (hr, file)
  match heapAlloc o.allocPath (cch + 1) with
  | none => return (E_OUTOFMEMORY, file)
  | some cells =>
      let (hr, cells) ← Program.lift (stringCchCopyW cells pwszPath)
      let file := { file with strPath := some cells }
      if FAILED hr then return (hr, file)
      let path ← Program.lift (derefString pwszPath)
      match o.createFile with
      | .error e => return (HRESULT_FROM_WIN32 e.code, { file with strPath := none })
      | .ok handle =>
          Program.emit (.createFile path handle)
          return (hr, { file with hFile := some ⟨handle, path⟩ })

def preserve (file : CTempFile) : CTempFile := { file with fPreserve := true }

/-- `CTempFile::Write`: it hands `WriteFile` the bytes from `cbIndex` on and `(DWORD)cbCount`, and on
success answers the number of bytes written. -/
def write (file : CTempFile) (buf : List BYTE) (cbIndex cbCount : Nat) (o : WriteOutcome) :
    Prog (HRESULT × Nat) := do
  match file.hFile with
  | none => return (HRESULT_FROM_WIN32 ERROR_INVALID_OPERATION, 0)
  | some openFile =>
      let requested := (buf.drop cbIndex).take (cbCount % 2 ^ 32)
      match o with
      | .error e =>
          Program.emit (.writeFile openFile.handle openFile.path [])
          return (HRESULT_FROM_WIN32 e.code, 0)
      | .ok nBytesWritten =>
          Program.emit (.writeFile openFile.handle openFile.path
            (requested.take nBytesWritten.toNat))
          return (S_OK, nBytesWritten.toNat)

def destroy (file : CTempFile) (deleted : Bool) : Prog Unit := do
  let file ← file.close
  if file.fPreserve then return ()
  if 0 < file.strPath.getLength then
    let path ← Program.lift (derefString file.strPath.get)
    Program.emit (.deleteFile path deleted)

end CTempFile

end PmiExitModule
