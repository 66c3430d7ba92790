import Mathlib.Data.List.TakeWhile
import Mathlib.Data.BitVec

/-!
# Machine types and error codes

The fixed-width types of the Win32 headers, `HRESULT` and its macros, and NUL-terminated wide
strings. A string value carries the proof that it holds no NUL, so that its length is the length its
terminator gives it. A pointer to a string may instead be null, or lead into a block without a
terminator; reading through such a pointer is a fault.
-/

namespace PmiExitModule

abbrev BYTE := BitVec 8
abbrev WORD := BitVec 16
abbrev WCHAR := BitVec 16
abbrev DWORD := BitVec 32
abbrev LONG := BitVec 32
abbrev HRESULT := BitVec 32
abbrev HANDLE := Nat

def NULL : HANDLE := 0
def INVALID_HANDLE_VALUE : HANDLE := 2 ^ 64 - 1

def MAX_PATH : Nat := 260

def S_OK : HRESULT := 0
def E_ABORT : HRESULT := 0x80004004
def E_OUTOFMEMORY : HRESULT := 0x8007000E
def E_UNEXPECTED : HRESULT := 0x8000FFFF
def STRSAFE_E_INVALID_PARAMETER : HRESULT := 0x80070057
def STRSAFE_E_INSUFFICIENT_BUFFER : HRESULT := 0x8007007A

def ERROR_SUCCESS : DWORD := 0
def ERROR_INVALID_DATA : DWORD := 13
def ERROR_INTERNAL_ERROR : DWORD := 1359
def ERROR_TIMEOUT : DWORD := 1460
def ERROR_INVALID_OPERATION : DWORD := 4317

/-- `FAILED(hr)`: the code is negative as a signed number. -/
def FAILED (hr : HRESULT) : Prop := hr.slt 0 = true

instance (hr : HRESULT) : Decidable (FAILED hr) := inferInstanceAs (Decidable (_ = true))

/-- `HRESULT_FROM_WIN32(x)`: nonpositive codes pass through, the others get the Win32 facility and
the failure bit. -/
def HRESULT_FROM_WIN32 (x : DWORD) : HRESULT :=
  if x.sle 0 then x else (x &&& 0xFFFF) ||| 0x80070000

theorem failed_iff_msb {hr : HRESULT} : FAILED hr ↔ hr.msb = true := by
  simp [FAILED, BitVec.slt_zero_iff_msb_cond]

@[simp]
theorem not_failed_S_OK : ¬ FAILED S_OK := by decide

@[simp]
theorem failed_E_OUTOFMEMORY : FAILED E_OUTOFMEMORY := by decide

@[simp]
theorem failed_E_ABORT : FAILED E_ABORT := by decide

@[simp]
theorem failed_E_UNEXPECTED : FAILED E_UNEXPECTED := by decide

@[simp]
theorem failed_STRSAFE_E_INVALID_PARAMETER : FAILED STRSAFE_E_INVALID_PARAMETER := by decide

@[simp]
theorem failed_STRSAFE_E_INSUFFICIENT_BUFFER : FAILED STRSAFE_E_INSUFFICIENT_BUFFER := by decide

theorem failed_HRESULT_FROM_WIN32_iff {x : DWORD} :
    FAILED (HRESULT_FROM_WIN32 x) ↔ x ≠ ERROR_SUCCESS := by
  rw [HRESULT_FROM_WIN32, ERROR_SUCCESS]
  split
  next hle =>
    rw [FAILED, BitVec.slt_eq_decide, decide_eq_true_iff]
    rw [BitVec.sle_eq_decide, decide_eq_true_iff] at hle
    rw [Ne, ← BitVec.toInt_inj]
    simp only [BitVec.ofNat_eq_ofNat, BitVec.toInt_zero] at hle ⊢
    omega
  next hpos =>
    have hne : x ≠ 0 := by
      rintro rfl
      exact hpos (by decide)
    have hmsb : ((x &&& 0xFFFF) ||| 0x80070000 : DWORD).msb = true := by
      rw [BitVec.msb_or]
      exact Bool.or_eq_true_iff.mpr (Or.inr (by decide))
    exact ⟨fun _ => hne, fun _ => failed_iff_msb.mpr hmsb⟩

/-- The last-error code of a Win32 call that failed, which is never `ERROR_SUCCESS`. -/
structure Win32Error where
  code : DWORD
  nonzero : code ≠ ERROR_SUCCESS
  deriving DecidableEq

@[simp]
theorem Win32Error.failed (e : Win32Error) : FAILED (HRESULT_FROM_WIN32 e.code) :=
  failed_HRESULT_FROM_WIN32_iff.mpr e.nonzero

/-- A read outside the objects of the program. -/
inductive Fault where
  | nullPointer
  | wildPointer
  | outOfBounds
  deriving DecidableEq, Repr

def NUL : WCHAR := 0

/-- The UTF-16 units of a literal of the source. -/
def wide (s : String) : List WCHAR := s.toList.map fun c => BitVec.ofNat 16 c.toNat

/-- The UTF-16 units stored in a run of bytes, low byte first. -/
def unitsOfBytes : List BYTE → List WCHAR
  | low :: high :: rest => (high ++ low) :: unitsOfBytes rest
  | _ => []

/-- A NUL-terminated wide string, as the units before its terminator. -/
@[ext]
structure WStr where
  units : List WCHAR
  nulFree : NUL ∉ units
  deriving DecidableEq

namespace WStr

theorem units_injective : Function.Injective units := by
  intro s t h
  exact WStr.ext h

def length (s : WStr) : Nat := s.units.length

/-- The string a literal of the source stands for. -/
def ofLiteral (s : String) (nulFree : NUL ∉ wide s := by decide) : WStr := ⟨wide s, nulFree⟩

def take (s : WStr) (n : Nat) : WStr where
  units := s.units.take n
  nulFree := fun h => s.nulFree (List.mem_of_mem_take h)

def append (s t : WStr) : WStr where
  units := s.units ++ t.units
  nulFree := fun h => (List.mem_append.mp h).elim s.nulFree t.nulFree

instance : Append WStr := ⟨append⟩

@[simp]
theorem append_units (s t : WStr) : (s ++ t).units = s.units ++ t.units := rfl

end WStr

/-- The units of a block up to its first NUL are a string. -/
def untilNul (cells : List WCHAR) : WStr where
  units := cells.takeWhile (· ≠ NUL)
  nulFree := fun h => by simpa using List.mem_takeWhile_imp h

@[simp]
theorem untilNul_append_nul (s : WStr) (rest : List WCHAR) :
    untilNul (s.units ++ NUL :: rest) = s := by
  have hkeep : ∀ c ∈ s.units, (decide (c ≠ NUL)) = true := by
    intro c hc
    apply decide_eq_true
    intro heq
    exact s.nulFree (heq ▸ hc)
  ext1
  change (s.units ++ NUL :: rest).takeWhile (· ≠ NUL) = s.units
  rw [List.takeWhile_append_of_pos hkeep]
  simp

/-- What a `LPCWSTR` leads to: nothing, a terminated string, or the rest of a block that holds no
terminator. -/
inductive LPCWSTR where
  | null
  | str (s : WStr)
  | unterminated (cells : List WCHAR)
  deriving DecidableEq

namespace LPCWSTR

def ofCells (cells : List WCHAR) : LPCWSTR :=
  if NUL ∈ cells then .str (untilNul cells) else .unterminated cells

theorem ofCells_append_nul (s : WStr) (rest : List WCHAR) :
    ofCells (s.units ++ NUL :: rest) = .str s := by
  rw [ofCells, if_pos (by simp), untilNul_append_nul]

def isUnterminated : LPCWSTR → Bool
  | .unterminated _ => true
  | _ => false

/-- The first `n` units behind a pointer, fewer when the terminator comes first. A null pointer reads
as the empty string, which is what `STRSAFE_IGNORE_NULLS` asks for. -/
def read (p : LPCWSTR) (n : Nat) : Except Fault (List WCHAR) :=
  match p with
  | .null => .ok []
  | .str s => .ok (s.units.take n)
  | .unterminated cells => if n ≤ cells.length then .ok (cells.take n) else .error .outOfBounds

end LPCWSTR

/-- `CHeapBuffer<T>`: `none` is the cleared buffer, whose pointer is null and whose length is 0. -/
abbrev CHeapBuffer (T : Type) := Option (List T)

namespace CHeapBuffer

def getLength {T : Type} (buf : CHeapBuffer T) : Nat := (buf.getD []).length

/-- `Get()` of a buffer of characters, as the string pointer its callers take it for. -/
def get (buf : CHeapBuffer WCHAR) : LPCWSTR :=
  match buf with
  | none => .null
  | some cells => .ofCells cells

end CHeapBuffer

/-- What a heap allocation answers: it fails, or the fresh block holds whatever it holds. -/
abbrev HeapOutcome (T : Type) := Option (Nat → T)

/-- `CHeapBuffer<T>::Alloc(cLength)`: a fresh block, its cells uninitialised. It fails on a null pointer,
so `new` is the one that does not throw, as README.md says; the build files do not show which one it is. -/
def heapAlloc {T : Type} (heap : HeapOutcome T) (cLength : Nat) : CHeapBuffer T :=
  heap.map fun garbage => (List.range cLength).map garbage

@[simp]
theorem heapAlloc_none {T : Type} (cLength : Nat) :
    heapAlloc (none : HeapOutcome T) cLength = none := rfl

@[simp]
theorem heapAlloc_some {T : Type} (garbage : Nat → T) (cLength : Nat) :
    heapAlloc (some garbage) cLength = some ((List.range cLength).map garbage) := rfl

end PmiExitModule
