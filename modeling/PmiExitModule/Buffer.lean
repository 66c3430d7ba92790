import PmiExitModule.CertServerExit
import PmiExitModule.Generic.Refinement
import PmiExitModule.Generic.Resources

/-!
# `CHeapBuffer` on the heap

The buffer with its members: a pointer to a block of the heap, and the count of elements. The heap is
shared by all buffers and by whatever else the process allocated. Freeing a block that is not
allocated, or reading or writing through a pointer to one, is a fault.
-/

namespace PmiExitModule

open Generic

abbrev Address := Nat

def nullptr : Address := 0

structure Heap (T : Type) where
  live : Finset Address
  cells : Address → List T

inductive HeapAction (T : Type) where
  | newBlock (p : Address) (cells : List T)
  | storeCells (p : Address) (cells : List T)
  | deleteBlock (p : Address)

def applyHeapAction {T : Type} (heap : Heap T) : HeapAction T → Heap T
  | .newBlock p cells => ⟨insert p heap.live, Function.update heap.cells p cells⟩
  | .storeCells p cells => { heap with cells := Function.update heap.cells p cells }
  | .deleteBlock p => { heap with live := heap.live.erase p }

instance {T : Type} : Replay (HeapAction T) (Heap T) := ⟨applyHeapAction⟩

abbrev HeapProg (T α : Type) := Program Fault (HeapAction T) (Heap T) α

/-- A heap that has room: it hands out a block that is not in use, and never the null pointer. -/
structure BlockSource (T : Type) where
  next : Finset Address → Address
  fresh : ∀ inUse, next inUse ∉ inUse
  nonNull : ∀ inUse, next inUse ≠ nullptr
  garbage : Nat → T

/-- The same answer, as the buffers without a heap take it. -/
def heapOutcome {T : Type} (o : Option (BlockSource T)) : HeapOutcome T := o.map BlockSource.garbage

/-- A call that is handed a block with its length and fills it in place. -/
structure Filler (T : Type) where
  run : List T → Except Fault (HRESULT × List T)
  length : ∀ cells hr cells', run cells = .ok (hr, cells') → cells'.length = cells.length

namespace HeapProg

variable {T : Type}

/-- `delete[] p`. -/
def deleteBlock (p : Address) : HeapProg T Unit := do
  let heap ← Program.read
  if p ∈ heap.live then Program.emit (.deleteBlock p) else Program.lift (.error .wildPointer)

def loadCells (p : Address) : HeapProg T (List T) := do
  if p = nullptr then Program.lift (.error .nullPointer)
  else
    let heap ← Program.read
    if p ∈ heap.live then return heap.cells p else Program.lift (.error .wildPointer)

end HeapProg

structure CHeapBufferObject (T : Type) where
  m_p : Address := nullptr
  m_cLength : Nat := 0

namespace CHeapBufferObject

variable {T : Type} (buf : CHeapBufferObject T)

/-- `Clear()`, which is also the destructor. -/
def clear : HeapProg T (CHeapBufferObject T) := do
  if buf.m_p ≠ nullptr then
    HeapProg.deleteBlock buf.m_p
    return { m_p := nullptr, m_cLength := 0 }
  return { buf with m_cLength := 0 }

def alloc (cLength : Nat) (o : Option (BlockSource T)) : HeapProg T (Bool × CHeapBufferObject T) := do
  match o with
  | none => return (false, buf)
  | some source =>
      let heap ← Program.read
      let pNew := source.next heap.live
      Program.emit (.newBlock pNew ((List.range cLength).map source.garbage))
      let _ ← buf.clear
      return (true, { m_p := pNew, m_cLength := cLength })

/-- A call is handed `Get()` and `GetLength()`, and writes through the pointer. -/
def fill (filler : Filler T) : HeapProg T (HRESULT × CHeapBufferObject T) := do
  let cells ← HeapProg.loadCells buf.m_p
  let (hr, cells) ← Program.lift (filler.run cells)
  Program.emit (.storeCells buf.m_p cells)
  return (hr, buf)

end CHeapBufferObject

theorem length_stringCchCopyW (src : LPCWSTR) (cells : List WCHAR) (hr : HRESULT) (cells' : List WCHAR)
    (h : stringCchCopyW cells src = .ok (hr, cells')) : cells'.length = cells.length := by
  obtain ⟨⟨hrCopy, dest⟩, hcopy, hlast⟩ := exists_of_bind_eq_ok h
  obtain ⟨-, rfl⟩ := Prod.mk.inj (Except.ok.inj hlast)
  unfold stringCchCopyExW at hcopy
  split at hcopy
  · obtain ⟨-, rfl⟩ := Prod.mk.inj (Except.ok.inj hcopy)
    rfl
  · obtain ⟨text, -, hcopy⟩ := exists_of_bind_eq_ok hcopy
    obtain ⟨stored, hstore, hcopy⟩ := exists_of_bind_eq_ok hcopy
    obtain ⟨-, rfl⟩ := Prod.mk.inj (Except.ok.inj hcopy)
    unfold store at hstore
    split at hstore
    next hfits =>
      obtain rfl := Except.ok.inj hstore
      simp only [List.length_append, List.length_take, List.length_drop] at hfits ⊢
      omega
    · cases hstore

/-- `StringCchCopyW` into the block it is handed. -/
def copyFiller (src : LPCWSTR) : Filler WCHAR where
  run cells := stringCchCopyW cells src
  length := length_stringCchCopyW src

/-- `CHeapWString::Copy`. -/
def CHeapBufferObject.copy (buf : CHeapBufferObject WCHAR) (bstr : BSTR)
    (o : Option (BlockSource WCHAR)) : HeapProg WCHAR (HRESULT × CHeapBufferObject WCHAR) := do
  if bstr = .null then
    let buf ← buf.clear
    return (S_OK, buf)
  let cch := (← Program.lift bstr.sysStringLen) + 1
  let (fAllocated, buf) ← buf.alloc cch o
  if !fAllocated then return (E_OUTOFMEMORY, buf)
  let pointer ← Program.lift bstr.toPointer
  buf.fill (copyFiller pointer)

/-! ### Many buffers on one heap -/

/-- A call on a buffer, and what it answers. -/
inductive BufferCall where
  | alloc (cLength : Nat) (o : Option (BlockSource WCHAR))
  | fill (filler : Filler WCHAR)
  | copy (bstr : BSTR) (o : Option (BlockSource WCHAR))
  | clear

inductive BufferAnswer where
  | allocated (fAllocated : Bool)
  | answered (hr : HRESULT)
  | done
  deriving DecidableEq

namespace BufferCall

def run (buf : CHeapBufferObject WCHAR) :
    BufferCall → HeapProg WCHAR (BufferAnswer × CHeapBufferObject WCHAR)
  | alloc cLength o => do
      let (fAllocated, buf) ← buf.alloc cLength o
      return (.allocated fAllocated, buf)
  | fill filler => do
      let (hr, buf) ← buf.fill filler
      return (.answered hr, buf)
  | copy bstr o => do
      let (hr, buf) ← buf.copy bstr o
      return (.answered hr, buf)
  | clear => do
      let buf ← buf.clear
      return (.done, buf)

/-- The same call on a buffer without a heap. -/
def runAlone (buf : CHeapBuffer WCHAR) : BufferCall → Except Fault (BufferAnswer × CHeapBuffer WCHAR)
  | alloc cLength o =>
      match heapAlloc (heapOutcome o) cLength with
      | none => return (.allocated false, buf)
      | some cells => return (.allocated true, some cells)
  | fill filler =>
      match buf with
      | none => .error .nullPointer
      | some cells => do
          let (hr, cells) ← filler.run cells
          return (.answered hr, some cells)
  | copy bstr o => do
      let (hr, buf) ← CHeapBuffer.copy buf bstr (heapOutcome o)
      return (.answered hr, buf)
  | clear => return (.done, none)

end BufferCall

/-- The buffers of a process, by name. -/
abbrev Buffers := Nat → CHeapBufferObject WCHAR

/-- What the buffer of this name does on the heap. -/
structure BufferAction where
  name : Nat
  action : HeapAction WCHAR

instance : Replay BufferAction (Heap WCHAR) := ⟨fun heap event => applyHeapAction heap event.action⟩

abbrev BufferProg (α : Type) := Program Fault BufferAction (Heap WCHAR) α

/-- A call on the buffer of this name. -/
def callOn (bufs : Buffers) (call : Nat × BufferCall) : BufferProg (BufferAnswer × Buffers) := do
  let (answer, buf) ← (call.2.run (bufs call.1)).along id (BufferAction.mk call.1)
  return (answer, Function.update bufs call.1 buf)

def callOnAlone (bufs : Nat → CHeapBuffer WCHAR) (call : Nat × BufferCall) :
    Except Fault (BufferAnswer × (Nat → CHeapBuffer WCHAR)) := do
  let (answer, buf) ← call.2.runAlone (bufs call.1)
  return (answer, Function.update bufs call.1 buf)

/-- Calls on the buffers of one heap, from their constructors on. -/
def bufferCalls (calls : List (Nat × BufferCall)) : BufferProg (List BufferAnswer × Buffers) :=
  Refinement.calls callOn (fun _ => {}) calls

def bufferCallsAlone (calls : List (Nat × BufferCall)) :
    Except Fault (List BufferAnswer × (Nat → CHeapBuffer WCHAR)) :=
  Refinement.callsAlone callOnAlone (fun _ => none) calls

/-- Buffers from their constructors to their destructors, with these calls made on them. -/
def bufferLives (names : List Nat) (calls : List (Nat × BufferCall)) :
    BufferProg (List BufferAnswer × Buffers) :=
  bufferCalls (calls ++ names.map fun i => (i, .clear))

end PmiExitModule
