import PmiExitModule.EventProcessor

/-!
# The calls on a temp file

What `Create`, `Write` and the destructor do to a temp file whose path is short enough for the module:
`Create` fails without a trace or leaves the object owning the path with the file open, and the
destructor deletes the path that is owned unless it was preserved.
-/

namespace PmiExitModule

open Generic

theorem CHeapBuffer.getLength_pos_of_get_eq {buf : CHeapBuffer WCHAR} {s : WStr}
    (h : buf.get = .str s) : 0 < buf.getLength := by
  cases buf with
  | none => cases h
  | some cells =>
      cases cells with
      | nil => simp [get, LPCWSTR.ofCells] at h
      | cons c rest => exact Nat.zero_lt_succ _

theorem stringCchCopyW_of_fits {cells : List WCHAR} {s : WStr} (hfits : s.length < cells.length)
    (hmax : cells.length ≤ STRSAFE_MAX_CCH) :
    ∃ cells', stringCchCopyW cells (.str s) = .ok (S_OK, cells')
      ∧ CHeapBuffer.get (some cells') = .str s := by
  have hne : cells ≠ [] := List.length_pos_iff.mp (by omega)
  have hroom : (Cursor.fresh cells.length).room = cells.length - 1 := rfl
  have hle : s.length ≤ cells.length - 1 := by omega
  obtain ⟨c, hrun, hrefines, hterm, -⟩ :=
    stringCchCopyExW_refines (Cursor.refines_fresh hne) hmax s
  rw [hroom, if_pos hle] at hrun
  refine ⟨c.cells, ?_, hrefines.ofCells hterm s ?_⟩
  · simp only [stringCchCopyW, hrun, bind, Except.bind]
    rfl
  · rw [BoundedWriter.push_written, hroom, List.take_of_length_le hle]
    rfl

namespace CTempFile

def Owns (file : CTempFile) (path : WStr) : Prop := file.strPath.get = .str path

def fresh (fPreserve : Bool) : CTempFile := { fPreserve := fPreserve }

theorem pathLength_str {path : WStr} (hshort : path.length ≤ MAX_PATH) :
    pathLength (.str path) = .ok (S_OK, path.length) :=
  stringCchLengthW_of_drop_eq path.units [] rfl path.nulFree (Nat.lt_succ_of_le hshort) (by decide)

theorem pathLength_of_long {path : WStr} (hlong : MAX_PATH < path.length) :
    pathLength (.str path) = .ok (STRSAFE_E_INVALID_PARAMETER, 0) :=
  stringCchLengthW_of_long path.units [NUL] rfl path.nulFree hlong (by decide)

section Create

variable {file : CTempFile} {path : WStr} {o : CreateFileOutcomes}

theorem create_of_owned (howned : 0 < file.strPath.getLength) (pwszPath : LPCWSTR)
    (o : CreateFileOutcomes) (files : FileSystem) :
    file.create pwszPath o files
      = (.returned (HRESULT_FROM_WIN32 ERROR_INVALID_OPERATION, file), []) := by
  simp [create, howned]

theorem create_of_refusedPath (fPreserve : Bool) (pwszPath : LPCWSTR) (o : CreateFileOutcomes)
    {hr : HRESULT} {cch : Nat} (hlength : pathLength pwszPath = .ok (hr, cch)) (hfailed : FAILED hr)
    (files : FileSystem) :
    (fresh fPreserve).create pwszPath o files = (.returned (hr, fresh fPreserve), []) := by
  have hempty : ¬ 0 < CHeapBuffer.getLength (none : CHeapBuffer WCHAR) := by decide
  simp [create, fresh, hempty, close, hlength, hfailed]

theorem create_of_allocPath_failed (fPreserve : Bool) (hshort : path.length ≤ MAX_PATH)
    (halloc : o.allocPath = none) (files : FileSystem) :
    (fresh fPreserve).create (.str path) o files
      = (.returned (E_OUTOFMEMORY, fresh fPreserve), []) := by
  have hempty : ¬ 0 < CHeapBuffer.getLength (none : CHeapBuffer WCHAR) := by decide
  simp [create, fresh, hempty, close, pathLength_str hshort, halloc]

theorem stringCchCopyW_alloc (hshort : path.length ≤ MAX_PATH) (garbage : Nat → WCHAR) :
    ∃ cells, stringCchCopyW ((List.range (path.length + 1)).map garbage) (.str path) = .ok (S_OK, cells)
      ∧ CHeapBuffer.get (some cells) = .str path := by
  have hcells : ((List.range (path.length + 1)).map garbage).length = path.length + 1 := by simp
  have hmax : path.length + 1 ≤ STRSAFE_MAX_CCH := (Nat.succ_le_succ hshort).trans (by decide)
  apply stringCchCopyW_of_fits
  · rw [hcells]
    exact Nat.lt_succ_self _
  · exact hcells.trans_le hmax

theorem create_of_createFile_failed (fPreserve : Bool) (hshort : path.length ≤ MAX_PATH)
    {garbage : Nat → WCHAR} (halloc : o.allocPath = some garbage) {e : Win32Error}
    (hcreate : o.createFile = .error e) (files : FileSystem) :
    (fresh fPreserve).create (.str path) o files
      = (.returned (HRESULT_FROM_WIN32 e.code, fresh fPreserve), []) := by
  have hempty : ¬ 0 < CHeapBuffer.getLength (none : CHeapBuffer WCHAR) := by decide
  obtain ⟨cells, hcopy, -⟩ := stringCchCopyW_alloc hshort garbage
  simp [create, fresh, hempty, close, pathLength_str hshort, halloc, hcopy, derefString, hcreate]

theorem create_of_opened (fPreserve : Bool) (hshort : path.length ≤ MAX_PATH)
    {garbage : Nat → WCHAR} (halloc : o.allocPath = some garbage) {handle : HANDLE}
    (hcreate : o.createFile = .ok handle) :
    ∃ file : CTempFile, file.Owns path ∧ file.hFile = some ⟨handle, path⟩
      ∧ file.fPreserve = fPreserve
      ∧ ∀ files, (fresh fPreserve).create (.str path) o files
          = (.returned (S_OK, file), [.createFile path handle]) := by
  have hempty : ¬ 0 < CHeapBuffer.getLength (none : CHeapBuffer WCHAR) := by decide
  obtain ⟨cells, hcopy, hget⟩ := stringCchCopyW_alloc hshort garbage
  refine ⟨⟨some cells, some ⟨handle, path⟩, fPreserve⟩, hget, rfl, rfl, ?_⟩
  intro files
  simp [create, fresh, hempty, close, pathLength_str hshort, halloc, hcopy, derefString, hcreate]

/-- `Create` of a fresh object fails without a trace, or opens the file and owns its path. -/
theorem create_cases (fPreserve : Bool) (path : WStr) (o : CreateFileOutcomes) (files : FileSystem) :
    (∃ hr, FAILED hr ∧ (fresh fPreserve).create (.str path) o files
      = (.returned (hr, fresh fPreserve), [])) ∨
    ∃ file handle, file.Owns path ∧ file.hFile = some ⟨handle, path⟩ ∧ file.fPreserve = fPreserve
      ∧ (fresh fPreserve).create (.str path) o files
        = (.returned (S_OK, file), [.createFile path handle]) := by
  by_cases hshort : path.length ≤ MAX_PATH
  · cases halloc : o.allocPath with
    | none =>
        exact Or.inl ⟨_, failed_E_OUTOFMEMORY, create_of_allocPath_failed fPreserve hshort halloc files⟩
    | some garbage =>
        cases hcreate : o.createFile with
        | error e =>
            exact Or.inl ⟨_, e.failed, create_of_createFile_failed fPreserve hshort halloc hcreate files⟩
        | ok handle =>
            obtain ⟨file, howns, hopen, hpreserve, hrun⟩ :=
              create_of_opened fPreserve hshort halloc hcreate
            exact Or.inr ⟨file, handle, howns, hopen, hpreserve, hrun files⟩
  · left
    have hlength := pathLength_of_long (Nat.lt_of_not_le hshort)
    exact ⟨_, failed_STRSAFE_E_INVALID_PARAMETER,
      create_of_refusedPath fPreserve (.str path) o hlength failed_STRSAFE_E_INVALID_PARAMETER files⟩

end Create

theorem close_of_open {file : CTempFile} {openFile : OpenFile} (hopen : file.hFile = some openFile)
    (files : FileSystem) :
    file.close files = (.returned { file with hFile := none }, [.closeHandle openFile.handle]) := by
  rw [close, hopen]
  rfl

theorem close_of_closed {file : CTempFile} (hclosed : file.hFile = none) (files : FileSystem) :
    file.close files = (.returned file, []) := by
  rw [close, hclosed]
  rfl

variable {file : CTempFile} {path : WStr}

theorem destroy_fresh (deleted : Bool) (files : FileSystem) :
    destroy {} deleted files = (.returned (), []) := rfl

theorem destroy_of_preserved (hclosed : file.hFile = none) (hpreserve : file.fPreserve = true)
    (deleted : Bool) (files : FileSystem) : file.destroy deleted files = (.returned (), []) := by
  rw [destroy, Program.bind_of_returned (close_of_closed hclosed files)]
  simp only [hpreserve, if_true]
  rfl

theorem destroy_of_closed (howns : file.Owns path) (hclosed : file.hFile = none)
    (hpreserve : file.fPreserve = false) (deleted : Bool) (files : FileSystem) :
    file.destroy deleted files = (.returned (), [.deleteFile path deleted]) := by
  have hlength := CHeapBuffer.getLength_pos_of_get_eq howns
  unfold Owns at howns
  rw [destroy, Program.bind_of_returned (close_of_closed hclosed files)]
  simp [hpreserve, hlength, howns, derefString]

theorem destroy_of_open {openFile : OpenFile} (howns : file.Owns path)
    (hopen : file.hFile = some openFile) (hpreserve : file.fPreserve = false) (deleted : Bool)
    (files : FileSystem) :
    file.destroy deleted files
      = (.returned (), [.closeHandle openFile.handle, .deleteFile path deleted]) := by
  have hlength := CHeapBuffer.getLength_pos_of_get_eq howns
  unfold Owns at howns
  rw [destroy, Program.bind_of_returned (close_of_open hopen files)]
  simp [hpreserve, hlength, howns, derefString]

end CTempFile

end PmiExitModule
