import PmiExitModule.EventProcessor
import PmiExitModule.Generic.QuotedLiteral

/-!
# Escaping an argument for PowerShell

`EscapeArgumentForPS` is three copies: a quote, the value, a quote. Quotes in the value are copied as
they are, so the literal is read back as the value exactly when the value holds none.
-/

namespace PmiExitModule

open Generic

/-- A value between single quotes, as it is. -/
def quoted (v : WStr) : WStr where
  units := APOSTROPHE :: v.units ++ [APOSTROPHE]
  nulFree := by
    have hne : NUL ≠ APOSTROPHE := by decide
    simp [hne, v.nulFree]

theorem quoted_units (v : WStr) : (quoted v).units = APOSTROPHE :: v.units ++ [APOSTROPHE] := rfl

namespace CEventProcessor

theorem pushes_escapeCopies (v : WStr) :
    Pushes (escapeCopies (.str v)) [[APOSTROPHE], v.units, [APOSTROPHE]] :=
  (pushes_copy wszApostrophe).andThen ((pushes_copy v).andThen (pushes_copy wszApostrophe))

theorem escapeArgumentForPS_of_copies {v : WStr} {garbage : Nat → WCHAR} {hr : HRESULT} {c : Cursor}
    (h : escapeCopies (.str v) ⟨(List.range (v.length + 3)).map garbage, 0, v.length + 3⟩
      = .ok (hr, c)) :
    escapeArgumentForPS (.str v) (some garbage) = .ok (hr, some c.cells) := by
  simp only [escapeArgumentForPS, wcslen, heapAlloc_some, bind, Except.bind, h]
  rfl

theorem escapeCopies_of_fits (v : WStr) {cells : List WCHAR} (hlength : cells.length = v.length + 3)
    (hmax : cells.length ≤ STRSAFE_MAX_CCH) :
    ∃ c, escapeCopies (.str v) ⟨cells, 0, cells.length⟩ = .ok (S_OK, c)
      ∧ LPCWSTR.ofCells c.cells = .str (quoted v) := by
  have hne : cells ≠ [] := List.length_pos_iff.mp (by omega)
  set w := Cursor.fresh cells.length with hw
  obtain ⟨c, hrun, hrefines, hterm⟩ := pushes_escapeCopies v _ w (Cursor.refines_fresh hne) hmax
  have hroom : w.room = cells.length - 1 := rfl
  have hflatten : [[APOSTROPHE], v.units, [APOSTROPHE]].flatten = (quoted v).units := by
    simp [quoted]
  have hquoted : (quoted v).units.length = v.length + 2 := by
    simp [quoted, WStr.length]
  have hall : (w.pushAll [[APOSTROPHE], v.units, [APOSTROPHE]]).1 = true := by
    rw [w.pushAll_fst, hflatten, hroom]
    omega
  have hwritten : (quoted v).units
      = (w.pushAll [[APOSTROPHE], v.units, [APOSTROPHE]]).2.written := by
    rw [w.pushAll_written, hflatten, hroom, List.take_of_length_le (by omega)]
    rfl
  rw [hall, if_pos rfl] at hrun
  exact ⟨c, hrun, hrefines.ofCells (hterm (Or.inl (by simp))) _ hwritten⟩

theorem escapeArgumentForPS_of_alloc {v : WStr} {heap : HeapOutcome WCHAR} (halloc : heap ≠ none)
    (hmax : v.length + 3 ≤ STRSAFE_MAX_CCH) :
    ∃ cells, escapeArgumentForPS (.str v) heap = .ok (S_OK, some cells)
      ∧ LPCWSTR.ofCells cells = .str (quoted v) := by
  obtain ⟨garbage, rfl⟩ := Option.ne_none_iff_exists'.mp halloc
  have hlength : ((List.range (v.length + 3)).map garbage).length = v.length + 3 := by simp
  obtain ⟨c, hrun, htext⟩ := escapeCopies_of_fits v hlength (hlength.trans_le hmax)
  rw [hlength] at hrun
  exact ⟨c.cells, escapeArgumentForPS_of_copies hrun, htext⟩

/-- What `EscapeArgumentForPS` answers: the value between quotes, unless memory runs out or the value
is longer than the strsafe functions accept. -/
theorem escapeArgumentForPS_cases (v : WStr) (heap : HeapOutcome WCHAR) :
    (∃ hr result, FAILED hr ∧ escapeArgumentForPS (.str v) heap = .ok (hr, result)) ∨
    ∃ cells, escapeArgumentForPS (.str v) heap = .ok (S_OK, some cells)
      ∧ LPCWSTR.ofCells cells = .str (quoted v) := by
  cases heap with
  | none => exact Or.inl ⟨E_OUTOFMEMORY, none, failed_E_OUTOFMEMORY, rfl⟩
  | some garbage =>
      set cells := (List.range (v.length + 3)).map garbage with hcells
      by_cases hmax : v.length + 3 ≤ STRSAFE_MAX_CCH
      · exact Or.inr (escapeArgumentForPS_of_alloc (Option.some_ne_none garbage) hmax)
      · left
        have hcopy : stringCchCopyExW ⟨cells, 0, v.length + 3⟩ (.str wszApostrophe)
            = .ok (STRSAFE_E_INVALID_PARAMETER, ⟨cells, 0, v.length + 3⟩) :=
          if_pos (Or.inr (by simp only; omega))
        refine ⟨STRSAFE_E_INVALID_PARAMETER, some cells, failed_STRSAFE_E_INVALID_PARAMETER,
          escapeArgumentForPS_of_copies (c := ⟨cells, 0, v.length + 3⟩) ?_⟩
        simp [escapeCopies, ← hcells, hcopy, bind, Except.bind, pure, Except.pure]

def escaped (processor : CEventProcessor) (v : WStr) : WStr :=
  if processor.objConfig.fEscapeForPS then quoted v else v

theorem escapeArguments_cases (processor : CEventProcessor) (ski path : WStr)
    (o : ProcessorOutcomes) :
    (∃ hr escSki escPath, FAILED hr
      ∧ processor.escapeArguments (.str ski) (.str path) o = .ok (hr, escSki, escPath)) ∨
    processor.escapeArguments (.str ski) (.str path) o
      = .ok (S_OK, .str (processor.escaped ski), .str (processor.escaped path)) := by
  cases hescape : processor.objConfig.fEscapeForPS with
  | false =>
      right
      simp only [escapeArguments, escaped, hescape, Bool.not_false, if_true, Bool.false_eq_true,
        if_false]
      rfl
  | true =>
      simp only [escapeArguments, escaped, hescape, Bool.not_true, Bool.false_eq_true, if_false, if_true]
      rcases escapeArgumentForPS_cases ski o.allocEscSubjectKeyIdentifier with
        ⟨hr, result, hfailed, hrun⟩ | ⟨cellsSki, hrun, hski⟩
      · refine Or.inl ⟨hr, .str ski, .str path, hfailed, ?_⟩
        simp only [hrun, bind, Except.bind, hfailed, if_true]
        rfl
      rcases escapeArgumentForPS_cases path o.allocEscTempFile with
        ⟨hr, result, hfailed, hrunPath⟩ | ⟨cellsPath, hrunPath, hpath⟩
      · refine Or.inl ⟨hr, .str (quoted ski), .str path, hfailed, ?_⟩
        simp only [hrun, hrunPath, bind, Except.bind, hfailed, not_failed_S_OK, if_false, if_true,
          CHeapBuffer.get, hski]
        rfl
      · right
        simp only [hrun, hrunPath, bind, Except.bind, not_failed_S_OK, if_false, CHeapBuffer.get, hski,
          hpath]
        rfl

theorem escapeArguments_of_alloc {processor : CEventProcessor} {ski path : WStr} {o : ProcessorOutcomes}
    (hescape : processor.objConfig.fEscapeForPS = true)
    (hallocSki : o.allocEscSubjectKeyIdentifier ≠ none) (hallocPath : o.allocEscTempFile ≠ none)
    (hski : ski.length + 3 ≤ STRSAFE_MAX_CCH) (hpath : path.length + 3 ≤ STRSAFE_MAX_CCH) :
    processor.escapeArguments (.str ski) (.str path) o
      = .ok (S_OK, .str (quoted ski), .str (quoted path)) := by
  obtain ⟨cellsSki, hrunSki, htextSki⟩ := escapeArgumentForPS_of_alloc hallocSki hski
  obtain ⟨cellsPath, hrunPath, htextPath⟩ := escapeArgumentForPS_of_alloc hallocPath hpath
  simp only [escapeArguments, hescape, Bool.not_true, Bool.false_eq_true, if_false, hrunSki, hrunPath,
    bind, Except.bind, not_failed_S_OK, CHeapBuffer.get, htextSki, htextPath]
  rfl

/-- **Breaking out of a literal, and when.** Whenever `EscapeArgumentForPS` succeeds, a reader of
single-quoted literals consumes its result as one literal and yields the value, whatever text that
does not begin with a quote follows, if and only if the value holds no single quote. -/
theorem readLiteral_escapeArgumentForPS_iff (v : WStr) (heap : HeapOutcome WCHAR) (hr : HRESULT)
    (strResult : CHeapBuffer WCHAR) (following : List WCHAR)
    (hrun : escapeArgumentForPS (.str v) heap = .ok (hr, strResult)) (hok : ¬ FAILED hr)
    (hfollowing : following.head? ≠ some APOSTROPHE) :
    ∃ r : WStr, strResult.get = .str r
      ∧ (readLiteral APOSTROPHE (r.units ++ following) = some (v.units, following)
        ↔ APOSTROPHE ∉ v.units) := by
  rcases escapeArgumentForPS_cases v heap with ⟨hr', result, hfailed, hrun'⟩ | ⟨cells, hrun', htext⟩
  · obtain ⟨rfl, rfl⟩ := Prod.mk.inj (Except.ok.inj (hrun.symm.trans hrun'))
    exact absurd hfailed hok
  · obtain ⟨rfl, rfl⟩ := Prod.mk.inj (Except.ok.inj (hrun.symm.trans hrun'))
    exact ⟨quoted v, htext, readLiteral_wrapped_iff APOSTROPHE hfollowing⟩

theorem readLiteral_escapeArgumentForPS_iff_example :
    ∃ r : WStr, CHeapBuffer.get (some (wide "'0a'" ++ [NUL])) = .str r
      ∧ (readLiteral APOSTROPHE (r.units ++ wide " -x") = some (wide "0a", wide " -x")
        ↔ APOSTROPHE ∉ wide "0a") :=
  readLiteral_escapeArgumentForPS_iff (.ofLiteral "0a") (some fun _ => NUL) S_OK
    (some (wide "'0a'" ++ [NUL])) (wide " -x") (by decide) (by decide) (by decide)

/-- A temp folder with an apostrophe in its name: the literal ends in the middle of the path and what
follows it is read as code. -/
theorem escapeArgumentForPS_breaks_out :
    escapeArgumentForPS (.str (.ofLiteral "C:\\O'Brien\\PMI1.tmp")) (some fun _ => NUL)
        = .ok (S_OK, some (wide "'C:\\O'Brien\\PMI1.tmp'" ++ [NUL]))
      ∧ readLiteral APOSTROPHE (wide "'C:\\O'Brien\\PMI1.tmp'")
        = some (wide "C:\\O", wide "Brien\\PMI1.tmp'") :=
  ⟨by decide, by decide⟩

end CEventProcessor

end PmiExitModule
