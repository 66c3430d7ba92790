import PmiExitModule.EventProcessor

/-!
# Writing the certificate

Every turn of the write loop writes the first bytes of the certificate once more, however many were
written before. A schedule of short writes therefore leaves the certificate in the file only when
each piece happens to be what belongs at its position, and does not run over the end.
-/

namespace PmiExitModule

open Generic

/-- The number of bytes a call reported; a call that failed reported none. -/
def WriteOutcome.count : WriteOutcome → Nat
  | .ok nBytesWritten => nBytesWritten.toNat
  | .error _ => 0

/-- The calls come to an end: one of them fails, or the counts they report reach the length. -/
def WritesEnd (outcomes : List WriteOutcome) (length : Nat) : Prop :=
  (∃ e, .error e ∈ outcomes) ∨ length ≤ (outcomes.map WriteOutcome.count).sum

/-- The bytes reported before the `k`-th call of a schedule, over the `start` there were. -/
def reportedBefore (schedule : Nat → WriteOutcome) (start : Nat) : Nat → Nat
  | 0 => start
  | k + 1 => reportedBefore schedule start k + (schedule k).count

theorem start_le_reportedBefore (schedule : Nat → WriteOutcome) (start k : Nat) :
    start ≤ reportedBefore schedule start k := by
  induction k with
  | zero => exact le_rfl
  | succ k ih => exact ih.trans (Nat.le_add_right _ _)

theorem reportedBefore_succ (schedule : Nat → WriteOutcome) (start k : Nat) :
    reportedBefore schedule start (k + 1)
      = reportedBefore (fun j => schedule (j + 1)) (start + (schedule 0).count) k := by
  induction k with
  | zero => rfl
  | succ k ih =>
      rw [reportedBefore, ih]
      rfl

/-- A call fails before the counts reported have reached the length. -/
def FailsBefore (schedule : Nat → WriteOutcome) (start length : Nat) : Prop :=
  ∃ k e, schedule k = .error e ∧ reportedBefore schedule start k < length

/-- Each call that is reached writes what belongs at its position: as many bytes as it wrote are left
there, and they are the first bytes of the certificate over again. -/
def PiecesFit (schedule : Nat → WriteOutcome) (start : Nat) (bytes : List BYTE) : Prop :=
  ∀ k nBytesWritten, schedule k = .ok nBytesWritten →
    reportedBefore schedule start k < bytes.length →
    reportedBefore schedule start k + nBytesWritten.toNat ≤ bytes.length
      ∧ (bytes.drop (reportedBefore schedule start k)).take nBytesWritten.toNat
        = bytes.take nBytesWritten.toNat

theorem failsBefore_iff (schedule : Nat → WriteOutcome) (start length : Nat) :
    FailsBefore schedule start length ↔ (∃ e, schedule 0 = .error e ∧ start < length)
      ∨ FailsBefore (fun j => schedule (j + 1)) (start + (schedule 0).count) length := by
  rw [FailsBefore, ← Nat.or_exists_add_one]
  simp only [reportedBefore_succ]
  rfl

theorem piecesFit_iff (schedule : Nat → WriteOutcome) (start : Nat) (bytes : List BYTE) :
    PiecesFit schedule start bytes
      ↔ (∀ nBytesWritten, schedule 0 = .ok nBytesWritten → start < bytes.length →
          start + nBytesWritten.toNat ≤ bytes.length
            ∧ (bytes.drop start).take nBytesWritten.toNat = bytes.take nBytesWritten.toNat)
        ∧ PiecesFit (fun j => schedule (j + 1)) (start + (schedule 0).count) bytes := by
  rw [PiecesFit, ← Nat.and_forall_add_one]
  simp only [reportedBefore_succ]
  rfl

namespace CEventProcessor

/-- What a call that reported this count wrote: bytes from the start of the certificate, as many as it
was asked for at most. -/
def pieceWritten (bytes : List BYTE) (nBytesWritten : DWORD) : List BYTE :=
  ((bytes.drop 0).take (bytes.length % 2 ^ 32)).take nBytesWritten.toNat

theorem pieceWritten_of_le {bytes : List BYTE} {nBytesWritten : DWORD}
    (hcount : nBytesWritten.toNat ≤ bytes.length % 2 ^ 32) :
    pieceWritten bytes nBytesWritten = bytes.take nBytesWritten.toNat := by
  rw [pieceWritten, List.drop_zero, List.take_take, Nat.min_eq_left hcount]

section Step

variable {objTempFile : CTempFile} {openFile : OpenFile} {bytes : List BYTE} {cbTotal : Nat}
  (hopen : objTempFile.hFile = some openFile) (rest : List WriteOutcome) (files : FileSystem)

theorem writeLoop_done (hdone : bytes.length ≤ cbTotal) (outcomes : List WriteOutcome) :
    writeLoop objTempFile bytes cbTotal outcomes files = (.returned (S_OK, cbTotal), []) := by
  cases outcomes <;> rw [writeLoop, if_neg (Nat.not_lt.mpr hdone)] <;> rfl

include hopen

theorem writeLoop_error (hlt : cbTotal < bytes.length) (e : Win32Error) :
    writeLoop objTempFile bytes cbTotal (.error e :: rest) files
      = (.returned (HRESULT_FROM_WIN32 e.code, cbTotal),
          [.writeFile openFile.handle openFile.path []]) := by
  have hwrite : objTempFile.write bytes 0 bytes.length (.error e) files
      = (.returned (HRESULT_FROM_WIN32 e.code, 0),
          [.writeFile openFile.handle openFile.path []]) := by
    rw [CTempFile.write, hopen]
    rfl
  rw [writeLoop, if_pos hlt, Program.bind_of_returned hwrite]
  simp only [e.failed, if_true]
  rfl

theorem writeLoop_ok (hlt : cbTotal < bytes.length) (nBytesWritten : DWORD) :
    writeLoop objTempFile bytes cbTotal (.ok nBytesWritten :: rest) files
      = ((writeLoop objTempFile bytes (cbTotal + nBytesWritten.toNat) rest
            (applyAction files (.writeFile openFile.handle openFile.path
              (pieceWritten bytes nBytesWritten)))).1,
          .writeFile openFile.handle openFile.path (pieceWritten bytes nBytesWritten) ::
            (writeLoop objTempFile bytes (cbTotal + nBytesWritten.toNat) rest
              (applyAction files (.writeFile openFile.handle openFile.path
                (pieceWritten bytes nBytesWritten)))).2) := by
  have hwrite : objTempFile.write bytes 0 bytes.length (.ok nBytesWritten) files
      = (.returned (S_OK, nBytesWritten.toNat),
          [.writeFile openFile.handle openFile.path (pieceWritten bytes nBytesWritten)]) := by
    rw [CTempFile.write, hopen]
    rfl
  rw [writeLoop, if_pos hlt, Program.bind_of_returned hwrite]
  simp only [not_failed_S_OK, if_false]
  rfl

/-- The loop is left waiting for another outcome exactly when no call failed and the counts reported do
not reach the length. -/
theorem writeLoop_running_iff (outcomes : List WriteOutcome) :
    (writeLoop objTempFile bytes cbTotal outcomes files).1 = .running
      ↔ (∀ e, .error e ∉ outcomes)
        ∧ cbTotal + (outcomes.map WriteOutcome.count).sum < bytes.length := by
  induction outcomes generalizing cbTotal files with
  | nil =>
      unfold writeLoop
      by_cases hlt : cbTotal < bytes.length
      · simp [hlt]
      · simp [hlt]
  | cons outcome rest ih =>
      by_cases hlt : cbTotal < bytes.length
      swap
      · rw [writeLoop_done files (Nat.not_lt.mp hlt)]
        refine iff_of_false (by simp) ?_
        rintro ⟨-, hsum⟩
        omega
      cases outcome with
      | error e =>
          rw [writeLoop_error hopen rest files hlt e]
          refine iff_of_false (by simp) ?_
          rintro ⟨hnoError, -⟩
          exact hnoError e List.mem_cons_self
      | ok nBytesWritten =>
          rw [writeLoop_ok hopen rest files hlt nBytesWritten]
          simp only [ih, List.mem_cons, reduceCtorEq, false_or, List.map_cons, List.sum_cons,
            WriteOutcome.count, Nat.add_assoc]

theorem writeLoop_of_reached {outcomes : List WriteOutcome} (hnoError : ∀ e, .error e ∉ outcomes)
    (hreached : bytes.length ≤ cbTotal + (outcomes.map WriteOutcome.count).sum) :
    ∃ total, (writeLoop objTempFile bytes cbTotal outcomes files).1 = .returned (S_OK, total) := by
  induction outcomes generalizing cbTotal files with
  | nil => exact ⟨_, congrArg Prod.fst (writeLoop_done files hreached _)⟩
  | cons outcome rest ih =>
      by_cases hlt : cbTotal < bytes.length
      swap
      · exact ⟨_, congrArg Prod.fst (writeLoop_done files (Nat.not_lt.mp hlt) _)⟩
      cases outcome with
      | error e => exact absurd List.mem_cons_self (hnoError e)
      | ok nBytesWritten =>
          rw [List.map_cons, List.sum_cons, ← Nat.add_assoc] at hreached
          rw [writeLoop_ok hopen rest files hlt nBytesWritten]
          exact ih _ (fun e hmem => hnoError e (List.mem_cons_of_mem _ hmem)) hreached

end Step

/-- The loop on an infinite schedule has ended after some number of calls, with this result and these
writes: further outcomes are not looked at. -/
def LoopEnds (objTempFile : CTempFile) (bytes : List BYTE) (cbTotal : Nat)
    (schedule : Nat → WriteOutcome) (files : FileSystem) (result : HRESULT × Nat)
    (writes : List Action) : Prop :=
  ∃ n, ∀ m, n ≤ m → writeLoop objTempFile bytes cbTotal ((List.range m).map schedule) files
    = (.returned result, writes)

theorem LoopEnds.unique {objTempFile : CTempFile} {bytes : List BYTE} {cbTotal : Nat}
    {schedule : Nat → WriteOutcome} {files : FileSystem} {result result' : HRESULT × Nat}
    {writes writes' : List Action}
    (h : LoopEnds objTempFile bytes cbTotal schedule files result writes)
    (h' : LoopEnds objTempFile bytes cbTotal schedule files result' writes') :
    result = result' ∧ writes = writes' := by
  obtain ⟨n, hn⟩ := h
  obtain ⟨n', hn'⟩ := h'
  have heq := (hn (max n n') (Nat.le_max_left _ _)).symm.trans (hn' _ (Nat.le_max_right _ _))
  obtain ⟨hending, hwrites⟩ := Prod.mk.inj heq
  exact ⟨Ending.returned.inj hending, hwrites⟩

section LoopEnds

variable {objTempFile : CTempFile} {openFile : OpenFile} {bytes : List BYTE} {cbTotal : Nat}
  {schedule : Nat → WriteOutcome} {files : FileSystem}

theorem loopEnds_done (hdone : bytes.length ≤ cbTotal) :
    LoopEnds objTempFile bytes cbTotal schedule files (S_OK, cbTotal) [] := by
  refine ⟨0, ?_⟩
  intro m _
  exact writeLoop_done files hdone _

theorem loopEnds_error (hopen : objTempFile.hFile = some openFile) (hlt : cbTotal < bytes.length)
    {e : Win32Error} (hfirst : schedule 0 = .error e) :
    LoopEnds objTempFile bytes cbTotal schedule files (HRESULT_FROM_WIN32 e.code, cbTotal)
      [.writeFile openFile.handle openFile.path []] := by
  refine ⟨1, ?_⟩
  intro m hm
  obtain ⟨m, rfl⟩ : ∃ j, m = j + 1 := ⟨m - 1, by omega⟩
  rw [List.range_succ_eq_map, List.map_cons, hfirst]
  exact writeLoop_error hopen _ files hlt e

theorem loopEnds_ok (hopen : objTempFile.hFile = some openFile) (hlt : cbTotal < bytes.length)
    {nBytesWritten : DWORD} (hfirst : schedule 0 = .ok nBytesWritten)
    (hcount : nBytesWritten.toNat ≤ bytes.length % 2 ^ 32) {result : HRESULT × Nat}
    {writes : List Action}
    (h : LoopEnds objTempFile bytes (cbTotal + nBytesWritten.toNat) (fun k => schedule (k + 1))
      (applyAction files (.writeFile openFile.handle openFile.path
        (bytes.take nBytesWritten.toNat))) result writes) :
    LoopEnds objTempFile bytes cbTotal schedule files result
      (.writeFile openFile.handle openFile.path (bytes.take nBytesWritten.toNat) :: writes) := by
  obtain ⟨n, hn⟩ := h
  refine ⟨n + 1, ?_⟩
  intro m hm
  obtain ⟨m, rfl⟩ : ∃ j, m = j + 1 := ⟨m - 1, by omega⟩
  have hrest := hn m (by omega)
  have hschedule : (List.range (m + 1)).map schedule
      = .ok nBytesWritten :: (List.range m).map fun k => schedule (k + 1) := by
    rw [List.range_succ_eq_map, List.map_cons, hfirst, List.map_map]
    rfl
  rw [hschedule, writeLoop_ok hopen _ files hlt, pieceWritten_of_le hcount, hrest]

end LoopEnds

theorem not_reportedBefore_lt {bytes content : List BYTE} (hdone : bytes.length ≤ content.length)
    (schedule : Nat → WriteOutcome) (k : Nat) :
    ¬ reportedBefore schedule content.length k < bytes.length := by
  apply Nat.not_lt.mpr
  exact hdone.trans (start_le_reportedBefore _ _ _)

theorem append_take_eq_take_add_iff {bytes content : List BYTE} (hle : content.length ≤ bytes.length)
    (w : Nat) :
    content ++ bytes.take w = bytes.take (content.length + w)
      ↔ content = bytes.take content.length
        ∧ (bytes.drop content.length).take w = bytes.take w := by
  rw [List.take_add]
  constructor
  · intro heq
    obtain ⟨hstart, hpiece⟩ := List.append_inj heq (List.length_take_of_le hle).symm
    exact ⟨hstart, hpiece.symm⟩
  · rintro ⟨hstart, hpiece⟩
    rw [hpiece, ← hstart]

/-- **The loop on a schedule.** With `cbTotal` bytes in the file it ends, by a call that fails before
the end, or else with the certificate in the file exactly when what the file held was the start of
the certificate and the pieces written from there on fit. -/
theorem writeLoop_run {objTempFile : CTempFile} {openFile : OpenFile} {bytes : List BYTE}
    (hopen : objTempFile.hFile = some openFile) {schedule : Nat → WriteOutcome}
    (hcounts : ∀ k nBytesWritten, schedule k = .ok nBytesWritten →
      1 ≤ nBytesWritten.toNat ∧ nBytesWritten.toNat ≤ bytes.length % 2 ^ 32)
    {files : FileSystem} {content : List BYTE} (hcontent : files openFile.path = some content) :
    ∃ result writes, LoopEnds objTempFile bytes content.length schedule files result writes ∧
      ((FAILED result.1 ∧ FailsBefore schedule content.length bytes.length) ∨
        (¬ FAILED result.1 ∧ ¬ FailsBefore schedule content.length bytes.length
          ∧ (replay files writes openFile.path = some bytes ∧ result.2 = bytes.length
            ↔ content = bytes.take content.length ∧ content.length ≤ bytes.length
              ∧ PiecesFit schedule content.length bytes))) := by
  induction hfuel : bytes.length - content.length using Nat.strong_induction_on
    generalizing content files schedule with
  | _ fuel ih =>
  by_cases hlt : content.length < bytes.length
  swap
  · have hdone : bytes.length ≤ content.length := Nat.not_lt.mp hlt
    have hnone := not_reportedBefore_lt hdone schedule
    have hnotFails : ¬ FailsBefore schedule content.length bytes.length := by
      rintro ⟨k, e, -, hk⟩
      exact hnone k hk
    refine ⟨(S_OK, content.length), [], loopEnds_done hdone,
      Or.inr ⟨not_failed_S_OK, hnotFails, ?_⟩⟩
    rw [replay_nil, hcontent, Option.some.injEq]
    constructor
    · rintro ⟨rfl, -⟩
      refine ⟨List.take_length.symm, le_rfl, ?_⟩
      intro k _ _ hk
      exact absurd hk (hnone k)
    · rintro ⟨htake, hle, -⟩
      have heq : content.length = bytes.length := le_antisymm hle hdone
      rw [heq, List.take_length] at htake
      exact ⟨htake, heq⟩
  · cases hfirst : schedule 0 with
    | error e =>
        exact ⟨_, _, loopEnds_error hopen hlt hfirst, Or.inl ⟨e.failed, 0, e, hfirst, hlt⟩⟩
    | ok nBytesWritten =>
        obtain ⟨hpos, hcount⟩ := hcounts 0 nBytesWritten hfirst
        set w := nBytesWritten.toNat with hw
        have hle : w ≤ bytes.length := hcount.trans (Nat.mod_le _ _)
        set files' := applyAction files (.writeFile openFile.handle openFile.path (bytes.take w))
        have hcontent' : files' openFile.path = some (content ++ bytes.take w) := by
          simp [files', applyAction, hcontent]
        have hlength : (content ++ bytes.take w).length = content.length + w := by
          rw [List.length_append, List.length_take_of_le hle]
        obtain ⟨result, writes, hends, hcases⟩ :=
          ih (bytes.length - (content ++ bytes.take w).length) (by omega)
            (fun k => hcounts (k + 1)) hcontent' rfl
        rw [hlength] at hends hcases
        have hcount0 : (schedule 0).count = w := by
          rw [hfirst]
          rfl
        have hfails : FailsBefore schedule content.length bytes.length
            ↔ FailsBefore (fun k => schedule (k + 1)) (content.length + w) bytes.length := by
          rw [failsBefore_iff, hcount0, hfirst]
          simp
        refine ⟨result, _, loopEnds_ok hopen hlt hfirst hcount hends, ?_⟩
        rw [hfails, replay_cons]
        apply hcases.imp_right
        rintro ⟨hok, hnot, hiff⟩
        refine ⟨hok, hnot, hiff.trans ?_⟩
        rw [piecesFit_iff schedule, hcount0, hfirst, append_take_eq_take_add_iff hlt.le]
        simp only [Except.ok.injEq, forall_eq', hlt, true_imp_iff, ← hw]
        constructor
        · rintro ⟨⟨hstart, hpiece⟩, hfits, hrest⟩
          exact ⟨hstart, hlt.le, ⟨hfits, hpiece⟩, hrest⟩
        · rintro ⟨hstart, -, ⟨hfits, hpiece⟩, hrest⟩
          exact ⟨⟨hstart, hpiece⟩, hfits, hrest⟩

/-- The loop ends, and unless it ends with an error the file holds the bytes of the certificate, each
once and in order, and `cbTotal` is their number. -/
def WritesCertificate (objTempFile : CTempFile) (path : WStr) (bytes : List BYTE)
    (schedule : Nat → WriteOutcome) (files : FileSystem) : Prop :=
  ∃ result writes, LoopEnds objTempFile bytes 0 schedule files result writes
    ∧ (¬ FAILED result.1 → replay files writes path = some bytes ∧ result.2 = bytes.length)

/-- **What the event processor reads, and when it is the certificate.** On every schedule whose
successful calls write between one byte and the number requested, the loop ends; and it leaves the
certificate in the file, unless it ends with an error, if and only if a call fails before the counts
reach the length or every call that is reached writes what belongs at its position. -/
theorem writesCertificate_iff (objTempFile : CTempFile) (openFile : OpenFile) (bytes : List BYTE)
    (schedule : Nat → WriteOutcome) (files : FileSystem)
    (hopen : objTempFile.hFile = some openFile) (hempty : files openFile.path = some [])
    (hcounts : ∀ k nBytesWritten, schedule k = .ok nBytesWritten →
      1 ≤ nBytesWritten.toNat ∧ nBytesWritten.toNat ≤ bytes.length % 2 ^ 32) :
    (∃ result writes, LoopEnds objTempFile bytes 0 schedule files result writes)
    ∧ (WritesCertificate objTempFile openFile.path bytes schedule files
      ↔ FailsBefore schedule 0 bytes.length ∨ PiecesFit schedule 0 bytes) := by
  obtain ⟨result, writes, hends, hcases⟩ := writeLoop_run hopen hcounts hempty
  rw [List.length_nil] at hends hcases
  refine ⟨⟨result, writes, hends⟩, ?_⟩
  have hproperty : WritesCertificate objTempFile openFile.path bytes schedule files
      ↔ (¬ FAILED result.1 →
        replay files writes openFile.path = some bytes ∧ result.2 = bytes.length) := by
    constructor
    · rintro ⟨result', writes', hends', h⟩
      obtain ⟨rfl, rfl⟩ := hends.unique hends'
      exact h
    · intro h
      exact ⟨result, writes, hends, h⟩
  rw [hproperty]
  rcases hcases with ⟨hfailed, hfails⟩ | ⟨hok, hnot, hiff⟩
  · apply iff_of_true
    · intro hok
      exact absurd hfailed hok
    · exact Or.inl hfails
  · rw [imp_iff_right hok, hiff, or_iff_right hnot]
    simp

def openTempFile : CTempFile := { hFile := some ⟨12, .ofLiteral "PMI1.tmp"⟩ }

theorem writesCertificate_iff_example :
    (∃ result writes, LoopEnds openTempFile [1, 2, 3] 0 (fun _ => .ok 3) (fun _ => some [])
      result writes)
    ∧ (WritesCertificate openTempFile (.ofLiteral "PMI1.tmp") [1, 2, 3] (fun _ => .ok 3)
        (fun _ => some [])
      ↔ FailsBefore (fun _ => .ok 3) 0 [1, 2, 3].length
        ∨ PiecesFit (fun _ => .ok 3) 0 ([1, 2, 3] : List BYTE)) :=
  writesCertificate_iff openTempFile ⟨12, .ofLiteral "PMI1.tmp"⟩ _ _ _ rfl rfl (by
    rintro k _ ⟨⟩
    decide)

/-- Two writes of two bytes each: the first half of the certificate is in the file twice, although
`cbTotal` is the length. -/
theorem short_write_corrupts :
    LoopEnds openTempFile [1, 2, 3, 4] 0 (fun _ => .ok 2) (fun _ => some []) (S_OK, 4)
        [.writeFile 12 (.ofLiteral "PMI1.tmp") [1, 2],
          .writeFile 12 (.ofLiteral "PMI1.tmp") [1, 2]]
    ∧ ¬ WritesCertificate openTempFile (.ofLiteral "PMI1.tmp") [1, 2, 3, 4] (fun _ => .ok 2)
      (fun _ => some []) := by
  have hopen : openTempFile.hFile = some ⟨12, .ofLiteral "PMI1.tmp"⟩ := rfl
  have hcount : (2 : DWORD).toNat ≤ ([1, 2, 3, 4] : List BYTE).length % 2 ^ 32 := by decide
  have hresume : 2 < ([1, 2, 3, 4] : List BYTE).length := by decide
  have hstart : 0 < ([1, 2, 3, 4] : List BYTE).length := by decide
  have hresumed : LoopEnds openTempFile [1, 2, 3, 4] 2 (fun _ => .ok 2)
      (applyAction (fun _ => some []) (.writeFile 12 (.ofLiteral "PMI1.tmp") [1, 2])) (S_OK, 4)
      [.writeFile 12 (.ofLiteral "PMI1.tmp") [1, 2]] :=
    loopEnds_ok hopen hresume rfl hcount (loopEnds_done le_rfl)
  have hends : LoopEnds openTempFile [1, 2, 3, 4] 0 (fun _ => .ok 2) (fun _ => some []) (S_OK, 4)
      [.writeFile 12 (.ofLiteral "PMI1.tmp") [1, 2],
        .writeFile 12 (.ofLiteral "PMI1.tmp") [1, 2]] :=
    loopEnds_ok hopen hstart rfl hcount hresumed
  refine ⟨hends, ?_⟩
  rintro ⟨result, writes, hends', h⟩
  obtain ⟨rfl, rfl⟩ := hends.unique hends'
  exact absurd (h not_failed_S_OK).1 (by decide)

end CEventProcessor

end PmiExitModule
