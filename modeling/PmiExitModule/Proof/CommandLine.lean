import PmiExitModule.Generic.ArgvSplitter
import PmiExitModule.Process

/-!
# The command line

`FormatCommandLine` is a sequence of copies through one cursor, so by the writer it refines it leaves
exactly the longest prefix of the rendering that the buffer takes. From the text that gives follow
both results of this module: which command lines the C runtime reads back, and when the success code
of the function can be trusted.
-/

namespace PmiExitModule

open Generic

def TAB : WCHAR := 0x09
def BACKSLASH : WCHAR := 0x5C

def crtLexicon : Lexicon WCHAR where
  space := SPACE
  tab := TAB
  quote := QUOTE
  backslash := BACKSLASH
  distinct := by decide

namespace CProcess

/-- The complete rendering: the path and every argument behind a space, each wrapped in double
quotes exactly when it contains a space. -/
def rendering (exe : WStr) (args : List WStr) : List WCHAR :=
  crtLexicon.renderCommandLine exe.units (args.map WStr.units)

theorem scanForSpace_iff {units : List WCHAR} : scanForSpace units = true ↔ SPACE ∈ units := by
  induction units with
  | nil => simp [scanForSpace]
  | cons c rest ih =>
      unfold scanForSpace
      by_cases hc : c = SPACE
      · simp [hc]
      · simp [hc, ih, Ne.symm hc]

theorem nul_notMem_renderArgument (a : WStr) : NUL ∉ crtLexicon.renderArgument a.units := by
  have hquote : NUL ≠ QUOTE := by decide
  unfold Lexicon.renderArgument
  split
  · simpa [crtLexicon, hquote] using a.nulFree
  · exact a.nulFree

theorem nul_notMem_rendering (exe : WStr) (args : List WStr) : NUL ∉ rendering exe args := by
  have hspace : NUL ≠ SPACE := by decide
  have hargs : NUL ∉ crtLexicon.renderArguments (args.map WStr.units) := by
    induction args with
    | nil => exact List.not_mem_nil
    | cons a args ih =>
        rw [List.map_cons, Lexicon.renderArguments_cons, List.mem_cons, List.mem_append]
        rintro (heq | hmem | hmem)
        · exact hspace heq
        · exact nul_notMem_renderArgument a hmem
        · exact ih hmem
  rw [rendering, Lexicon.renderCommandLine, List.mem_append]
  rintro (hmem | hmem)
  · exact nul_notMem_renderArgument exe hmem
  · exact hargs hmem

def commandLine (exe : WStr) (args : List WStr) : WStr :=
  ⟨rendering exe args, nul_notMem_rendering exe args⟩

/-- What a buffer of `n` cells takes of the command line. -/
def truncatedCommandLine (exe : WStr) (args : List WStr) (n : Nat) : WStr :=
  ⟨(rendering exe args).take (n - 1), fun hmem =>
    nul_notMem_rendering exe args (List.mem_of_mem_take hmem)⟩

/-! ### The copies push the rendering -/

def argumentPieces (a : WStr) : List (List WCHAR) :=
  if scanForSpace a.units then [[QUOTE], a.units, [QUOTE]] else [a.units]

def argumentsPieces (args : List WStr) : List (List WCHAR) :=
  args.flatMap fun a => [SPACE] :: argumentPieces a

theorem flatten_argumentPieces (a : WStr) :
    (argumentPieces a).flatten = crtLexicon.renderArgument a.units := by
  rw [argumentPieces, Lexicon.renderArgument]
  change _ = if SPACE ∈ a.units then _ else _
  by_cases hspace : SPACE ∈ a.units
  · rw [if_pos (scanForSpace_iff.mpr hspace), if_pos hspace]
    simp [crtLexicon]
  · rw [if_neg (mt scanForSpace_iff.mp hspace), if_neg hspace]
    simp

theorem argumentPieces_ne_nil (a : WStr) : argumentPieces a ≠ [] := by
  unfold argumentPieces
  split <;> simp

theorem flatten_argumentsPieces (args : List WStr) :
    (argumentsPieces args).flatten = crtLexicon.renderArguments (args.map WStr.units) := by
  induction args with
  | nil => rfl
  | cons a args ih =>
      calc (argumentsPieces (a :: args)).flatten
          = (([SPACE] :: argumentPieces a) ++ argumentsPieces args).flatten := rfl
        _ = SPACE :: ((argumentPieces a).flatten ++ (argumentsPieces args).flatten) :=
            List.flatten_append
        _ = SPACE :: (crtLexicon.renderArgument a.units
              ++ crtLexicon.renderArguments (args.map WStr.units)) := by
            rw [flatten_argumentPieces, ih]
        _ = crtLexicon.renderArguments ((a :: args).map WStr.units) := by
            rw [List.map_cons, Lexicon.renderArguments_cons]
            rfl

theorem pushes_writeArgument (a : WStr) :
    Pushes (fun c => writeArgument c (.str a)) (argumentPieces a) := by
  unfold argumentPieces
  split
  next hspace =>
    have hscan : hasWhiteSpace (.str a) = .ok true :=
      congrArg Except.ok hspace
    have hcopies := (pushes_copy wszQuote).andThen
      ((pushes_copy a).andThen (pushes_copy wszQuote))
    change Pushes _ ([wszQuote.units] ++ ([a.units] ++ [wszQuote.units]))
    simpa only [writeArgument, hscan, if_true, bind, Except.bind] using hcopies
  next hspace =>
    have hscan : hasWhiteSpace (.str a) = .ok false :=
      congrArg Except.ok (Bool.eq_false_iff.mpr hspace)
    intro c w hrefines hmax
    obtain ⟨c', hrun, hrest⟩ := pushes_copy a c w hrefines hmax
    refine ⟨c', Eq.trans ?_ hrun, hrest⟩
    -- the early exit and the end of the function answer the same
    simp only [writeArgument, hscan, Bool.false_eq_true, if_false, bind, Except.bind, pure,
      Except.pure, not_failed_S_OK, hrun, ite_self]

theorem pushes_writeArguments (args : List WStr) :
    Pushes (fun c => writeArguments c (args.map .str)) (argumentsPieces args) := by
  induction args with
  | nil => exact pushes_nothing
  | cons a args ih =>
      have hcopies := (pushes_copy wszSpace).andThen ((pushes_writeArgument a).andThen ih)
      change Pushes _ ([wszSpace.units] ++ (argumentPieces a ++ argumentsPieces args))
      simpa only [writeArguments, List.map_cons] using hcopies

/-- **What the buffer holds.** `FormatCommandLine` answers the failure of its first `WriteArgument`
only, and in every case leaves the longest prefix of the rendering that the buffer takes. -/
theorem formatCommandLine_spec (exe : WStr) (args : List WStr) (cells : List WCHAR)
    (hne : cells ≠ []) (hmax : cells.length ≤ STRSAFE_MAX_CCH) :
    ∃ cells', formatCommandLine (.str exe) (args.map .str) cells
        = .ok (if (crtLexicon.renderArgument exe.units).length < cells.length then S_OK
            else STRSAFE_E_INSUFFICIENT_BUFFER, cells')
      ∧ LPCWSTR.ofCells cells' = .str (truncatedCommandLine exe args cells.length) := by
  have hlength : 0 < cells.length := List.length_pos_iff.mpr hne
  set w := Cursor.fresh cells.length with hw
  have hroom : w.room = cells.length - 1 := rfl
  have hrefines := Cursor.refines_fresh hne
  obtain ⟨c₁, hrun₁, hrefines₁, hterm₁⟩ := pushes_writeArgument exe _ w hrefines hmax
  replace hterm₁ := hterm₁ (Or.inl (argumentPieces_ne_nil exe))
  have hall : (w.pushAll (argumentPieces exe)).1 = true
      ↔ (crtLexicon.renderArgument exe.units).length < cells.length := by
    rw [w.pushAll_fst, flatten_argumentPieces, hroom]
    omega
  -- both ways the function ends, the buffer is where pushing everything leaves the writer
  have hwhole := w.pushAll_written (argumentPieces exe ++ argumentsPieces args)
  rw [List.flatten_append, flatten_argumentPieces, flatten_argumentsPieces, hroom,
    BoundedWriter.pushAll_append] at hwhole
  by_cases hfits : (crtLexicon.renderArgument exe.units).length < cells.length
  · have hmax₁ : c₁.cells.length ≤ STRSAFE_MAX_CCH := by
      rw [hrefines₁.length, BoundedWriter.pushAll_capacity, ← hrefines.length]
      exact hmax
    obtain ⟨c₂, hrun₂, hrefines₂, hterm₂⟩ := pushes_writeArguments args c₁ _ hrefines₁ hmax₁
    refine ⟨c₂.cells, ?_, hrefines₂.ofCells (hterm₂ (Or.inr hterm₁)) _ ?_⟩
    · simp only [formatCommandLine, hrun₁, hrun₂, hall, hfits, if_true, not_failed_S_OK, if_false,
        bind, Except.bind, pure, Except.pure]
    · rw [hall.mpr hfits, if_pos rfl] at hwhole
      exact hwhole.symm
  · refine ⟨c₁.cells, ?_, hrefines₁.ofCells hterm₁ _ ?_⟩
    · simp only [formatCommandLine, hrun₁, hall, hfits, if_false,
        failed_STRSAFE_E_INSUFFICIENT_BUFFER, if_true, bind, Except.bind, pure, Except.pure]
    · rw [if_neg (mt hall.mp hfits)] at hwhole
      exact hwhole.symm

/-! ### Splitting the command line back -/

theorem truncatedCommandLine_of_fits {exe : WStr} {args : List WStr} {n : Nat}
    (hfits : (rendering exe args).length < n) :
    truncatedCommandLine exe args n = commandLine exe args := by
  ext1
  exact List.take_of_length_le (by omega)

theorem truncatedCommandLine_eq_iff {exe : WStr} {args : List WStr} {n : Nat} (hpos : 0 < n) :
    truncatedCommandLine exe args n = commandLine exe args ↔ (rendering exe args).length < n := by
  refine ⟨?_, truncatedCommandLine_of_fits⟩
  intro heq
  have htake := congrArg (fun s : WStr => s.units.length) heq
  simp only [truncatedCommandLine, commandLine, List.length_take] at htake
  omega

theorem rendering_length (exe : WStr) (args : List WStr) :
    (rendering exe args).length = (crtLexicon.renderArgument exe.units).length
      + (crtLexicon.renderArguments (args.map WStr.units)).length :=
  List.length_append

theorem formatCommandLine_of_fits (exe : WStr) (args : List WStr) {cells : List WCHAR}
    (hmax : cells.length ≤ STRSAFE_MAX_CCH) (hfits : (rendering exe args).length < cells.length) :
    ∃ cells', formatCommandLine (.str exe) (args.map .str) cells = .ok (S_OK, cells')
      ∧ LPCWSTR.ofCells cells' = .str (commandLine exe args) := by
  have hne : cells ≠ [] := List.length_pos_iff.mp (by omega)
  obtain ⟨cells', hrun, htext⟩ := formatCommandLine_spec exe args cells hne hmax
  have hpath : (crtLexicon.renderArgument exe.units).length < cells.length := by
    have hlength := rendering_length exe args
    omega
  rw [if_pos hpath] at hrun
  exact ⟨cells', hrun, truncatedCommandLine_of_fits hfits ▸ htext⟩

/-- **The command line against the C runtime rules.** For a path and arguments without double quotes
whose rendering fits, splitting the text in the buffer gives back the path and the arguments if and
only if no tab goes unquoted, no argument is empty, and none with a space ends in a backslash. -/
theorem splitCommandLine_formatCommandLine_iff (exe : WStr) (args : List WStr) (cells : List WCHAR)
    (_hexe : exe.units ≠ []) (hquote : QUOTE ∉ exe.units) (hquotes : ∀ a ∈ args, QUOTE ∉ a.units)
    (hmax : cells.length ≤ STRSAFE_MAX_CCH) (hfits : (rendering exe args).length < cells.length) :
    ∃ cells' text, formatCommandLine (.str exe) (args.map .str) cells = .ok (S_OK, cells')
      ∧ LPCWSTR.ofCells cells' = .str text
      ∧ (crtLexicon.splitCommandLine text.units = exe.units :: args.map WStr.units
        ↔ (TAB ∈ exe.units → SPACE ∈ exe.units) ∧
          ∀ a ∈ args, a.units ≠ [] ∧ (TAB ∈ a.units → SPACE ∈ a.units) ∧
            ¬ (SPACE ∈ a.units ∧ a.units.getLast? = some BACKSLASH)) := by
  obtain ⟨cells', hrun, htext⟩ := formatCommandLine_of_fits exe args hmax hfits
  refine ⟨cells', commandLine exe args, hrun, htext, ?_⟩
  have hsplit := crtLexicon.splitCommandLine_renderCommandLine_iff exe.units
    (args.map WStr.units) hquote (by simpa [crtLexicon] using hquotes)
  rw [List.forall_mem_map] at hsplit
  exact hsplit

theorem splitCommandLine_formatCommandLine_iff_example :
    ∃ cells' text, formatCommandLine (.str (.ofLiteral "a b"))
        ([.ofLiteral "c\\", .ofLiteral "d e"].map .str) (List.replicate 16 NUL)
          = .ok (S_OK, cells')
      ∧ LPCWSTR.ofCells cells' = .str text
      ∧ (crtLexicon.splitCommandLine text.units = [wide "a b", wide "c\\", wide "d e"]
        ↔ (TAB ∈ wide "a b" → SPACE ∈ wide "a b") ∧
          ∀ a ∈ [WStr.ofLiteral "c\\", .ofLiteral "d e"],
            a.units ≠ [] ∧ (TAB ∈ a.units → SPACE ∈ a.units) ∧
            ¬ (SPACE ∈ a.units ∧ a.units.getLast? = some BACKSLASH)) :=
  splitCommandLine_formatCommandLine_iff _ _ _ (by decide) (by decide) (by decide) (by decide)
    (by decide)

/-! ### When the success code can be trusted -/

/-- The condition on the path, the arguments and the capacity under which `FormatCommandLine` does
not hide a cut: the path alone is already too long, or everything fits; above the largest count the
strsafe functions accept, where every copy is refused, that the rendering does not fit. -/
def TruncationReported (exe : WStr) (args : List WStr) (n : Nat) : Prop :=
  if n ≤ STRSAFE_MAX_CCH then
    n ≤ (crtLexicon.renderArgument exe.units).length ∨ (rendering exe args).length < n
  else
    n ≤ (rendering exe args).length

theorem formatCommandLine_of_refused (exe : WStr) (args : List WStr) {cells : List WCHAR}
    (hmax : STRSAFE_MAX_CCH < cells.length) :
    formatCommandLine (.str exe) (args.map .str) cells
      = .ok (STRSAFE_E_INVALID_PARAMETER, cells) := by
  have hcopy : ∀ src, stringCchCopyExW ⟨cells, 0, cells.length⟩ src
      = .ok (STRSAFE_E_INVALID_PARAMETER, ⟨cells, 0, cells.length⟩) := by
    intro src
    exact if_pos (Or.inr hmax)
  rw [formatCommandLine, writeArgument, hasWhiteSpace]
  cases scanForSpace exe.units <;> simp [hcopy, bind, Except.bind, pure, Except.pure]

/-- `Create` on strings stops before the call of `CreateProcessW`, or makes it with what its buffer takes
of the command line. -/
theorem create_str_cases {proc : CProcess} (hproc : proc.procInfo = none) (exe : WStr)
    (args : List WStr) (o : ProcessOutcomes) (files : FileSystem) :
    (o.allocCmdLine = none
      ∧ create proc (.str exe) (args.map .str) o files = (.returned (E_OUTOFMEMORY, proc), [])) ∨
    ∃ cells, o.allocCmdLine ≠ none
      ∧ CHeapBuffer.get (some cells) = .str (truncatedCommandLine exe args g_cchMaxCommandLine)
      ∧ ((¬ (crtLexicon.renderArgument exe.units).length < g_cchMaxCommandLine
          ∧ create proc (.str exe) (args.map .str) o files
            = (.returned (STRSAFE_E_INSUFFICIENT_BUFFER, { proc with bufCmdLine := some cells }), []))
        ∨ ((crtLexicon.renderArgument exe.units).length < g_cchMaxCommandLine
          ∧ ∃ hr info created, create proc (.str exe) (args.map .str) o files
            = (.returned (hr, ⟨info, some cells⟩),
                [.createProcess (.str (truncatedCommandLine exe args g_cchMaxCommandLine)) created]))) := by
  cases halloc : o.allocCmdLine with
  | none => exact Or.inl ⟨rfl, by simp [create, hproc, halloc]⟩
  | some garbage =>
      right
      set cells := (List.range g_cchMaxCommandLine).map garbage with hcells
      have hlength : cells.length = g_cchMaxCommandLine := by simp [hcells]
      have hmax : g_cchMaxCommandLine ≤ STRSAFE_MAX_CCH := by decide
      have hpos : 0 < g_cchMaxCommandLine := by decide
      obtain ⟨cells', hrun, htext⟩ := formatCommandLine_spec exe args cells
        (List.length_pos_iff.mp (hlength ▸ hpos)) (hlength ▸ hmax)
      rw [hlength] at hrun htext
      refine ⟨cells', by simp, htext, ?_⟩
      have hline : ∀ info, (CProcess.mk info (some cells')).getCommandLine
          = .str (truncatedCommandLine exe args g_cchMaxCommandLine) := fun _ => htext
      by_cases hpath : (crtLexicon.renderArgument exe.units).length < g_cchMaxCommandLine
      · right
        rw [if_pos hpath] at hrun
        refine ⟨hpath, ?_⟩
        cases hcreate : o.createProcess with
        | error e =>
            refine ⟨HRESULT_FROM_WIN32 e.code, none, false, ?_⟩
            simp [create, hproc, halloc, ← hcells, hrun, hcreate, hline]
        | ok info =>
            refine ⟨S_OK, some info, true, ?_⟩
            simp [create, hproc, halloc, ← hcells, hrun, hcreate, hline]
      · left
        rw [if_neg hpath] at hrun
        refine ⟨hpath, ?_⟩
        simp [create, hproc, halloc, ← hcells, hrun]

/-- The calls of `CreateProcessW` that `Create` makes: at most one, with what the buffer holds. -/
theorem createProcess_mem_create_iff (proc : CProcess) (exe : WStr) (args : List WStr)
    (o : ProcessOutcomes) (files : FileSystem) (text : LPCWSTR) :
    (∃ created, Action.createProcess text created
        ∈ (create proc (.str exe) (args.map .str) o files).2)
      ↔ proc.procInfo = none ∧ o.allocCmdLine ≠ none ∧
        (crtLexicon.renderArgument exe.units).length < g_cchMaxCommandLine ∧
        text = .str (truncatedCommandLine exe args g_cchMaxCommandLine) := by
  cases hproc : proc.procInfo with
  | some info => simp [create, hproc]
  | none =>
      rcases create_str_cases hproc exe args o files with ⟨halloc, hrun⟩
        | ⟨cells, halloc, -, ⟨hpath, hrun⟩ | ⟨hpath, hr, info, created, hrun⟩⟩
      · simp [hrun, halloc]
      · simp [hrun, hpath]
      · simp [hrun, halloc, hpath]

theorem create_of_strings (exe : WStr) (args : List WStr) (o : ProcessOutcomes) (files : FileSystem) :
    ∃ hr proc calls, create {} (.str exe) (args.map .str) o files = (.returned (hr, proc), calls)
      ∧ proc.getCommandLine.isUnterminated = false := by
  rcases create_str_cases (rfl : ({} : CProcess).procInfo = none) exe args o files with ⟨-, hrun⟩
    | ⟨cells, -, hget, ⟨-, hrun⟩ | ⟨-, hr, info, created, hrun⟩⟩
  · exact ⟨_, _, _, hrun, rfl⟩
  · refine ⟨_, _, _, hrun, ?_⟩
    rw [getCommandLine, hget]
    rfl
  · refine ⟨_, _, _, hrun, ?_⟩
    rw [getCommandLine, hget]
    rfl

/-- **No truncated launch, and when.** The success code of `FormatCommandLine` says that the complete
rendering fits if and only if `TruncationReported`; and `Create` calls `CreateProcessW` with complete
command lines only, if and only if it makes no call at all or `TruncationReported` holds of its own
buffer. -/
theorem formatCommandLine_success_iff_fits_iff (exe : WStr) (args : List WStr) (cells : List WCHAR)
    (proc : CProcess) (o : ProcessOutcomes) (files : FileSystem) (hne : cells ≠ []) :
    (∃ hr cells', formatCommandLine (.str exe) (args.map .str) cells = .ok (hr, cells')
      ∧ ((¬ FAILED hr ↔ (rendering exe args).length < cells.length)
        ↔ TruncationReported exe args cells.length))
    ∧ ((∀ text created, Action.createProcess text created
          ∈ (create proc (.str exe) (args.map .str) o files).2 → text = .str (commandLine exe args))
        ↔ proc.procInfo ≠ none ∨ o.allocCmdLine = none
          ∨ TruncationReported exe args g_cchMaxCommandLine) := by
  have hlength := rendering_length exe args
  constructor
  · by_cases hmax : cells.length ≤ STRSAFE_MAX_CCH
    · obtain ⟨cells', hrun, -⟩ := formatCommandLine_spec exe args cells hne hmax
      refine ⟨_, cells', hrun, ?_⟩
      rw [TruncationReported, if_pos hmax]
      by_cases hpath : (crtLexicon.renderArgument exe.units).length < cells.length
      · rw [if_pos hpath]
        simp only [not_failed_S_OK, not_false_eq_true, true_iff]
        omega
      · rw [if_neg hpath]
        simp only [failed_STRSAFE_E_INSUFFICIENT_BUFFER, not_true_eq_false, false_iff]
        omega
    · refine ⟨_, cells, formatCommandLine_of_refused exe args (by omega), ?_⟩
      rw [TruncationReported, if_neg hmax]
      simp only [failed_STRSAFE_E_INVALID_PARAMETER, not_true_eq_false, false_iff]
      omega
  · have hcalls : (∀ text created, Action.createProcess text created
          ∈ (create proc (.str exe) (args.map .str) o files).2 → text = .str (commandLine exe args))
        ↔ ∀ text, (∃ created, Action.createProcess text created
          ∈ (create proc (.str exe) (args.map .str) o files).2) → text = .str (commandLine exe args) := by
      constructor
      · intro h text hmem
        obtain ⟨created, hcreated⟩ := hmem
        exact h text created hcreated
      · intro h text created hmem
        exact h text ⟨created, hmem⟩
    have hbuffer : g_cchMaxCommandLine ≤ STRSAFE_MAX_CCH := by decide
    rw [hcalls, TruncationReported, if_pos hbuffer]
    simp only [createProcess_mem_create_iff]
    constructor
    · intro h
      by_contra hnot
      simp only [not_or, Ne, not_not] at hnot
      obtain ⟨hproc, halloc, hpath, hwhole⟩ := hnot
      have heq := h _ ⟨hproc, halloc, by omega, rfl⟩
      exact hwhole ((truncatedCommandLine_eq_iff (by decide)).mp (LPCWSTR.str.inj heq))
    · rintro h text ⟨hproc, halloc, hpath, rfl⟩
      have hwhole := ((h.resolve_left (not_not.mpr hproc)).resolve_left halloc).resolve_left
        (Nat.not_le.mpr hpath)
      rw [truncatedCommandLine_of_fits hwhole]

def succeedingProcess : ProcessOutcomes where
  allocCmdLine := some fun _ => NUL
  createProcess := .ok ⟨4100, 4104⟩
  waitResult := WAIT_OBJECT_0
  waitError := ⟨5, by decide⟩
  getExitCodeProcess := .ok 0

theorem formatCommandLine_success_iff_fits_iff_example :
    (∃ hr cells', formatCommandLine (.str (.ofLiteral "a")) ([.ofLiteral "b"].map .str)
        [NUL, NUL, NUL, NUL] = .ok (hr, cells')
      ∧ ((¬ FAILED hr
          ↔ (rendering (.ofLiteral "a") [.ofLiteral "b"]).length < [NUL, NUL, NUL, NUL].length)
        ↔ TruncationReported (.ofLiteral "a") [.ofLiteral "b"] [NUL, NUL, NUL, NUL].length))
    ∧ ((∀ text created, Action.createProcess text created
          ∈ (create {} (.str (.ofLiteral "a")) ([.ofLiteral "b"].map .str)
            succeedingProcess fun _ => none).2
          → text = .str (commandLine (.ofLiteral "a") [.ofLiteral "b"]))
        ↔ ({} : CProcess).procInfo ≠ none ∨ succeedingProcess.allocCmdLine = none
          ∨ TruncationReported (.ofLiteral "a") [.ofLiteral "b"] g_cchMaxCommandLine) :=
  formatCommandLine_success_iff_fits_iff _ _ _ _ _ _ (by decide)

def longArgument : WStr :=
  ⟨List.replicate g_cchMaxCommandLine 0x62, fun h => absurd (List.eq_of_mem_replicate h) (by decide)⟩

/-- The separator fits and the argument behind it does not: the function answers `S_OK` with three
cells for four characters, and `Create` calls `CreateProcessW` with a cut command line. -/
theorem formatCommandLine_hides_truncation :
    (formatCommandLine (.str (.ofLiteral "a")) [.str (.ofLiteral "b")] [NUL, NUL, NUL]
        = .ok (S_OK, wide "a " ++ [NUL])
      ∧ ¬ (rendering (.ofLiteral "a") [.ofLiteral "b"]).length < [NUL, NUL, NUL].length)
    ∧ ∃ text created, Action.createProcess text created
        ∈ (create {} (.str (.ofLiteral "a")) [.str longArgument] succeedingProcess
          fun _ => none).2
      ∧ text ≠ .str (commandLine (.ofLiteral "a") [longArgument]) := by
  refine ⟨⟨by decide, by decide⟩, ?_⟩
  obtain ⟨created, hmem⟩ := (createProcess_mem_create_iff {} (.ofLiteral "a") [longArgument]
    succeedingProcess (fun _ => none) _).mpr ⟨rfl, by simp [succeedingProcess], by decide, rfl⟩
  refine ⟨_, created, hmem, ?_⟩
  intro heq
  have hlong : longArgument.units.length = g_cchMaxCommandLine := List.length_replicate
  have hlength : g_cchMaxCommandLine
      ≤ (rendering (.ofLiteral "a") [longArgument]).length := by
    have hargument := crtLexicon.length_le_renderArgument longArgument.units
    rw [rendering_length, List.map_singleton, Lexicon.renderArguments_cons, List.length_cons,
      List.length_append]
    omega
  have hfits := (truncatedCommandLine_eq_iff (by decide)).mp (LPCWSTR.str.inj heq)
  exact absurd hfits (Nat.not_lt.mpr hlength)

end CProcess

end PmiExitModule
