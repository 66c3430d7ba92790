import Mathlib.Data.Nat.Digits.Lemmas
import PmiExitModule.EventSource

/-!
# Reporting an event

A report is one accepted `ReportEventW` call once every argument formats. Numbers always do: thirty-two
characters take any of them. The message text of an error code does not, and it is the argument that
can make the event that carries the code disappear.
-/

namespace PmiExitModule

open Generic

/-! ### Numbers -/

theorem printDigits_length_le {base value k : Nat} (hbase : 1 < base) (hk : 0 < k)
    (hvalue : value < base ^ k) : (printDigits base value).length ≤ k := by
  unfold printDigits
  split
  · exact hk
  · rw [List.length_map, List.length_reverse]
    exact (Nat.digits_length_le_iff hbase value).mpr hvalue

theorem nul_notMem_printDigits {base value : Nat} (hbase : 1 < base) (hle : base ≤ 16) :
    NUL ∉ printDigits base value := by
  have hdigit : ∀ d < 16, BitVec.ofNat 16 (if d < 10 then 0x30 + d else 0x61 + (d - 10)) ≠ NUL := by
    decide
  unfold printDigits
  split
  · simpa using (hdigit 0 (by decide)).symm
  · rw [List.mem_map]
    rintro ⟨d, hmem, heq⟩
    have hlt := Nat.digits_lt_base hbase (List.mem_reverse.mp hmem)
    exact hdigit d (Nat.lt_of_lt_of_le hlt hle) heq

def numeral (base value : Nat) (hbase : 1 < base) (hle : base ≤ 16) : WStr :=
  ⟨printDigits base value, nul_notMem_printDigits hbase hle⟩

def decimal (value : DWORD) : WStr := numeral 10 value.toNat (by decide) (by decide)

def hexadecimal (value : HRESULT) : WStr := numeral 16 value.toNat (by decide) (by decide)

namespace CEventArg

theorem formatNumeric_eq {base value : Nat} (hbase : 1 < base) (hle : base ≤ 16)
    (hvalue : value < base ^ 31) :
    formatNumeric base value = (S_OK, .str (numeral base value hbase hle)) := by
  have hlength := printDigits_length_le hbase (by decide) hvalue
  have hkeep : untilNul (printDigits base value) = numeral base value hbase hle := by
    ext1
    refine List.takeWhile_eq_self_iff.mpr fun c hc => decide_eq_true ?_
    rintro rfl
    exact nul_notMem_printDigits hbase hle hc
  have hfits : (printDigits base value).length < cchNumericBuffer := Nat.lt_succ_of_le hlength
  rw [formatNumeric, if_pos hfits, hkeep]

variable (o : EventOutcomes)

@[simp]
theorem format_string (s : LPCWSTR) : (string s).format o = (S_OK, s) := rfl

@[simp]
theorem format_dword (value : DWORD) : (dword value).format o = (S_OK, .str (decimal value)) :=
  formatNumeric_eq (by decide) (by decide) (Nat.lt_trans value.isLt (by decide))

@[simp]
theorem format_hresult (value : HRESULT) :
    (hresult value).format o = (S_OK, .str (hexadecimal value)) :=
  formatNumeric_eq (by decide) (by decide) (Nat.lt_trans value.isLt (by decide))

variable {o}

theorem formatAll_of_formats {args : List CEventArg} {strings : List LPCWSTR}
    (h : List.Forall₂ (fun arg s => arg.format o = (S_OK, s)) args strings) :
    formatAll o args = (S_OK, strings) := by
  induction h with
  | nil => rfl
  | cons hhead _ ih => simp [formatAll, hhead, ih]

theorem strings_of_formatAll {args : List CEventArg} {hr : HRESULT} {strings : List LPCWSTR}
    (h : formatAll o args = (hr, strings)) (hok : ¬ FAILED hr) :
    strings = args.map fun arg => (arg.format o).2 := by
  induction args generalizing strings with
  | nil => exact (congrArg Prod.snd h).symm
  | cons arg rest ih =>
      unfold formatAll at h
      by_cases hfailed : FAILED (arg.format o).1
      · simp only [hfailed, if_true, Prod.mk.injEq] at h
        exact absurd (h.1 ▸ hfailed) hok
      · simp only [hfailed, if_false, Prod.mk.injEq] at h
        obtain ⟨rfl, rfl⟩ := h
        rw [List.map_cons, ← ih rfl]

theorem failed_formatAll {args : List CEventArg} {arg : CEventArg} (hmem : arg ∈ args)
    (hfailed : FAILED (arg.format o).1) : FAILED (formatAll o args).1 := by
  induction args with
  | nil => cases hmem
  | cons first rest ih =>
      unfold formatAll
      by_cases hfirst : FAILED (first.format o).1
      · simp only [hfirst, if_true]
      · simp only [hfirst, if_false]
        cases hmem with
        | head => exact absurd hfailed hfirst
        | tail _ hrest => exact ih hrest

end CEventArg

/-! ### Reports -/

/-- A pointer `ReportEventW` can take: it leads to a string or is null. -/
def LPCWSTR.Reportable (p : LPCWSTR) : Prop := p.isUnterminated = false

@[simp]
theorem LPCWSTR.reportable_str (s : WStr) : (LPCWSTR.str s).Reportable := rfl

/-- The calls behind a report succeed, whatever `FormatMessageW` answers. -/
structure EventOutcomes.Accepting (o : EventOutcomes) : Prop where
  allocStrings : o.allocStrings = true
  allocMessage : o.allocMessage = true
  reportEvent : o.reportEvent = .ok ()

/-- `FormatMessageW` does not make an argument fail: it found a text, or answered no characters and
no error. -/
def EventOutcomes.MessageFormats (o : EventOutcomes) : Prop :=
  match o.formatMessage with
  | .found _ => True
  | .failed lastError => lastError = ERROR_SUCCESS

/-- The report of an error code gets its strings: there is memory for them, and for the message text, and
the text does not make it fail. -/
def EventOutcomes.TellsError (o : EventOutcomes) : Prop :=
  o.allocStrings = true ∧ o.allocMessage = true ∧ o.MessageFormats

/-- The argument, if it formats, formats to a string `ReportEventW` can take. -/
def CEventArg.Readable : CEventArg → Prop
  | .string pwszValue => pwszValue.Reportable
  | _ => True

/-- The argument formats. -/
def CEventArg.Formats (arg : CEventArg) (o : EventOutcomes) : Prop :=
  match arg with
  | .errorMessage _ => o.allocMessage = true ∧ o.MessageFormats
  | _ => True

namespace CEventSource

variable {source : CEventSource} {wType : EventType} {id : EventId} {args : List CEventArg}
  {strings : List LPCWSTR} {o : EventOutcomes} {files : FileSystem}

theorem reportStrings_cases (source : CEventSource) (event : Event) (o : EventOutcomes)
    (files : FileSystem) :
    source.reportStrings event o files = (.faulted .outOfBounds, []) ∨
    (∃ hr, source.reportStrings event o files = (.returned hr, [])) ∨
    ∃ hr accepted, source.reportStrings event o files
      = (.returned hr, [.reportEvent event accepted]) := by
  unfold reportStrings
  cases source.hEventLog with
  | false => exact Or.inr (Or.inl ⟨_, rfl⟩)
  | true =>
      simp only [Bool.not_true, Bool.false_eq_true, if_false]
      split
      · exact Or.inl rfl
      · cases o.reportEvent with
        | error e => exact Or.inr (Or.inr ⟨_, false, rfl⟩)
        | ok _ => exact Or.inr (Or.inr ⟨_, true, rfl⟩)

/-- What a report can do: fault on a string it cannot read, nothing, or one `ReportEventW` call on
the strings of its arguments. -/
theorem report_cases (source : CEventSource) (wType : EventType) (id : EventId)
    (args : List CEventArg) (o : EventOutcomes) (files : FileSystem) :
    source.report wType id args o files = (.faulted .outOfBounds, []) ∨
    source.report wType id args o files = (.returned (), []) ∨
    ∃ accepted, source.report wType id args o files
      = (.returned (), [.reportEvent ⟨wType, GENERAL_CATEGORY, id,
          args.map fun arg => (arg.format o).2⟩ accepted]) := by
  rw [report, reportEvent]
  split
  · exact Or.inr (Or.inl rfl)
  · rcases hall : CEventArg.formatAll o args with ⟨hr, strings⟩
    by_cases hfailed : FAILED hr
    · simp only [hfailed, if_true]
      exact Or.inr (Or.inl rfl)
    · simp only [hfailed, if_false]
      rcases reportStrings_cases source ⟨wType, GENERAL_CATEGORY, id, strings⟩ o files with
        hrun | ⟨hr, hrun⟩ | ⟨hr, accepted, hrun⟩
      · exact Or.inl (Program.bind_of_faulted hrun)
      · exact Or.inr (Or.inl (Program.bind_of_returned hrun))
      · rw [CEventArg.strings_of_formatAll hall hfailed] at hrun ⊢
        exact Or.inr (Or.inr ⟨accepted, Program.bind_of_returned hrun⟩)

theorem report_ne_running (source : CEventSource) (wType : EventType) (id : EventId)
    (args : List CEventArg) (o : EventOutcomes) (files : FileSystem) :
    (source.report wType id args o files).1 ≠ .running := by
  rcases report_cases source wType id args o files with hrun | hrun | ⟨accepted, hrun⟩
    <;> simp [hrun]

theorem reportStrings_of_reportable (hopen : source.hEventLog = true) (hwrites : o.reportEvent = .ok ())
    (hstrings : ∀ s ∈ strings, s.Reportable) :
    source.reportStrings ⟨wType, GENERAL_CATEGORY, id, strings⟩ o files
      = (.returned S_OK, [.reportEvent ⟨wType, GENERAL_CATEGORY, id, strings⟩ true]) := by
  have hreadable : strings.any LPCWSTR.isUnterminated = false := by
    rw [List.any_eq_false]
    intro s hs
    exact Bool.eq_false_iff.mp (hstrings s hs)
  simp only [reportStrings, hopen, hreadable, hwrites, Bool.not_true, Bool.false_eq_true, if_false]
  rfl

theorem report_of_formats (strings : List LPCWSTR) (hopen : source.hEventLog = true)
    (halloc : o.allocStrings = true) (hwrites : o.reportEvent = .ok ())
    (hformats : List.Forall₂ (fun arg s => arg.format o = (S_OK, s)) args strings)
    (hstrings : ∀ s ∈ strings, s.Reportable) :
    source.report wType id args o files
      = (.returned (), [.reportEvent ⟨wType, GENERAL_CATEGORY, id, strings⟩ true]) := by
  have hrun : source.reportStrings ⟨wType, GENERAL_CATEGORY, id, strings⟩ o files
      = (.returned S_OK, [.reportEvent ⟨wType, GENERAL_CATEGORY, id, strings⟩ true]) :=
    reportStrings_of_reportable hopen hwrites hstrings
  rw [report, reportEvent]
  simp only [halloc, Bool.not_true, Bool.false_eq_true, and_false, if_false,
    CEventArg.formatAll_of_formats hformats, not_failed_S_OK]
  exact Program.bind_of_returned hrun

theorem report_of_failed (arg : CEventArg) (hmem : arg ∈ args) (hfailed : FAILED (arg.format o).1) :
    source.report wType id args o files = (.returned (), []) := by
  have hall := CEventArg.failed_formatAll hmem hfailed
  rw [report, reportEvent]
  split
  · rfl
  · simp only [hall, if_true]
    rfl

/-! ### Error codes -/

/-- A call wrote exactly one event of this id, and the insertion string its message shows behind
`HRESULT=` is the error code in hexadecimal. -/
def ReportsErrorCode (id : EventId) (hrError : HRESULT)
    (run : Ending Fault Unit × List Action) : Prop :=
  ∃ event n, run = (.returned (), [.reportEvent event true]) ∧ event.dwEventID = id
    ∧ hresultInsert id.message = some n ∧ event.strings[n - 1]? = some (.str (hexadecimal hrError))

theorem failed_format_errorMessage (o : EventOutcomes) (hr : HRESULT) (hmessage : ¬ o.MessageFormats) :
    FAILED ((CEventArg.errorMessage hr).format o).1 := by
  unfold EventOutcomes.MessageFormats at hmessage
  unfold CEventArg.format
  cases hformat : o.formatMessage with
  | found text => simp [hformat] at hmessage
  | failed lastError =>
      simp only [hformat] at hmessage ⊢
      cases o.allocMessage with
      | true => exact failed_HRESULT_FROM_WIN32_iff.mpr hmessage
      | false => exact failed_E_OUTOFMEMORY

theorem format_errorMessage (hr : HRESULT) (halloc : o.allocMessage = true)
    (hmessage : o.MessageFormats) :
    ∃ s : LPCWSTR, s.Reportable ∧ (CEventArg.errorMessage hr).format o = (S_OK, s) := by
  unfold EventOutcomes.MessageFormats at hmessage
  unfold CEventArg.format
  cases hformat : o.formatMessage with
  | found text => exact ⟨.str text, rfl, by simp [halloc]⟩
  | failed lastError =>
      simp only [hformat] at hmessage
      refine ⟨.null, rfl, ?_⟩
      simp only [halloc, if_true, hmessage]
      rfl

theorem exists_string_of_formats {arg : CEventArg} (hreadable : arg.Readable) (h : arg.Formats o) :
    ∃ s : LPCWSTR, s.Reportable ∧ arg.format o = (S_OK, s) := by
  cases arg with
  | string p => exact ⟨p, hreadable, rfl⟩
  | dword value => exact ⟨_, LPCWSTR.reportable_str _, CEventArg.format_dword o value⟩
  | hresult value => exact ⟨_, LPCWSTR.reportable_str _, CEventArg.format_hresult o value⟩
  | errorMessage hr => exact format_errorMessage hr h.1 h.2

theorem exists_strings_of_formats (hreadable : ∀ arg ∈ args, arg.Readable)
    (hargs : ∀ arg ∈ args, arg.Formats o) :
    ∃ strings : List LPCWSTR, (∀ s ∈ strings, s.Reportable)
      ∧ List.Forall₂ (fun arg s => arg.format o = (S_OK, s)) args strings := by
  induction args with
  | nil => exact ⟨[], by simp, List.Forall₂.nil⟩
  | cons arg args ih =>
      obtain ⟨harg, hargs⟩ := List.forall_mem_cons.mp hargs
      obtain ⟨hfirst, hreadable⟩ := List.forall_mem_cons.mp hreadable
      obtain ⟨s, hs, hformat⟩ := exists_string_of_formats hfirst harg
      obtain ⟨strings, hstrings, hformats⟩ := ih hreadable hargs
      exact ⟨s :: strings, List.forall_mem_cons.mpr ⟨hs, hstrings⟩, .cons hformat hformats⟩

theorem reportable_format (o : EventOutcomes) {arg : CEventArg} (hreadable : arg.Readable) :
    (arg.format o).2.Reportable := by
  cases arg with
  | string p => exact hreadable
  | dword value => rw [CEventArg.format_dword]; exact LPCWSTR.reportable_str _
  | hresult value => rw [CEventArg.format_hresult]; exact LPCWSTR.reportable_str _
  | errorMessage hr =>
      unfold CEventArg.format
      cases o.allocMessage with
      | false => rfl
      | true => cases o.formatMessage <;> rfl

/-- A report on strings that can be read writes its event, or nothing at all; and nothing only if there is
no memory for the strings or an argument does not format. -/
theorem report_written_or_lost (source : CEventSource) (wType : EventType) (id : EventId)
    (files : FileSystem) (hopen : source.hEventLog = true) (hwrites : o.reportEvent = .ok ())
    (hreadable : ∀ arg ∈ args, arg.Readable) :
    source.report wType id args o files = (.returned (), [.reportEvent
        ⟨wType, GENERAL_CATEGORY, id, args.map fun arg => (arg.format o).2⟩ true]) ∨
    (source.report wType id args o files = (.returned (), [])
      ∧ ¬ (o.allocStrings = true ∧ ∀ arg ∈ args, arg.Formats o)) := by
  rw [report, reportEvent]
  by_cases hlost : 0 < args.length ∧ (!o.allocStrings) = true
  · rw [if_pos hlost]
    refine Or.inr ⟨rfl, ?_⟩
    intro hready
    rw [hready.1] at hlost
    exact Bool.false_ne_true hlost.2
  rw [if_neg hlost]
  rcases hall : CEventArg.formatAll o args with ⟨hr, strings⟩
  by_cases hfailed : FAILED hr
  · simp only [hfailed, if_true]
    refine Or.inr ⟨rfl, ?_⟩
    intro hready
    obtain ⟨strings', -, hformats⟩ := exists_strings_of_formats hreadable hready.2
    rw [CEventArg.formatAll_of_formats hformats] at hall
    exact not_failed_S_OK ((Prod.mk.inj hall).1 ▸ hfailed)
  · simp only [hfailed, if_false]
    left
    obtain rfl := CEventArg.strings_of_formatAll hall hfailed
    refine Program.bind_of_returned (reportStrings_of_reportable hopen hwrites ?_)
    intro s hs
    obtain ⟨arg, hmem, rfl⟩ := List.mem_map.mp hs
    exact reportable_format o (hreadable arg hmem)

/-- The reports of an error code end alike: two arguments of any kind, the code, and its message. -/
theorem report_errorCode_iff {first second : CEventArg} {s t : LPCWSTR} (hrError : HRESULT)
    (hid : hresultInsert id.message = some 3) (hopen : source.hEventLog = true)
    (haccept : o.Accepting) (hfirst : first.format o = (S_OK, s))
    (hsecond : second.format o = (S_OK, t)) (hs : s.Reportable) (ht : t.Reportable) :
    ReportsErrorCode id hrError (source.report wType id
        [first, second, .hresult hrError, .errorMessage hrError] o files)
      ↔ o.MessageFormats := by
  constructor
  · rintro ⟨event, n, hrun, -⟩
    by_contra hmessage
    have hnone := @report_of_failed source wType id
      [first, second, .hresult hrError, .errorMessage hrError] o files (.errorMessage hrError)
      (List.mem_cons_of_mem _ (List.mem_cons_of_mem _ (List.mem_cons_of_mem _ List.mem_cons_self)))
      (failed_format_errorMessage o hrError hmessage)
    rw [hnone] at hrun
    cases hrun
  · intro hmessage
    obtain ⟨text, htext, hformat⟩ := format_errorMessage hrError haccept.allocMessage hmessage
    refine ⟨_, 3, report_of_formats [s, t, .str (hexadecimal hrError), text] hopen
      haccept.allocStrings haccept.reportEvent ?_ ?_, rfl, hid, rfl⟩
    · simp [hfirst, hsecond, hformat]
    · simp [hs, ht, htext]

/-- **Every failure is reported, and when.** In an open log that accepts the event, each of the two
reports of an error code is one event that shows the code if and only if `FormatMessageW` does not
make the formatting of its last argument fail. -/
theorem reports_errorCode_iff_messageFormats (source : CEventSource) (o : EventOutcomes)
    (lExitEvent lContext : LONG) (pwszExePath pwszCmdLine : LPCWSTR) (hrError : HRESULT)
    (files : FileSystem) (hopen : source.hEventLog = true) (haccept : o.Accepting)
    (hexe : pwszExePath.Reportable) (hcmd : pwszCmdLine.Reportable) :
    (ReportsErrorCode .MSG_NOTIFY_FAILED hrError
        (source.reportNotifyFailedInternalError lExitEvent lContext hrError o files)
      ↔ o.MessageFormats)
    ∧ (ReportsErrorCode .MSG_PROCESS_START_FAILED hrError
        (source.reportProcessStartFailed pwszExePath pwszCmdLine hrError o files)
      ↔ o.MessageFormats) := by
  constructor
  · exact report_errorCode_iff hrError rfl hopen haccept (CEventArg.format_hresult o lExitEvent)
      (CEventArg.format_hresult o lContext) rfl rfl
  · exact report_errorCode_iff hrError rfl hopen haccept (CEventArg.format_string o pwszExePath)
      (CEventArg.format_string o pwszCmdLine) hexe hcmd

def missingMessage : EventOutcomes where
  allocStrings := true
  allocMessage := true
  formatMessage := .failed 317
  reportEvent := .ok ()

theorem reports_errorCode_iff_messageFormats_example :
    (ReportsErrorCode .MSG_NOTIFY_FAILED 0x80070005
        ((⟨true⟩ : CEventSource).reportNotifyFailedInternalError 1 7 0x80070005
          { missingMessage with formatMessage := .found (.ofLiteral "Access is denied.") }
          fun _ => none)
      ↔ EventOutcomes.MessageFormats
          { missingMessage with formatMessage := .found (.ofLiteral "Access is denied.") })
    ∧ (ReportsErrorCode .MSG_PROCESS_START_FAILED 0x80070005
        ((⟨true⟩ : CEventSource).reportProcessStartFailed (.str (.ofLiteral "a.exe")) .null
          0x80070005
          { missingMessage with formatMessage := .found (.ofLiteral "Access is denied.") }
          fun _ => none)
      ↔ EventOutcomes.MessageFormats
          { missingMessage with formatMessage := .found (.ofLiteral "Access is denied.") }) :=
  reports_errorCode_iff_messageFormats _ _ _ _ _ _ _ _ rfl ⟨rfl, rfl, rfl⟩ rfl rfl

/-- A database-engine code without a system message: neither report calls `ReportEventW`. -/
theorem missingMessage_reports_nothing :
    (⟨true⟩ : CEventSource).reportNotifyFailedInternalError 1 7 0xC8000713 missingMessage
        (fun _ => none) = (.returned (), [])
    ∧ (⟨true⟩ : CEventSource).reportProcessStartFailed (.str (.ofLiteral "a.exe")) .null
        0xC8000713 missingMessage (fun _ => none) = (.returned (), []) :=
  ⟨report_of_failed (.errorMessage 0xC8000713) (by simp) (by decide),
    report_of_failed (.errorMessage 0xC8000713) (by simp) (by decide)⟩

end CEventSource

end PmiExitModule
