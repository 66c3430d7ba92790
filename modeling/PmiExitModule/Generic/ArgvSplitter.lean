import Mathlib.Data.List.Induction
import Mathlib.Data.List.TakeWhile

/-!
# Splitting a command line into arguments

The argument rules of the Microsoft C runtime over any alphabet, and the simple renderer that wraps a
text in quotes when it holds a space and escapes nothing. Rendered texts that hold no quote come back
unchanged exactly when each of them avoids the three cases the renderer gets wrong: an empty argument,
a tab outside quotes, and backslashes in front of the closing quote. A wrong one is never made good by
its neighbours, because what is read in its place differs from it in a character of its own.
-/

namespace Generic

structure Lexicon (α : Type) where
  space : α
  tab : α
  quote : α
  backslash : α
  distinct : [space, tab, quote, backslash].Nodup

namespace Lexicon

variable {α : Type} [DecidableEq α] (L : Lexicon α)

omit [DecidableEq α] in
@[simp]
theorem tab_ne_space : L.tab ≠ L.space := by
  have hdistinct := L.distinct
  simp only [List.nodup_cons, List.mem_cons, not_or] at hdistinct
  exact Ne.symm hdistinct.1.1

omit [DecidableEq α] in
@[simp]
theorem quote_ne_space : L.quote ≠ L.space := by
  have hdistinct := L.distinct
  simp only [List.nodup_cons, List.mem_cons, not_or] at hdistinct
  exact Ne.symm hdistinct.1.2.1

omit [DecidableEq α] in
@[simp]
theorem quote_ne_tab : L.quote ≠ L.tab := by
  have hdistinct := L.distinct
  simp only [List.nodup_cons, List.mem_cons, not_or] at hdistinct
  exact Ne.symm hdistinct.2.1.1

omit [DecidableEq α] in
@[simp]
theorem quote_ne_backslash : L.quote ≠ L.backslash := by
  have hdistinct := L.distinct
  simp only [List.nodup_cons, List.mem_cons, not_or] at hdistinct
  exact hdistinct.2.2.1.1

omit [DecidableEq α] in
@[simp]
theorem space_ne_backslash : L.space ≠ L.backslash := by
  have hdistinct := L.distinct
  simp only [List.nodup_cons, List.mem_cons, not_or] at hdistinct
  exact hdistinct.1.2.2.1

omit [DecidableEq α] in
@[simp]
theorem tab_ne_backslash : L.tab ≠ L.backslash := by
  have hdistinct := L.distinct
  simp only [List.nodup_cons, List.mem_cons, not_or] at hdistinct
  exact hdistinct.2.1.2.1

/-! ### The splitter -/

def isSeparator (c : α) : Bool := c = L.space || c = L.tab

/-- The program name: quotes toggle and are dropped, and it ends at the first separator outside
quotes. Backslashes mean nothing in it. -/
def programName (inQuotes : Bool) : List α → List α × List α
  | [] => ([], [])
  | c :: rest =>
      if c = L.quote then programName (!inQuotes) rest
      else if !inQuotes && L.isSeparator c then ([], c :: rest)
      else (c :: (programName inQuotes rest).1, (programName inQuotes rest).2)

/-- Where a scan stands: outside quotes, inside quotes, or right behind a quote that closed them. -/
inductive Quoting where
  | outside
  | inside
  | closing
  deriving DecidableEq

def Quoting.next : Quoting → Quoting
  | inside => inside
  | _ => outside

def Quoting.toggle : Quoting → Quoting
  | inside => closing
  | _ => inside

@[simp]
theorem Quoting.next_outside : Quoting.outside.next = .outside := rfl

@[simp]
theorem Quoting.next_inside : Quoting.inside.next = .inside := rfl

@[simp]
theorem Quoting.toggle_outside : Quoting.outside.toggle = .inside := rfl

@[simp]
theorem Quoting.toggle_inside : Quoting.inside.toggle = .closing := rfl

def emitting (read : List α) (scanned : List α × List α) : List α × List α :=
  (read ++ scanned.1, scanned.2)

omit [DecidableEq α] in
@[simp]
theorem emitting_nil (scanned : List α × List α) : emitting [] scanned = scanned := rfl

omit [DecidableEq α] in
@[simp]
theorem emitting_fst (read : List α) (scanned : List α × List α) :
    (emitting read scanned).1 = read ++ scanned.1 := rfl

omit [DecidableEq α] in
@[simp]
theorem emitting_snd (read : List α) (scanned : List α × List α) :
    (emitting read scanned).2 = scanned.2 := rfl

omit [DecidableEq α] in
theorem emitting_emitting (first second : List α) (scanned : List α × List α) :
    emitting first (emitting second scanned) = emitting (first ++ second) scanned := by
  simp [emitting]

/-- One argument, given the backslashes just read: `2n` of them before a quote give `n` and toggle
quoting, `2n + 1` give `n` and a literal quote, a doubled quote inside quotes gives a literal quote,
and all other backslashes are literal. -/
def scanArgument (quoting : Quoting) (backslashes : Nat) : List α → List α × List α
  | [] => (List.replicate backslashes L.backslash, [])
  | c :: rest =>
      if c = L.backslash then scanArgument quoting.next (backslashes + 1) rest
      else if c = L.quote then
        if quoting = .closing ∧ backslashes = 0 then
          emitting [L.quote] (scanArgument .inside 0 rest)
        else if backslashes % 2 = 1 then
          emitting (List.replicate (backslashes / 2) L.backslash ++ [L.quote])
            (scanArgument quoting 0 rest)
        else
          emitting (List.replicate (backslashes / 2) L.backslash)
            (scanArgument quoting.toggle 0 rest)
      else if quoting ≠ .inside ∧ L.isSeparator c then
        (List.replicate backslashes L.backslash, c :: rest)
      else
        emitting (List.replicate backslashes L.backslash ++ [c]) (scanArgument quoting.next 0 rest)

theorem scanArgument_length (quoting : Quoting) (backslashes : Nat) (text : List α) :
    (L.scanArgument quoting backslashes text).2.length ≤ text.length := by
  fun_induction L.scanArgument quoting backslashes text <;>
    simp only [emitting, List.length_cons, List.length_nil, Nat.le_refl] at * <;> omega

theorem scanArgument_length_lt {c : α} (hc : L.isSeparator c = false) (rest : List α) :
    (L.scanArgument .outside 0 (c :: rest)).2.length < (c :: rest).length := by
  have hrest : ∀ quoting backslashes,
      (L.scanArgument quoting backslashes rest).2.length < (c :: rest).length := by
    intro quoting backslashes
    exact Nat.lt_succ_of_le (L.scanArgument_length quoting backslashes rest)
  unfold scanArgument
  split
  · exact hrest _ _
  split
  · simpa using hrest _ 0
  · simpa [hc] using hrest _ 0

/-- The arguments of a text, separators in front of each skipped. -/
def splitArguments (text : List α) : List (List α) :=
  match _hdrop : text.dropWhile L.isSeparator with
  | [] => []
  | c :: rest =>
      (L.scanArgument .outside 0 (c :: rest)).1
        :: splitArguments (L.scanArgument .outside 0 (c :: rest)).2
termination_by text.length
decreasing_by
  have hhead : L.isSeparator c = false := by
    have hnot := List.head_dropWhile_not L.isSeparator (l := text) (by simp [_hdrop])
    simpa [_hdrop] using hnot
  have hle := (List.dropWhile_suffix L.isSeparator (l := text)).length_le
  rw [_hdrop] at hle
  exact Nat.lt_of_lt_of_le (L.scanArgument_length_lt hhead rest) hle

def splitCommandLine (text : List α) : List (List α) :=
  (L.programName false text).1 :: L.splitArguments (L.programName false text).2

/-! ### Reading one argument -/

variable {L} {a b rest : List α}

def Boundary (L : Lexicon α) (text : List α) : Prop := ∀ c ∈ text.head?, L.isSeparator c = true

theorem not_isSeparator_of_notMem (hspace : L.space ∉ a) (htab : L.tab ∉ a) :
    ∀ c ∈ a, L.isSeparator c = false := by
  intro c hc
  have hcspace : c ≠ L.space := by
    rintro rfl
    exact hspace hc
  have hctab : c ≠ L.tab := by
    rintro rfl
    exact htab hc
  simp [isSeparator, hcspace, hctab]

theorem isSeparator_space : L.isSeparator L.space = true := by simp [isSeparator]

theorem isSeparator_tab : L.isSeparator L.tab = true := by simp [isSeparator]

theorem isSeparator_backslash : L.isSeparator L.backslash = false := by
  simp [isSeparator, L.space_ne_backslash.symm, L.tab_ne_backslash.symm]

theorem isSeparator_quote : L.isSeparator L.quote = false := by simp [isSeparator]

theorem scanArgument_boundary (quoting : Quoting) (hquoting : quoting ≠ .inside)
    (hrest : L.Boundary rest) (backslashes : Nat) :
    L.scanArgument quoting backslashes rest = (List.replicate backslashes L.backslash, rest) := by
  cases rest with
  | nil => rfl
  | cons c rest =>
      have hc : L.isSeparator c = true := hrest c rfl
      have hbackslash : c ≠ L.backslash := by
        rintro rfl
        simp [isSeparator_backslash] at hc
      have hquote : c ≠ L.quote := by
        rintro rfl
        simp [isSeparator_quote] at hc
      rw [scanArgument, if_neg hbackslash, if_neg hquote, if_pos ⟨hquoting, hc⟩]

theorem scanArgument_plain (hquote : L.quote ∉ a) (hplain : ∀ c ∈ a, L.isSeparator c = false)
    (hrest : L.Boundary rest) (backslashes : Nat) :
    L.scanArgument .outside backslashes (a ++ rest)
      = (List.replicate backslashes L.backslash ++ a, rest) := by
  induction a generalizing backslashes with
  | nil => simpa using scanArgument_boundary .outside (by decide) hrest backslashes
  | cons c a ih =>
      obtain ⟨hc, ha⟩ := List.forall_mem_cons.mp hplain
      obtain ⟨hcquote, haquote⟩ := List.ne_and_not_mem_of_not_mem_cons hquote
      have hih := ih haquote ha
      rw [List.cons_append, scanArgument]
      by_cases hbackslash : c = L.backslash
      · rw [if_pos hbackslash, Quoting.next_outside, hih, List.replicate_succ', hbackslash]
        simp
      · rw [if_neg hbackslash, if_neg hcquote.symm, if_neg (by simp [hc]), Quoting.next_outside, hih]
        simp [emitting]

theorem scanArgument_inside (hquote : L.quote ∉ b) (hlast : b.getLast? ≠ some L.backslash)
    {backslashes : Nat} (hsome : backslashes = 0 ∨ b ≠ []) :
    L.scanArgument .inside backslashes (b ++ rest)
      = emitting (List.replicate backslashes L.backslash ++ b) (L.scanArgument .inside 0 rest) := by
  induction b generalizing backslashes with
  | nil =>
      obtain rfl | habsurd := hsome
      · rfl
      · exact absurd rfl habsurd
  | cons c b ih =>
      obtain ⟨hcquote, hbquote⟩ := List.ne_and_not_mem_of_not_mem_cons hquote
      rw [List.getLast?_cons] at hlast
      have hblast : b.getLast? ≠ some L.backslash := by
        intro heq
        exact hlast (by simp [heq])
      rw [List.cons_append, scanArgument]
      by_cases hbackslash : c = L.backslash
      · have hb : b ≠ [] := by
          rintro rfl
          exact hlast (by simp [hbackslash])
        rw [if_pos hbackslash, Quoting.next_inside, ih hbquote hblast (Or.inr hb), List.replicate_succ',
          hbackslash]
        simp
      · rw [if_neg hbackslash, if_neg hcquote.symm, if_neg (by simp), Quoting.next_inside,
          ih hbquote hblast (Or.inl rfl), emitting_emitting]
        simp

theorem scanArgument_replicate (backslashes k : Nat) :
    L.scanArgument .inside backslashes (List.replicate k L.backslash ++ rest)
      = L.scanArgument .inside (backslashes + k) rest := by
  induction k generalizing backslashes with
  | zero => rfl
  | succ k ih =>
      rw [List.replicate_succ, List.cons_append, scanArgument, if_pos rfl, Quoting.next_inside, ih]
      congr 1
      omega

theorem scanArgument_quote_outside :
    L.scanArgument .outside 0 (L.quote :: rest) = L.scanArgument .inside 0 rest := by
  rw [scanArgument, if_neg L.quote_ne_backslash, if_pos rfl, if_neg (by simp), if_neg (by simp),
    Quoting.toggle_outside]
  rfl

theorem scanArgument_quote_even {k : Nat} (hk : k % 2 = 0) (hrest : L.Boundary rest) :
    L.scanArgument .inside k (L.quote :: rest) = (List.replicate (k / 2) L.backslash, rest) := by
  rw [scanArgument, if_neg L.quote_ne_backslash, if_pos rfl, if_neg (by simp), if_neg (by omega),
    Quoting.toggle_inside, scanArgument_boundary _ (by decide) hrest]
  simp [emitting]

theorem scanArgument_quote_odd {k : Nat} (hk : k % 2 = 1) :
    L.scanArgument .inside k (L.quote :: rest)
      = emitting (List.replicate (k / 2) L.backslash ++ [L.quote])
          (L.scanArgument .inside 0 rest) := by
  rw [scanArgument, if_neg L.quote_ne_backslash, if_pos rfl, if_neg (by simp), if_pos hk]

/-! ### Splitting arguments off -/

@[simp]
theorem splitArguments_nil : L.splitArguments [] = [] := by
  unfold splitArguments
  simp

theorem splitArguments_separator {c : α} (hc : L.isSeparator c = true) :
    L.splitArguments (c :: rest) = L.splitArguments rest := by
  rw [splitArguments, splitArguments, List.dropWhile_cons_of_pos hc]

theorem splitArguments_separators (ha : ∀ c ∈ a, L.isSeparator c = true) :
    L.splitArguments (a ++ rest) = L.splitArguments rest := by
  induction a with
  | nil => rfl
  | cons c a ih =>
      obtain ⟨hc, ha'⟩ := List.forall_mem_cons.mp ha
      rw [List.cons_append, splitArguments_separator hc, ih ha']

theorem splitArguments_cons {c : α} (hc : L.isSeparator c = false) :
    L.splitArguments (c :: rest)
      = (L.scanArgument .outside 0 (c :: rest)).1
        :: L.splitArguments (L.scanArgument .outside 0 (c :: rest)).2 := by
  rw [splitArguments, List.dropWhile_cons_of_neg (by simp [hc])]

theorem exists_trailing_backslashes (L : Lexicon α) (a : List α) :
    ∃ b k, a = b ++ List.replicate k L.backslash ∧ b.getLast? ≠ some L.backslash := by
  induction a using List.reverseRecOn with
  | nil => exact ⟨[], 0, rfl, by simp⟩
  | append_singleton a c ih =>
      by_cases hc : c = L.backslash
      · obtain ⟨b, k, rfl, hb⟩ := ih
        refine ⟨b, k + 1, ?_, hb⟩
        rw [hc, List.replicate_succ', List.append_assoc]
      · refine ⟨a ++ [c], 0, by simp, ?_⟩
        simpa using hc

/-- A wrapped text is read up to its closing quote when the backslashes in front of that quote are
even in number, and past it, with the quote, when they are odd. -/
theorem splitArguments_wrapped (hquote : L.quote ∉ a) (hspace : L.space ∈ a)
    (hrest : L.Boundary rest) :
    ∃ b k, a = b ++ List.replicate k L.backslash ∧ b.getLast? ≠ some L.backslash ∧ L.space ∈ b ∧
      if k % 2 = 0 then
        L.splitArguments (L.quote :: a ++ L.quote :: rest)
          = (b ++ List.replicate (k / 2) L.backslash) :: L.splitArguments rest
      else
        ∃ read others, L.splitArguments (L.quote :: a ++ L.quote :: rest)
          = (b ++ List.replicate (k / 2) L.backslash ++ L.quote :: read) :: others := by
  obtain ⟨b, k, hab, hb⟩ := exists_trailing_backslashes L a
  have hspaceb : L.space ∈ b := by
    rw [hab, List.mem_append] at hspace
    apply hspace.resolve_right
    intro hmem
    exact L.space_ne_backslash (List.eq_of_mem_replicate hmem)
  have hquoteb : L.quote ∉ b := by
    intro hmem
    exact hquote (hab ▸ List.mem_append_left _ hmem)
  have hscan : L.scanArgument .outside 0 (L.quote :: a ++ L.quote :: rest)
      = emitting b (L.scanArgument .inside k (L.quote :: rest)) := by
    calc L.scanArgument .outside 0 (L.quote :: a ++ L.quote :: rest)
        = L.scanArgument .inside 0 (a ++ L.quote :: rest) := scanArgument_quote_outside
      _ = L.scanArgument .inside 0 (b ++ (List.replicate k L.backslash ++ L.quote :: rest)) := by
          rw [hab, List.append_assoc]
      _ = emitting b (L.scanArgument .inside 0 (List.replicate k L.backslash ++ L.quote :: rest)) :=
          scanArgument_inside hquoteb hb (Or.inl rfl)
      _ = emitting b (L.scanArgument .inside k (L.quote :: rest)) := by
          rw [scanArgument_replicate, Nat.zero_add]
  have hsplit : L.splitArguments (L.quote :: a ++ L.quote :: rest)
      = (b ++ (L.scanArgument .inside k (L.quote :: rest)).1)
        :: L.splitArguments (L.scanArgument .inside k (L.quote :: rest)).2 := by
    calc L.splitArguments (L.quote :: a ++ L.quote :: rest)
        = (L.scanArgument .outside 0 (L.quote :: a ++ L.quote :: rest)).1
            :: L.splitArguments (L.scanArgument .outside 0 (L.quote :: a ++ L.quote :: rest)).2 :=
          splitArguments_cons isSeparator_quote
      _ = (b ++ (L.scanArgument .inside k (L.quote :: rest)).1)
            :: L.splitArguments (L.scanArgument .inside k (L.quote :: rest)).2 := by
          rw [hscan, emitting_fst, emitting_snd]
  refine ⟨b, k, hab, hb, hspaceb, ?_⟩
  by_cases hk : k % 2 = 0
  · rw [if_pos hk, hsplit, scanArgument_quote_even hk hrest]
  · rw [if_neg hk, hsplit, scanArgument_quote_odd (by omega)]
    refine ⟨(L.scanArgument .inside 0 rest).1, _, congrArg₂ _ ?_ rfl⟩
    simp

/-- Unwrapped, a text that is not separators only is read from its first character that is no
separator up to the next separator. -/
theorem splitArguments_unwrapped (hquote : L.quote ∉ a) (hsome : ∃ c ∈ a, L.isSeparator c = false)
    (hrest : L.Boundary rest) :
    ∃ read others, L.splitArguments (a ++ rest) = read :: others ∧ read ≠ [] ∧
      ∀ c ∈ read, L.isSeparator c = false := by
  set front := a.takeWhile L.isSeparator with hfront
  set back := a.dropWhile L.isSeparator with hback
  have hsplit : a = front ++ back := (List.takeWhile_append_dropWhile).symm
  have hfrontSep : ∀ c ∈ front, L.isSeparator c = true := fun c hc => List.mem_takeWhile_imp hc
  obtain ⟨c, back', hcons⟩ : ∃ c back', back = c :: back' := by
    apply List.exists_cons_of_ne_nil
    intro hnil
    obtain ⟨c, hmem, hc⟩ := hsome
    rw [hsplit, hnil, List.append_nil] at hmem
    simp [hfrontSep c hmem] at hc
  have hc : L.isSeparator c = false := by
    have hnot := List.head_dropWhile_not L.isSeparator (l := a) (by rw [← hback, hcons]; simp)
    simpa [← hback, hcons] using hnot
  set read := back.takeWhile (fun d => !L.isSeparator d) with hread
  have hreadPlain : ∀ d ∈ read, L.isSeparator d = false := by
    intro d hd
    simpa using List.mem_takeWhile_imp hd
  have hreadQuote : L.quote ∉ read := by
    intro hmem
    exact hquote (hsplit ▸ List.mem_append_right _ ((List.takeWhile_sublist _).subset hmem))
  set others := back.dropWhile (fun d => !L.isSeparator d) with hothers
  have hboundary : L.Boundary (others ++ rest) := by
    intro d hd
    cases hcase : others with
    | nil =>
        rw [hcase, List.nil_append] at hd
        exact hrest d hd
    | cons e tail =>
        have hnot := List.head_dropWhile_not (fun d => !L.isSeparator d) (l := back)
          (by rw [← hothers, hcase]; simp)
        rw [hcase, List.cons_append, List.head?_cons, Option.mem_some_iff] at hd
        simpa [← hothers, hcase, hd] using hnot
  have hbackSplit : back ++ rest = read ++ (others ++ rest) := by
    rw [← List.append_assoc, hread, hothers, List.takeWhile_append_dropWhile]
  refine ⟨read, L.splitArguments (others ++ rest), ?_, ?_, hreadPlain⟩
  · have hscan : L.scanArgument .outside 0 (back ++ rest) = (read, others ++ rest) := by
      rw [hbackSplit, scanArgument_plain hreadQuote hreadPlain hboundary]
      rfl
    calc L.splitArguments (a ++ rest)
        = L.splitArguments (front ++ (back ++ rest)) := by rw [hsplit, List.append_assoc]
      _ = L.splitArguments (back ++ rest) := splitArguments_separators hfrontSep
      _ = (L.scanArgument .outside 0 (back ++ rest)).1
            :: L.splitArguments (L.scanArgument .outside 0 (back ++ rest)).2 := by
          rw [hcons, List.cons_append, splitArguments_cons hc]
      _ = read :: L.splitArguments (others ++ rest) := by rw [hscan]
  · rw [hread, hcons, List.takeWhile_cons_of_pos (by simp [hc])]
    exact List.cons_ne_nil _ _

/-! ### The renderer -/

variable (L) in
/-- Wrap a text in quotes when it holds a space. -/
def renderArgument (a : List α) : List α :=
  if L.space ∈ a then L.quote :: a ++ [L.quote] else a

variable (L) in
def renderArguments (args : List (List α)) : List α :=
  args.flatMap fun a => L.space :: L.renderArgument a

variable (L) in
def renderCommandLine (exe : List α) (args : List (List α)) : List α :=
  L.renderArgument exe ++ L.renderArguments args

variable (L) in
def NameRoundTrips (exe : List α) : Prop := L.tab ∈ exe → L.space ∈ exe

variable (L) in
/-- The arguments the renderer gets right. -/
def ArgumentRoundTrips (a : List α) : Prop :=
  a ≠ [] ∧ (L.tab ∈ a → L.space ∈ a) ∧ ¬ (L.space ∈ a ∧ a.getLast? = some L.backslash)

variable {args : List (List α)}

@[simp]
theorem renderArguments_nil : L.renderArguments [] = [] := rfl

@[simp]
theorem renderArguments_cons :
    L.renderArguments (a :: args) = L.space :: (L.renderArgument a ++ L.renderArguments args) := by
  simp [renderArguments]

theorem length_le_renderArgument (a : List α) : a.length ≤ (L.renderArgument a).length := by
  unfold renderArgument
  split
  · simp only [List.length_append, List.length_cons]
    omega
  · exact le_rfl

theorem length_le_renderArguments (hmem : a ∈ args) : a.length ≤ (L.renderArguments args).length := by
  induction args with
  | nil => cases hmem
  | cons b args ih =>
      rw [renderArguments_cons, List.length_cons, List.length_append]
      rcases List.mem_cons.mp hmem with rfl | hmem
      · have hfirst := L.length_le_renderArgument a
        omega
      · have hrest := ih hmem
        omega

theorem boundary_renderArguments : L.Boundary (L.renderArguments args) := by
  cases args with
  | nil => simp [Boundary]
  | cons a args =>
      intro c hc
      rw [renderArguments_cons, List.head?_cons, Option.mem_some_iff] at hc
      exact hc ▸ isSeparator_space

theorem splitArguments_of_roundTrips (hquote : L.quote ∉ a) (ha : L.ArgumentRoundTrips a)
    (hrest : L.Boundary rest) :
    L.splitArguments (L.renderArgument a ++ rest) = a :: L.splitArguments rest := by
  obtain ⟨hne, htab, hlast⟩ := ha
  unfold renderArgument
  split
  next hspace =>
    obtain ⟨b, k, hab, -, -, hread⟩ := splitArguments_wrapped hquote hspace hrest
    obtain rfl : k = 0 := by
      apply Nat.eq_zero_of_not_pos
      intro hk
      refine hlast ⟨hspace, ?_⟩
      rw [hab, List.getLast?_append, List.getLast?_replicate, if_neg (by omega)]
      rfl
    rw [if_pos rfl] at hread
    calc L.splitArguments (L.quote :: a ++ [L.quote] ++ rest)
        = L.splitArguments (L.quote :: a ++ L.quote :: rest) := by
          rw [List.append_assoc, List.singleton_append]
      _ = (b ++ List.replicate (0 / 2) L.backslash) :: L.splitArguments rest := hread
      _ = a :: L.splitArguments rest := by simp [hab]
  next hspace =>
    have hplain := not_isSeparator_of_notMem hspace (fun hmem => hspace (htab hmem))
    obtain ⟨c, a', rfl⟩ := List.exists_cons_of_ne_nil hne
    rw [List.cons_append, splitArguments_cons (hplain c List.mem_cons_self), ← List.cons_append,
      scanArgument_plain hquote hplain hrest]
    rfl

/-- The first argument read from a rendering holds a character that is no tab. So it is neither
empty nor a run of tabs, and cannot stand in for an argument that is. -/
theorem exists_ne_tab_of_head_splitArguments (hquote : ∀ a ∈ args, L.quote ∉ a) :
    ∀ read ∈ (L.splitArguments (L.renderArguments args)).head?, ∃ c ∈ read, c ≠ L.tab := by
  induction args with
  | nil => simp
  | cons a args ih =>
      obtain ⟨hqa, hqargs⟩ := List.forall_mem_cons.mp hquote
      have hrest : L.Boundary (L.renderArguments args) := boundary_renderArguments
      intro read hread
      rw [renderArguments_cons, splitArguments_separator isSeparator_space, renderArgument] at hread
      split at hread
      next hspace =>
        -- what a wrapped text is read as begins with its part up to the trailing backslashes
        rw [List.append_assoc, List.singleton_append] at hread
        obtain ⟨b, k, -, -, hspaceb, hsplit⟩ := splitArguments_wrapped hqa hspace hrest
        refine ⟨L.space, ?_, L.tab_ne_space.symm⟩
        split at hsplit
        · rw [hsplit, List.head?_cons, Option.mem_some_iff] at hread
          exact hread ▸ List.mem_append_left _ hspaceb
        · obtain ⟨read', others, hsplit⟩ := hsplit
          rw [hsplit, List.head?_cons, Option.mem_some_iff] at hread
          exact hread ▸ List.mem_append_left _ (List.mem_append_left _ hspaceb)
      next hspace =>
        by_cases hsome : ∃ c ∈ a, L.isSeparator c = false
        · obtain ⟨read', others, hsplit, hne, hplain⟩ :=
            splitArguments_unwrapped hqa hsome hrest
          rw [hsplit, List.head?_cons, Option.mem_some_iff] at hread
          obtain ⟨c, tail, hcons⟩ := List.exists_cons_of_ne_nil hne
          refine ⟨c, ?_, ?_⟩
          · rw [← hread, hcons]
            exact List.mem_cons_self
          · rintro rfl
            simpa [isSeparator_tab] using hplain L.tab (hcons ▸ List.mem_cons_self)
        · push Not at hsome
          rw [splitArguments_separators (by simpa using hsome)] at hread
          exact ih hqargs read hread

theorem head_splitArguments_ne (hquote : L.quote ∉ a) (hargs : ∀ b ∈ args, L.quote ∉ b)
    (ha : ¬ L.ArgumentRoundTrips a) :
    (L.splitArguments (L.renderArgument a ++ L.renderArguments args)).head? ≠ some a := by
  have hrest : L.Boundary (L.renderArguments args) := boundary_renderArguments
  unfold renderArgument
  split
  next hspace =>
    -- wrapped, so it ends in backslashes that the closing quote turns against it
    have hlast : a.getLast? = some L.backslash := by
      by_contra hlast
      exact ha ⟨List.ne_nil_of_mem hspace, fun _ => hspace, fun h => hlast h.2⟩
    rw [List.append_assoc, List.singleton_append]
    obtain ⟨b, k, hab, hb, -, hsplit⟩ := splitArguments_wrapped hquote hspace hrest
    have hk : k ≠ 0 := by
      rintro rfl
      simp only [List.replicate_zero, List.append_nil] at hab
      exact hb (hab ▸ hlast)
    split at hsplit
    next heven =>
      rw [hsplit, List.head?_cons]
      intro heq
      have hlength := congrArg List.length (Option.some.inj heq)
      rw [hab, List.length_append, List.length_append, List.length_replicate,
        List.length_replicate] at hlength
      omega
    next hodd =>
      obtain ⟨read, others, hsplit⟩ := hsplit
      rw [hsplit, List.head?_cons]
      intro heq
      refine hquote (Option.some.inj heq ▸ ?_)
      simp
  next hspace =>
    by_cases hsome : ∃ c ∈ a, L.isSeparator c = false
    · -- it holds a tab, which what is read up to the next separator does not
      obtain ⟨read, others, hsplit, -, hplain⟩ := splitArguments_unwrapped hquote hsome hrest
      have htab : L.tab ∈ a := by
        by_contra htab
        obtain ⟨c, hc, -⟩ := hsome
        exact ha ⟨List.ne_nil_of_mem hc, fun h => absurd h htab, fun h => hspace h.1⟩
      rw [hsplit, List.head?_cons]
      intro heq
      have hmem : L.tab ∈ read := Option.some.inj heq ▸ htab
      simpa [isSeparator_tab] using hplain L.tab hmem
    · -- it is a run of tabs, and what is read belongs to a later argument
      push Not at hsome
      rw [splitArguments_separators (by simpa using hsome)]
      intro heq
      obtain ⟨c, hc, hne⟩ := exists_ne_tab_of_head_splitArguments hargs a heq
      have hsep : L.isSeparator c = true := by simpa using hsome c hc
      simp only [isSeparator, hne, decide_false, Bool.or_false, decide_eq_true_eq] at hsep
      exact hspace (hsep ▸ hc)

/-- **Arguments come back exactly when each of them does.** -/
theorem splitArguments_renderArguments_iff (hquote : ∀ a ∈ args, L.quote ∉ a) :
    L.splitArguments (L.renderArguments args) = args ↔ ∀ a ∈ args, L.ArgumentRoundTrips a := by
  induction args with
  | nil => simp
  | cons a args ih =>
      obtain ⟨hqa, hqargs⟩ := List.forall_mem_cons.mp hquote
      rw [renderArguments_cons, splitArguments_separator isSeparator_space, List.forall_mem_cons]
      by_cases ha : L.ArgumentRoundTrips a
      · rw [splitArguments_of_roundTrips hqa ha boundary_renderArguments, List.cons.injEq, ih hqargs]
        simp [ha]
      · apply iff_of_false
        · intro heq
          exact head_splitArguments_ne hqa hqargs ha (by rw [heq, List.head?_cons])
        · intro h
          exact ha h.1

/-! ### The program name -/

theorem programName_inside (hquote : L.quote ∉ a) :
    L.programName true (a ++ L.quote :: rest)
      = (a ++ (L.programName false rest).1, (L.programName false rest).2) := by
  induction a with
  | nil => simp [programName]
  | cons c a ih =>
      obtain ⟨hc, ha⟩ := List.ne_and_not_mem_of_not_mem_cons hquote
      rw [List.cons_append, programName, if_neg hc.symm, ih ha]
      simp

theorem programName_boundary (hrest : L.Boundary rest) : L.programName false rest = ([], rest) := by
  cases rest with
  | nil => rfl
  | cons c rest =>
      have hc : L.isSeparator c = true := hrest c rfl
      have hquote : c ≠ L.quote := by
        rintro rfl
        simp [isSeparator_quote] at hc
      rw [programName, if_neg hquote, if_pos (by simp [hc])]

theorem programName_outside (hquote : L.quote ∉ a) (hrest : L.Boundary rest) :
    (L.programName false (a ++ rest)).1 = a.takeWhile (fun c => !L.isSeparator c) := by
  induction a with
  | nil => simp [programName_boundary hrest]
  | cons c a ih =>
      obtain ⟨hc, ha⟩ := List.ne_and_not_mem_of_not_mem_cons hquote
      rw [List.cons_append, programName, if_neg hc.symm]
      cases hsep : L.isSeparator c with
      | true => simp [hsep]
      | false => simp [hsep, ih ha]

theorem programName_plain (hquote : L.quote ∉ a) (hplain : ∀ c ∈ a, L.isSeparator c = false)
    (hrest : L.Boundary rest) : L.programName false (a ++ rest) = (a, rest) := by
  induction a with
  | nil => exact programName_boundary hrest
  | cons c a ih =>
      obtain ⟨hc, ha⟩ := List.forall_mem_cons.mp hplain
      obtain ⟨hcquote, haquote⟩ := List.ne_and_not_mem_of_not_mem_cons hquote
      rw [List.cons_append, programName, if_neg hcquote.symm, ih haquote ha]
      simp [hc]

theorem programName_of_roundTrips {exe : List α} (hquote : L.quote ∉ exe)
    (hexe : L.NameRoundTrips exe) (hrest : L.Boundary rest) :
    L.programName false (L.renderArgument exe ++ rest) = (exe, rest) := by
  unfold renderArgument
  split
  next hspace =>
    calc L.programName false (L.quote :: exe ++ [L.quote] ++ rest)
        = L.programName true (exe ++ L.quote :: rest) := by
          rw [List.append_assoc, List.singleton_append, List.cons_append, programName, if_pos rfl,
            Bool.not_false]
      _ = (exe ++ (L.programName false rest).1, (L.programName false rest).2) :=
          programName_inside hquote
      _ = (exe, rest) := by rw [programName_boundary hrest, List.append_nil]
  next hspace =>
    exact programName_plain hquote
      (not_isSeparator_of_notMem hspace fun htab => hspace (hexe htab)) hrest

theorem programName_ne {exe : List α} (hquote : L.quote ∉ exe) (hexe : ¬ L.NameRoundTrips exe)
    (hrest : L.Boundary rest) :
    (L.programName false (L.renderArgument exe ++ rest)).1 ≠ exe := by
  rw [NameRoundTrips, Classical.not_imp] at hexe
  rw [renderArgument, if_neg hexe.2, programName_outside hquote hrest]
  intro heq
  have hmem : L.tab ∈ exe.takeWhile fun c => !L.isSeparator c := heq.symm ▸ hexe.1
  simpa [isSeparator_tab] using List.mem_takeWhile_imp hmem

/-- **The exact round trip.** Splitting a rendered command line gives back the program name and the
arguments if and only if the name and every argument are ones the renderer gets right. -/
theorem splitCommandLine_renderCommandLine_iff (exe : List α) (args : List (List α)) (hexe : L.quote ∉ exe)
    (hargs : ∀ a ∈ args, L.quote ∉ a) :
    L.splitCommandLine (L.renderCommandLine exe args) = exe :: args
      ↔ L.NameRoundTrips exe ∧ ∀ a ∈ args, L.ArgumentRoundTrips a := by
  have hrest : L.Boundary (L.renderArguments args) := boundary_renderArguments
  rw [splitCommandLine, renderCommandLine, List.cons.injEq]
  by_cases hname : L.NameRoundTrips exe
  · rw [programName_of_roundTrips hexe hname hrest, splitArguments_renderArguments_iff hargs]
    simp [hname]
  · apply iff_of_false
    · intro h
      exact programName_ne hexe hname hrest h.1
    · intro h
      exact hname h.1

end Lexicon

end Generic
