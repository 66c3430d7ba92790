import PmiExitModule.Setup.Arguments

/-!
# The command line of the setup tool

The usage text documents `[/i] [path]` and `/u`. The parser reads them as documented except that an
argument in front that is no option is passed over without being taken for the path.
-/

namespace PmiExitModule.CArguments

/-- The arguments the usage text allows after the program name, with the operation and the path they
ask for. -/
inductive Documented : List WStr → Operation → WStr → Prop where
  | nothing : Documented [] .INSTALL wszEmpty
  | path (path : WStr) (h : ¬ startsWithSlash path) : Documented [path] .INSTALL path
  | install : Documented [wszInstallOption] .INSTALL wszEmpty
  | installPath (path : WStr) : Documented [wszInstallOption, path] .INSTALL path
  | uninstall : Documented [wszUninstallOption] .UINSTALL wszEmpty

/-- The command line is accepted exactly when it is documented, and then it means what the usage text
gives for it. -/
def ParsesAsDocumented (program : WStr) (arguments : List WStr) : Prop :=
  let (accepted, args) := tryParse {} (program :: arguments)
  (accepted = true ↔ ∃ operation path, Documented arguments operation path) ∧
    ∀ operation path, Documented arguments operation path →
      args.eOperation = operation ∧ args.strPath = path

/-- The argument in front is no option, and it is either the only argument and a path, or followed by
one more. -/
def PassesOverFirst : List WStr → Prop
  | [first] => ¬ startsWithSlash first ∧ first ≠ wszEmpty
  | [first, _] => ¬ startsWithSlash first
  | _ => False

theorem startsWithSlash_install : startsWithSlash wszInstallOption := rfl

theorem startsWithSlash_uninstall : startsWithSlash wszUninstallOption := rfl

theorem uninstall_ne_install : wszUninstallOption ≠ wszInstallOption := by decide

section TryParse

variable (program first : WStr) (rest : List WStr)

theorem tryParse_nothing : tryParse {} [program] = (true, {}) := rfl

theorem tryParse_install :
    tryParse {} (program :: wszInstallOption :: rest)
      = readPath {} (program :: wszInstallOption :: rest) 2 := by
  simp [tryParse, readOption, startsWithSlash_install]

theorem tryParse_uninstall :
    tryParse {} (program :: wszUninstallOption :: rest)
      = readPath { eOperation := .UINSTALL } (program :: wszUninstallOption :: rest) 2 := by
  simp [tryParse, readOption, startsWithSlash_uninstall, uninstall_ne_install]

theorem tryParse_unknown (hslash : startsWithSlash first) (hinstall : first ≠ wszInstallOption)
    (huninstall : first ≠ wszUninstallOption) :
    tryParse {} (program :: first :: rest) = (false, {}) := by
  simp [tryParse, readOption, hslash, hinstall, huninstall]

theorem tryParse_passedOver (hslash : ¬ startsWithSlash first) :
    tryParse {} (program :: first :: rest) = readPath {} (program :: first :: rest) 2 := by
  simp [tryParse, readOption, hslash]

theorem readPath_two (args : CArguments) :
    readPath args (program :: first :: rest) 2
      = match rest with
        | [] => (true, args)
        | path :: extra =>
            (decide (args.eOperation = .INSTALL ∧ extra = []), { args with strPath := path }) := by
  cases rest with
  | nil => rfl
  | cons path extra =>
      have hcursor : 2 + 1 = (program :: first :: path :: extra).length ↔ extra = [] := by
        rw [← List.length_eq_zero_iff]
        simp only [List.length_cons]
        omega
      have hpath : (program :: first :: path :: extra)[2]? = some path := rfl
      by_cases hoperation : args.eOperation = .INSTALL
      · simp only [readPath, hpath, hoperation, ne_eq, not_true, if_false, hcursor, true_and]
      · simp only [readPath, hpath, hoperation, ne_eq, not_false_eq_true, if_true, false_and,
          decide_false]

end TryParse

theorem documented_singleton_iff {first : WStr} {operation : Operation} {path : WStr}
    (hslash : ¬ startsWithSlash first) :
    Documented [first] operation path ↔ operation = .INSTALL ∧ path = first := by
  constructor
  · intro h
    cases h with
    | path => exact ⟨rfl, rfl⟩
    | install => exact absurd startsWithSlash_install hslash
    | uninstall => exact absurd startsWithSlash_uninstall hslash
  · rintro ⟨rfl, rfl⟩
    exact .path _ hslash

theorem not_documented_of_unknown {first : WStr} {rest : List WStr}
    (hslash : startsWithSlash first) (hinstall : first ≠ wszInstallOption)
    (huninstall : first ≠ wszUninstallOption) (operation : Operation) (path : WStr) :
    ¬ Documented (first :: rest) operation path := by
  intro h
  cases h with
  | path _ hpath => exact hpath hslash
  | install => exact hinstall rfl
  | installPath => exact hinstall rfl
  | uninstall => exact huninstall rfl

theorem not_documented_two {first second : WStr} {rest : List WStr}
    (h : first ≠ wszInstallOption ∨ rest ≠ []) (operation : Operation) (path : WStr) :
    ¬ Documented (first :: second :: rest) operation path := by
  intro hdocumented
  cases hdocumented with
  | installPath =>
      rcases h with h | h
      · exact h rfl
      · exact h rfl

theorem Documented.unique {arguments : List WStr} {operation operation' : Operation}
    {path path' : WStr} (h : Documented arguments operation path)
    (h' : Documented arguments operation' path') : operation' = operation ∧ path' = path := by
  cases h with
  | nothing =>
      cases h'
      exact ⟨rfl, rfl⟩
  | path _ hslash => exact (documented_singleton_iff hslash).mp h'
  | install =>
      cases h' with
      | path _ hslash => exact absurd startsWithSlash_install hslash
      | install => exact ⟨rfl, rfl⟩
  | installPath =>
      cases h'
      exact ⟨rfl, rfl⟩
  | uninstall =>
      cases h' with
      | path _ hslash => exact absurd startsWithSlash_uninstall hslash
      | uninstall => exact ⟨rfl, rfl⟩

section ParsesAsDocumented

variable {program : WStr} {arguments : List WStr} {args : CArguments}

theorem parsesAsDocumented_of_accepted
    (hparse : tryParse {} (program :: arguments) = (true, args))
    (hdocumented : Documented arguments args.eOperation args.strPath) :
    ParsesAsDocumented program arguments := by
  rw [ParsesAsDocumented, hparse]
  refine ⟨iff_of_true rfl ⟨_, _, hdocumented⟩, ?_⟩
  intro operation path h
  exact h.unique hdocumented

theorem parsesAsDocumented_of_rejected
    (hparse : tryParse {} (program :: arguments) = (false, args))
    (hdocumented : ∀ operation path, ¬ Documented arguments operation path) :
    ParsesAsDocumented program arguments := by
  rw [ParsesAsDocumented, hparse]
  constructor
  · apply iff_of_false Bool.false_ne_true
    rintro ⟨operation, path, h⟩
    exact hdocumented operation path h
  · intro operation path h
    exact absurd h (hdocumented operation path)

end ParsesAsDocumented

theorem parsesAsDocumented_install (program : WStr) (rest : List WStr) :
    ParsesAsDocumented program (wszInstallOption :: rest) := by
  have hparse := tryParse_install program rest
  rw [readPath_two] at hparse
  match rest with
  | [] => exact parsesAsDocumented_of_accepted hparse .install
  | [path] => exact parsesAsDocumented_of_accepted hparse (.installPath path)
  | _ :: _ :: _ =>
      apply parsesAsDocumented_of_rejected hparse
      exact not_documented_two (Or.inr (List.cons_ne_nil _ _))

theorem parsesAsDocumented_uninstall (program : WStr) (rest : List WStr) :
    ParsesAsDocumented program (wszUninstallOption :: rest) := by
  have hparse := tryParse_uninstall program rest
  rw [readPath_two] at hparse
  match rest with
  | [] => exact parsesAsDocumented_of_accepted hparse .uninstall
  | _ :: _ =>
      apply parsesAsDocumented_of_rejected hparse
      exact not_documented_two (Or.inl uninstall_ne_install)

theorem ne_option_of_not_startsWithSlash {first : WStr} (hslash : ¬ startsWithSlash first) :
    first ≠ wszInstallOption := by
  rintro rfl
  exact hslash startsWithSlash_install

/-- Without an option the parser goes wrong exactly when it passes over the path. -/
theorem parsesAsDocumented_passedOver_iff (program : WStr) {first : WStr} (rest : List WStr)
    (hslash : ¬ startsWithSlash first) :
    ParsesAsDocumented program (first :: rest) ↔ ¬ PassesOverFirst (first :: rest) := by
  have hinstall := ne_option_of_not_startsWithSlash hslash
  have hparse := tryParse_passedOver program first rest hslash
  rw [readPath_two] at hparse
  match rest with
  | [] =>
      by_cases hempty : first = wszEmpty
      · subst hempty
        refine iff_of_true (parsesAsDocumented_of_accepted hparse (.path _ hslash)) ?_
        intro h
        exact h.2 rfl
      · refine iff_of_false ?_ (not_not.mpr ⟨hslash, hempty⟩)
        rw [ParsesAsDocumented, hparse]
        intro h
        have hpath := h.2 .INSTALL first (.path first hslash)
        exact hempty hpath.2.symm
  | [path] =>
      refine iff_of_false ?_ (not_not.mpr hslash)
      rw [ParsesAsDocumented, hparse]
      intro h
      obtain ⟨operation, path', hdocumented⟩ := h.1.mp rfl
      exact not_documented_two (Or.inl hinstall) operation path' hdocumented
  | _ :: _ :: _ =>
      refine iff_of_true ?_ not_false
      apply parsesAsDocumented_of_rejected hparse
      exact not_documented_two (Or.inl hinstall)

/-- **The parser reads the documented command lines, and no others**, except where it passes over a
path that no option precedes. -/
theorem parsesAsDocumented_iff (program : WStr) (arguments : List WStr) :
    ParsesAsDocumented program arguments ↔ ¬ PassesOverFirst arguments := by
  match arguments with
  | [] => exact iff_of_true (parsesAsDocumented_of_accepted (tryParse_nothing program) .nothing) not_false
  | first :: rest =>
      by_cases hslash : startsWithSlash first
      · have hspared : ¬ PassesOverFirst (first :: rest) := by
          match rest with
          | [] =>
              intro h
              exact h.1 hslash
          | [_] =>
              intro h
              exact h hslash
          | _ :: _ :: _ => exact not_false
        refine iff_of_true ?_ hspared
        by_cases hinstall : first = wszInstallOption
        · rw [hinstall]
          exact parsesAsDocumented_install program rest
        · by_cases huninstall : first = wszUninstallOption
          · rw [huninstall]
            exact parsesAsDocumented_uninstall program rest
          · apply parsesAsDocumented_of_rejected
              (tryParse_unknown program first rest hslash hinstall huninstall)
            exact not_documented_of_unknown hslash hinstall huninstall
      · exact parsesAsDocumented_passedOver_iff program rest hslash

/-- `setup.exe a.dll` is accepted with no path, and `setup.exe a.dll b.dll`, which no usage line
allows, with the second one. -/
theorem tryParse_passes_over_path :
    ¬ ParsesAsDocumented (.ofLiteral "setup.exe") [.ofLiteral "a.dll"] ∧
      tryParse {} [.ofLiteral "setup.exe", .ofLiteral "a.dll"] = (true, {}) ∧
      tryParse {} [.ofLiteral "setup.exe", .ofLiteral "a.dll", .ofLiteral "b.dll"]
        = (true, { strPath := .ofLiteral "b.dll" }) := by
  refine ⟨?_, by decide, by decide⟩
  intro h
  have hpath := h.2 .INSTALL (.ofLiteral "a.dll") (.path _ (by decide))
  exact absurd hpath.2 (by decide)

end PmiExitModule.CArguments
