/-
# Runs of directives

Directives are applied one after another to the modes that a template starts with. A
directive without a meaning is passed over, and the run goes on. What the modes are after a
run is said here by looking back over the directives that had a meaning.

Expressions do not see all that is carried along. Escaping is off in two ways, by a directive
or by the options, and once a directive has turned it on, it is never again off by the options.
Turning it off where the options have done so leaves the modes as they are, the name of an
escape function included. A name could be left behind there. That none is follows from the run
as a whole, in which a name comes only with escaping turned on.
-/

import Stencil.Proofs.Scope

namespace Stencil

namespace Directive

variable {name : String} {args : List String} {given : List (String × List String)}

/-- The directives that have a meaning, in their order. -/
def accepted (given : List (String × List String)) : List (String × List String) :=
  given.filter fun (name, args) => (interpret name args).isOk

/-- An escape directive with these arguments turns escaping on. -/
def Enables (args : List String) : Prop :=
  ∃ function, interpret escapeName args = .ok (.escape .auto function)

/-- No directive among these turns escaping on. -/
def NeverEnabled (given : List (String × List String)) : Prop :=
  ∀ args, (escapeName, args) ∈ given → ¬ Enables args

theorem accepted_concat_of_error {fault : Fault}
    (meaningless : interpret name args = .error fault) :
    accepted (given ++ [(name, args)]) = accepted given := by
  simp [accepted, List.filter_append, meaningless, Except.isOk, Except.toBool]

theorem accepted_concat_of_ok {directive : Directive}
    (meaning : interpret name args = .ok directive) :
    accepted (given ++ [(name, args)]) = accepted given ++ [(name, args)] := by
  simp [accepted, List.filter_append, meaning, Except.isOk, Except.toBool]

theorem neverEnabled_concat (silent : name = escapeName → ¬ Enables args) :
    NeverEnabled (given ++ [(name, args)]) ↔ NeverEnabled given := by
  constructor
  · intro never args' present
    exact never args' (List.mem_append_left _ present)
  · intro never args' present
    rcases List.mem_append.mp present with earlier | last
    · exact never args' earlier
    · cases List.mem_singleton.mp last
      exact silent rfl

/-- An argument that gives a function name is that name after the key. -/
theorem eq_of_functionOf? {argument function : String}
    (found : functionOf? argument = some function) : argument = functionKey ++ function := by
  unfold functionOf? at found
  split at found
  · rename_i keyed
    obtain ⟨rest, same⟩ := List.isPrefixOf_iff_prefix.mp keyed
    rw [← same, List.drop_left] at found
    cases found
    rw [← String.toList_inj, String.toList_append, String.toList_ofList]
    exact same.symm
  · cases found

/-- A function that an escape directive sets is named in its one argument, and is a name. -/
theorem function_of_interpret {function : String}
    (meaning : interpret escapeName args = .ok (.escape .auto (some function))) :
    args = [functionKey ++ function] ∧
      ∀ piece ∈ Text.pieces '.' function.toList,
        Text.isIdentifier (String.ofList piece) = true := by
  have escapes : interpretEscape args = .ok (.escape .auto (some function)) := by
    cases escape : interpretEscape args with
    | error reason =>
        rw [interpret, if_neg (by decide), if_pos rfl, escape] at meaning
        cases meaning
    | ok directive =>
        rw [interpret, if_neg (by decide), if_pos rfl, escape] at meaning
        cases meaning
        rfl
  unfold interpretEscape at escapes
  split at escapes
  · split at escapes
    · rename_i name found
      split at escapes
      · cases escapes
      · split at escapes
        · rename_i isName
          cases escapes
          rw [eq_of_functionOf? found]
          exact ⟨rfl, List.all_eq_true.mp isName⟩
        · cases escapes
    · dsimp only at escapes
      split at escapes
      · cases escapes
      · split at escapes <;> cases escapes
  · cases escapes

end Directive

namespace Modes

open Directive (accepted NeverEnabled)

variable {options : Options} {given : List (String × List String)} {modes : Modes}

theorem policy_apply_raw (modes : Modes) (function : Option String) :
    (modes.apply (.escape .raw function)).policy = .disabled ↔ modes.policy = .disabled := by
  simp only [apply]
  split <;> simp_all

/-- What is kept along a run. -/
structure Stands (options : Options) (given : List (String × List String)) (modes : Modes) :
    Prop where
  obeys : Obey options (accepted given) modes
  depth_eq : modes.depth = 0
  disabled_iff : modes.policy = .disabled ↔ options.autoescape = false ∧ NeverEnabled given
  escaper_eq : modes.policy ≠ .auto → modes.escaper = none

theorem Stands.initial (options : Options) : Stands options [] (Modes.initial options) where
  obeys := Obey.initial options
  depth_eq := rfl
  disabled_iff := by
    simp [Modes.initial, NeverEnabled]
  escaper_eq _ := rfl

/-- A directive without a meaning is passed over. -/
theorem Stands.concat_of_error {name : String} {args : List String} {fault : Directive.Fault}
    (stands : Stands options given modes)
    (meaningless : Directive.interpret name args = .error fault) :
    Stands options (given ++ [(name, args)]) modes where
  obeys := by
    rw [Directive.accepted_concat_of_error meaningless]
    exact stands.obeys
  depth_eq := stands.depth_eq
  disabled_iff := by
    rw [Directive.neverEnabled_concat]
    · exact stands.disabled_iff
    · rintro rfl ⟨function, enables⟩
      cases meaningless.symm.trans enables
  escaper_eq := stands.escaper_eq

/-- A directive with a meaning is obeyed, and keeps all the rest. -/
theorem Stands.concat_of_ok {name : String} {args : List String} {directive : Directive}
    (stands : Stands options given modes)
    (meaning : Directive.interpret name args = .ok directive) :
    Stands options (given ++ [(name, args)]) (modes.apply directive) := by
  have obeys : Obey options (accepted (given ++ [(name, args)])) (modes.apply directive) := by
    rw [Directive.accepted_concat_of_ok meaning]
    exact stands.obeys.concat meaning
  have depth := (Modes.apply_depth modes directive).trans stands.depth_eq
  rcases Directive.cases_of_interpret meaning with
    ⟨rfl, mode, rfl⟩ | ⟨rfl, ⟨function, rfl⟩ | rfl⟩
  · refine ⟨obeys, depth, ?_, stands.escaper_eq⟩
    rw [Directive.neverEnabled_concat (fun same => absurd same (by decide))]
    exact stands.disabled_iff
  · refine ⟨obeys, depth, ?_, fun off => absurd rfl off⟩
    have enabled : ¬ NeverEnabled (given ++ [(Directive.escapeName, args)]) := by
      intro never
      exact never args (by simp) ⟨function, meaning⟩
    simp [apply, enabled]
  · refine ⟨obeys, depth, ?_, ?_⟩
    · rw [policy_apply_raw, Directive.neverEnabled_concat]
      · exact stands.disabled_iff
      · rintro - ⟨function, enables⟩
        cases meaning.symm.trans enables
    · intro _
      simp only [apply]
      split
      · rename_i disabled
        -- The modes are left as they are, so no function may have been there before.
        exact stands.escaper_eq (by simp [disabled])
      · rfl

theorem Stands.direct (stands : Stands options given modes) (name : String) (args : List String) :
    Stands options (given ++ [(name, args)]) (modes.direct name args).2 := by
  cases meaning : Directive.interpret name args with
  | error fault =>
      rw [direct_of_error meaning]
      exact stands.concat_of_error meaning
  | ok directive =>
      rw [direct_of_ok meaning]
      exact stands.concat_of_ok meaning

/-- A whole run keeps what each directive keeps. -/
theorem stands_directAll (options : Options) (given : List (String × List String)) :
    Stands options given ((Modes.initial options).directAll given) := by
  induction given using List.reverseRecOn with
  | nil => exact Stands.initial options
  | append_singleton given last ih =>
      rw [directAll_concat]
      exact ih.direct last.1 last.2

/-- While a function is named, it is by the last escape directive that had a meaning. -/
theorem Stands.function_of_escaper (stands : Stands options given modes) {function : String}
    (named : modes.escaper = some function) :
    lastArguments Directive.escapeName (accepted given) = some [Directive.functionKey ++ function] ∧
      ∀ piece ∈ Text.pieces '.' function.toList,
        Text.isIdentifier (String.ofList piece) = true := by
  have escaped : modes.policy = .auto := by
    by_contra off
    rw [stands.escaper_eq off] at named
    cases named
  have writes : modes.writing = (.auto, some function) := by
    simp [writing, escaping, activeEscaper, escaped, named]
  have asked := stands.obeys.writing_eq
  rw [writes, Directive.writingAfter] at asked
  split at asked
  · rename_i args last
    rw [Directive.writing?] at asked
    split at asked
    · rename_i meaning
      cases asked
      obtain ⟨rfl, isName⟩ := Directive.function_of_interpret meaning
      exact ⟨last, isName⟩
    · cases asked
    · cases asked
  · -- Without any escape directive no function is named.
    cases (Prod.ext_iff.mp (Option.some.inj asked)).2

theorem cleaning_direct_escape (modes : Modes) (args : List String) :
    (modes.direct Directive.escapeName args).2.cleaning = modes.cleaning := by
  cases meaning : Directive.interpret Directive.escapeName args with
  | error fault => rw [direct_of_error meaning]
  | ok directive =>
      rw [direct_of_ok meaning]
      rcases Directive.cases_of_interpret meaning with
        ⟨same, -⟩ | ⟨-, ⟨function, rfl⟩ | rfl⟩
      · exact absurd same (by decide)
      · exact cleaning_apply_escape modes .auto function
      · exact cleaning_apply_escape modes .raw none

theorem escape_direct_clean (modes : Modes) (args : List String) :
    (modes.direct Directive.cleanName args).2.policy = modes.policy ∧
      (modes.direct Directive.cleanName args).2.escaper = modes.escaper := by
  cases meaning : Directive.interpret Directive.cleanName args with
  | error fault =>
      rw [direct_of_error meaning]
      exact ⟨rfl, rfl⟩
  | ok directive =>
      rw [direct_of_ok meaning]
      rcases Directive.cases_of_interpret meaning with ⟨-, mode, rfl⟩ | ⟨same, -⟩
      · exact ⟨rfl, rfl⟩
      · exact absurd same (by decide)

end Modes

/-- What the modes are after any run of directives, whether or not each of them has a meaning.
A directive without one changes nothing, and none changes the depth. Cleaning and escaping are
each as the last directive of their kind says that had a meaning, or as the options say, and
neither kind touches the other. Escaping is off by the options exactly as long as they turn it
off and no directive has turned it on. A function is named only while escaping is on, and it is
the one of the last escape directive. -/
theorem modes_after_directives (options : Options) (given : List (String × List String)) :
    let modes := (Modes.initial options).directAll given
    (∀ name args fault, (modes.direct name args).1 = .error fault →
      (modes.direct name args).2 = modes) ∧
    modes.depth = (Modes.initial options).depth ∧
    Directive.cleaningAfter options (Directive.accepted given) = some modes.cleaning ∧
    Directive.writingAfter options (Directive.accepted given) = some modes.writing ∧
    (∀ args, (modes.direct Directive.escapeName args).2.cleaning = modes.cleaning) ∧
    (∀ args, (modes.direct Directive.cleanName args).2.policy = modes.policy ∧
      (modes.direct Directive.cleanName args).2.escaper = modes.escaper) ∧
    (modes.policy = .disabled ↔
      options.autoescape = false ∧ Directive.NeverEnabled given) ∧
    (modes.policy ≠ .auto → modes.escaper = none) ∧
    ∀ function, modes.escaper = some function →
      lastArguments Directive.escapeName (Directive.accepted given) =
        some [Directive.functionKey ++ function] ∧
      ∀ piece ∈ Text.pieces '.' function.toList,
        Text.isIdentifier (String.ofList piece) = true := by
  intro modes
  have stands := Modes.stands_directAll options given
  refine ⟨?_, stands.depth_eq, stands.obeys.cleaning_eq, stands.obeys.writing_eq,
    modes.cleaning_direct_escape, modes.escape_direct_clean, stands.disabled_iff,
    stands.escaper_eq, fun function => stands.function_of_escaper⟩
  intro name args fault fails
  cases meaning : Directive.interpret name args with
  | error _ => rw [Modes.direct_of_error meaning]
  | ok directive =>
      rw [Modes.direct_of_ok meaning] at fails
      cases fails

/-- Escaping that the options have turned off is turned off once more, then on with a function;
two directives without a meaning follow. -/
theorem modes_after_directives_mixed :
    let options : Options := { autoescape := false }
    let given := [("escape", ["off"]), ("escape", ["function=a.b"]), ("cleanws", []),
      ("escape", ["function=1"]), ("cleanws", ["on", "off"])]
    let modes := (Modes.initial options).directAll given
    modes = ⟨.block, .auto, some "a.b", 0⟩ ∧
    lastArguments "escape" (Directive.accepted given) = some ["function=a.b"] ∧
    ¬ Directive.NeverEnabled given ∧
    (Modes.initial options).directAll (given.take 1) = ⟨.none, .disabled, none, 0⟩ ∧
    Directive.NeverEnabled (given.take 1) := by
  intro options given modes
  have run : modes = ⟨.block, .auto, some "a.b", 0⟩ := by decide +kernel
  have start : (Modes.initial options).directAll (given.take 1) = ⟨.none, .disabled, none, 0⟩ := by
    decide +kernel
  obtain ⟨-, -, -, -, -, -, disabled, -, function⟩ := modes_after_directives options given
  obtain ⟨-, -, -, -, -, -, disabled', -, -⟩ := modes_after_directives options (given.take 1)
  refine ⟨run, (function "a.b" ?_).1, ?_, start, (disabled'.mp ?_).2⟩
  · exact congrArg Modes.escaper run
  · intro never
    have off := disabled.mpr ⟨rfl, never⟩
    rw [show (Modes.initial options).directAll given = _ from run] at off
    cases off
  · rw [start]

end Stencil
