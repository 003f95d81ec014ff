/-
# Modes in force at a point of a template

The modes start as the options say. A directive changes them for all that
follows, and the number of blocks open at the point is kept with them. Turning
escaping off has no effect where the options have turned it off already.
-/

import Stencil.Directive

namespace Stencil

/-- The cleaning mode, the escape policy and its function, and the block depth. -/
structure Modes where
  cleaning : Cleaning := .none
  policy : EscapePolicy := .auto
  escaper : Option String := none
  depth : Int := 0
  deriving DecidableEq

namespace Modes

/-- The modes at the start of a template. -/
def initial (options : Options) : Modes :=
  { cleaning := options.cleaning
    policy := if options.autoescape then .auto else .disabled }

/-- How an expression at this point is written. -/
def escaping (modes : Modes) : Escaping :=
  if modes.policy = .auto then .auto else .raw

/-- The function that escapes an expression at this point, if one is named. -/
def activeEscaper (modes : Modes) : Option String :=
  if modes.policy = .auto then modes.escaper else none

/-- The modes after a directive. -/
def apply (modes : Modes) : Directive → Modes
  | .clean mode => { modes with cleaning := mode }
  | .escape .auto escaper => { modes with policy := .auto, escaper }
  | .escape _ _ =>
    if modes.policy = .disabled then modes
    else { modes with policy := .raw, escaper := none }

/-- Apply a directive that is given by its name and arguments: its meaning, or why it has
none, and the modes after it. -/
def direct (modes : Modes) (name : String) (args : List String) :
    Except Directive.Fault Directive × Modes :=
  match Directive.interpret name args with
  | .error fault => (.error fault, modes)
  | .ok directive => (.ok directive, modes.apply directive)

/-- The modes after directives that are applied one after another, whether or not they have a
meaning. -/
def directAll (modes : Modes) (given : List (String × List String)) : Modes :=
  given.foldl (fun modes (name, args) => (modes.direct name args).2) modes

theorem direct_of_error {name : String} {args : List String} {fault : Directive.Fault}
    (meaningless : Directive.interpret name args = .error fault) (modes : Modes) :
    modes.direct name args = (.error fault, modes) := by
  rw [direct, meaningless]

theorem direct_of_ok {name : String} {args : List String} {directive : Directive}
    (meaning : Directive.interpret name args = .ok directive) (modes : Modes) :
    modes.direct name args = (.ok directive, modes.apply directive) := by
  rw [direct, meaning]

theorem directAll_concat (modes : Modes) (given : List (String × List String)) (name : String)
    (args : List String) :
    modes.directAll (given ++ [(name, args)]) = ((modes.directAll given).direct name args).2 := by
  rw [directAll, List.foldl_append]
  rfl

end Modes

end Stencil
