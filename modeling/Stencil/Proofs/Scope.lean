/-
# The scope of a directive

A directive holds from where it stands to the next one of its name. The parser does not
look back for it: it carries modes along and changes them as it goes. Here the modes of a
node are found by looking back, among the directives alone, and the modes that are carried
along are shown to come to the same.

What is carried is more than what is seen. Escaping is off in two ways, by a directive or
by the options, and turning it off once more keeps the way it is off. Blocks count their
depth in the same record. Expressions see only whether they are escaped and by what
function, and that is always a matter of the last directive.
-/

import Stencil.Proofs.Formation

namespace Stencil

/-- The name and the arguments of a node that is a directive. -/
def Node.directive? : Node → Option (String × List String)
  | .directive _ name args _ => some (name, args)
  | .literal _ _ | .expression _ _ _ _ | .block _ | .placeholder _ => none

/-- The directives among nodes, in their order. -/
def directives (nodes : List Node) : List (String × List String) :=
  nodes.filterMap Node.directive?

/-- The arguments of the last directive of a name. -/
def lastArguments (name : String) (given : List (String × List String)) :
    Option (List String) :=
  (given.filter (·.1 = name)).getLast?.map Prod.snd

namespace Directive

/-- How expressions are written after an escape directive with these arguments: escaped,
by the function that they name if they name one, or as they are. -/
def writing? (args : List String) : Option (Escaping × Option String) :=
  match interpret escapeName args with
  | .ok (.escape .auto function) => some (.auto, function)
  | .ok (.escape .raw _) => some (.raw, none)
  | _ => none

/-- The mode that a cleaning directive with these arguments sets. -/
def mode? (args : List String) : Option Cleaning :=
  match interpret cleanName args with
  | .ok (.clean mode) => some mode
  | _ => none

/-- How expressions are written after the given directives: as the last one for escaping
says, or as the options do where there is none. -/
def writingAfter (options : Options) (given : List (String × List String)) :
    Option (Escaping × Option String) :=
  match lastArguments escapeName given with
  | some args => writing? args
  | none => some (if options.autoescape then .auto else .raw, none)

/-- The cleaning mode after the given directives. -/
def cleaningAfter (options : Options) (given : List (String × List String)) :
    Option Cleaning :=
  match lastArguments cleanName given with
  | some args => mode? args
  | none => some options.cleaning

end Directive

section LastArguments

variable {name other : String} {args : List String} {given : List (String × List String)}

theorem lastArguments_concat_self :
    lastArguments name (given ++ [(name, args)]) = some args := by
  simp [lastArguments, List.filter_append]

theorem lastArguments_concat_of_ne (differs : other ≠ name) :
    lastArguments name (given ++ [(other, args)]) = lastArguments name given := by
  simp [lastArguments, List.filter_append, differs]

end LastArguments

theorem directives_concat (nodes : List Node) (node : Node) :
    directives (nodes ++ [node]) = directives nodes ++ node.directive?.toList := by
  rw [directives, List.filterMap_append]
  cases is : node.directive? <;> simp [directives, is]

namespace Directive

variable {name : String} {args : List String} {directive : Directive}

theorem exists_mode_of_interpretClean (meaning : interpretClean args = .ok directive) :
    ∃ mode, directive = .clean mode := by
  unfold interpretClean at meaning
  split at meaning
  · exact ⟨_, (Except.ok.inj meaning).symm⟩
  · dsimp only at meaning
    split at meaning
    · exact ⟨_, (Except.ok.inj meaning).symm⟩
    · split at meaning
      · exact ⟨_, (Except.ok.inj meaning).symm⟩
      · cases meaning
  · cases meaning

/-- An escape directive turns escaping on, with or without a function, or off. -/
theorem auto_or_raw_of_interpretEscape (meaning : interpretEscape args = .ok directive) :
    (∃ function, directive = .escape .auto function) ∨ directive = .escape .raw none := by
  unfold interpretEscape at meaning
  split at meaning
  · split at meaning
    · split at meaning
      · exact .inr (Except.ok.inj meaning).symm
      · split at meaning
        · exact .inl ⟨_, (Except.ok.inj meaning).symm⟩
        · cases meaning
    · dsimp only at meaning
      split at meaning
      · exact .inl ⟨_, (Except.ok.inj meaning).symm⟩
      · split at meaning
        · exact .inr (Except.ok.inj meaning).symm
        · cases meaning
  · cases meaning

/-- What a directive asks for is settled by its name, up to the arguments. -/
theorem cases_of_interpret (meaning : interpret name args = .ok directive) :
    (name = cleanName ∧ ∃ mode, directive = .clean mode) ∨
      name = escapeName ∧
        ((∃ function, directive = .escape .auto function) ∨ directive = .escape .raw none) := by
  unfold interpret at meaning
  split at meaning
  · rename_i isClean
    cases clean : interpretClean args with
    | error reason =>
        rw [clean] at meaning
        cases meaning
    | ok found =>
        rw [clean] at meaning
        cases meaning
        exact .inl ⟨isClean, exists_mode_of_interpretClean clean⟩
  · split at meaning
    · rename_i isEscape
      cases escape : interpretEscape args with
      | error reason =>
          rw [escape] at meaning
          cases meaning
      | ok found =>
          rw [escape] at meaning
          cases meaning
          exact .inr ⟨isEscape, auto_or_raw_of_interpretEscape escape⟩
    · cases meaning

variable {options : Options} {given : List (String × List String)}

/-- A directive of the other name leaves the way expressions are written. -/
theorem writingAfter_concat_clean :
    writingAfter options (given ++ [(cleanName, args)]) = writingAfter options given := by
  simp only [writingAfter, lastArguments_concat_of_ne (show cleanName ≠ escapeName by decide)]

theorem writingAfter_concat_escape :
    writingAfter options (given ++ [(escapeName, args)]) = writing? args := by
  simp only [writingAfter, lastArguments_concat_self]

theorem cleaningAfter_concat_clean :
    cleaningAfter options (given ++ [(cleanName, args)]) = mode? args := by
  simp only [cleaningAfter, lastArguments_concat_self]

theorem cleaningAfter_concat_escape :
    cleaningAfter options (given ++ [(escapeName, args)]) = cleaningAfter options given := by
  simp only [cleaningAfter, lastArguments_concat_of_ne (show escapeName ≠ cleanName by decide)]

end Directive

namespace Modes

/-- How an expression is written in these modes. -/
def writing (modes : Modes) : Escaping × Option String :=
  (modes.escaping, modes.activeEscaper)

theorem writing_initial (options : Options) :
    (initial options).writing = (if options.autoescape then .auto else .raw, none) := by
  cases autoescape : options.autoescape <;>
    simp [writing, initial, escaping, activeEscaper, autoescape]

theorem writing_apply_clean (modes : Modes) (mode : Cleaning) :
    (modes.apply (.clean mode)).writing = modes.writing := rfl

theorem writing_apply_auto (modes : Modes) (function : Option String) :
    (modes.apply (.escape .auto function)).writing = (.auto, function) := rfl

/-- Whichever way escaping is off, expressions are written as they are. -/
theorem writing_apply_off (modes : Modes) {policy : EscapePolicy} (off : policy ≠ .auto)
    (function : Option String) :
    (modes.apply (.escape policy function)).writing = (.raw, none) := by
  cases policy with
  | auto => exact absurd rfl off
  | raw | disabled =>
      simp only [apply]
      split
      · rename_i disabled
        simp [writing, escaping, activeEscaper, disabled]
      · rfl

theorem cleaning_apply_escape (modes : Modes) (policy : EscapePolicy) (function : Option String) :
    (modes.apply (.escape policy function)).cleaning = modes.cleaning := by
  cases policy with
  | auto => rfl
  | raw | disabled =>
      simp only [apply]
      split <;> rfl

/-- Modes show what the given directives ask for. -/
structure Obey (options : Options) (given : List (String × List String)) (modes : Modes) :
    Prop where
  writing_eq : Directive.writingAfter options given = some modes.writing
  cleaning_eq : Directive.cleaningAfter options given = some modes.cleaning

theorem Obey.initial (options : Options) :
    Obey options (directives []) (Modes.initial options) where
  writing_eq := by
    rw [writing_initial]
    rfl
  cleaning_eq := rfl

/-- One more directive with a meaning is obeyed too. -/
theorem Obey.concat {options : Options} {given : List (String × List String)} {modes : Modes}
    {name : String} {args : List String} {directive : Directive}
    (obey : Obey options given modes) (meaning : Directive.interpret name args = .ok directive) :
    Obey options (given ++ [(name, args)]) (modes.apply directive) := by
  rcases Directive.cases_of_interpret meaning with
    ⟨rfl, mode, rfl⟩ | ⟨rfl, ⟨function, rfl⟩ | rfl⟩
  · constructor
    · rw [Directive.writingAfter_concat_clean, writing_apply_clean]
      exact obey.writing_eq
    · rw [Directive.cleaningAfter_concat_clean, Directive.mode?, meaning]
      rfl
  · constructor
    · rw [Directive.writingAfter_concat_escape, Directive.writing?, meaning, writing_apply_auto]
    · rw [Directive.cleaningAfter_concat_escape, cleaning_apply_escape]
      exact obey.cleaning_eq
  · constructor
    · rw [Directive.writingAfter_concat_escape, Directive.writing?, meaning,
        writing_apply_off modes (by simp)]
    · rw [Directive.cleaningAfter_concat_escape, cleaning_apply_escape]
      exact obey.cleaning_eq

end Modes

namespace Node

/-- A node shows the modes it was placed in: how it is written if it is an expression, and
the cleaning mode after it if it is a block or a directive. -/
def Shows (before after : Modes) : Node → Prop
  | .expression _ _ escaping escaper => (escaping, escaper) = before.writing
  | .block placed => placed.cleaning = after.cleaning
  | .directive _ _ _ cleaning => cleaning = after.cleaning
  | .literal _ _ => True
  | .placeholder _ => False

end Node

namespace Context

variable {options : Options} {style : BlockStyle} {context next : Context} {segment : Segment}
  {nodes : List Node} {node : Node}

/-- Blocks change nothing of the modes but the depth. -/
theorem Shaped.modes_eq {span : Span} {code : String} {shape : Shape} {block : Block}
    (shaped : Shaped context span code shape (.ok (block, next))) :
    block.cleaning = next.modes.cleaning ∧
      next.modes = { context.modes with depth := next.modes.depth } := by
  cases shaped with
  | opens _ | closes _ _ _ => exact ⟨rfl, rfl⟩
  | continues _ _ | statement _ => exact ⟨rfl, rfl⟩

/-- Placing a segment keeps the modes in step with the directives, and the node shows
them. -/
theorem obey_of_place (obey : Modes.Obey options (directives nodes) context.modes)
    (placed : context.place style segment = .ok (node, next)) :
    Modes.Obey options (directives (nodes ++ [node])) next.modes ∧
      node.Shows context.modes next.modes := by
  rw [directives_concat]
  cases segment with
  | text span value =>
      cases placed
      rw [Node.directive?, Option.toList_none, List.append_nil]
      exact ⟨obey, trivial⟩
  | expression span code =>
      cases placed
      rw [Node.directive?, Option.toList_none, List.append_nil]
      exact ⟨obey, rfl⟩
  | block span code =>
      obtain ⟨block, rfl, shaped⟩ := shaped_of_place_eq_ok placed
      obtain ⟨shows, unchanged⟩ := shaped.modes_eq
      rw [Node.directive?, Option.toList_none, List.append_nil, unchanged]
      exact ⟨⟨obey.writing_eq, obey.cleaning_eq⟩, by rw [← unchanged]; exact shows⟩
  | directive span name args =>
      obtain ⟨directive, meaning, rfl, rfl⟩ := interpret_of_place_eq_ok placed
      exact ⟨obey.concat meaning, rfl⟩

end Context

namespace Places

variable {options : Options} {style : BlockStyle} {context last : Context}
  {segments : List Segment} {before nodes : List Node}

/-- Placing any number of segments keeps the modes in step with the directives. -/
theorem obey_append (placed : Places style context segments nodes last)
    (obey : Modes.Obey options (directives before) context.modes) :
    Modes.Obey options (directives (before ++ nodes)) last.modes := by
  induction placed generalizing before with
  | nil =>
      rw [List.append_nil]
      exact obey
  | cons first _ ih =>
      rw [List.append_cons]
      exact ih (Context.obey_of_place obey first).1

/-- The modes at each place are those that the directives up to there ask for. -/
theorem exists_obey_at {place : Nat} {node : Node}
    (placed : Places style (Context.initial options) segments nodes last)
    (is : nodes[place]? = some node) :
    ∃ here next : Modes, Modes.Obey options (directives (nodes.take place)) here ∧
      Modes.Obey options (directives (nodes.take (place + 1))) next ∧ node.Shows here next := by
  obtain ⟨segment, here, next, -, before, fits⟩ := placed.exists_at is
  have obey : Modes.Obey options (directives (nodes.take place)) here.modes :=
    before.obey_append (Modes.Obey.initial options)
  obtain ⟨after, shows⟩ := Context.obey_of_place obey fits
  refine ⟨here.modes, next.modes, obey, ?_, shows⟩
  rw [List.take_add_one, is]
  exact after

end Places

/-- An expression is written as the last escape directive before it says, and a block or a
directive bears the mode of the last cleaning directive up to itself. Where there is none
the options decide. Nothing else in the source counts: neither what follows nor the blocks
in between. -/
theorem directives_scope (options : Options) (source : String) (nodes : List Node)
    (parsed : (Parse.ofText options source).result = .ok nodes) (place : Nat) (node : Node)
    (is : nodes[place]? = some node) :
    (∀ span code escaping escaper, node = .expression span code escaping escaper →
      Directive.writingAfter options (directives (nodes.take place)) =
        some (escaping, escaper)) ∧
    (∀ block, node = .block block →
      Directive.cleaningAfter options (directives (nodes.take (place + 1))) =
        some block.cleaning) ∧
    ∀ span name args cleaning, node = .directive span name args cleaning →
      Directive.cleaningAfter options (directives (nodes.take (place + 1))) =
        some cleaning := by
  obtain ⟨succeeds, rfl⟩ := Parse.result_eq_ok.mp parsed
  obtain ⟨_, _, segments, last, -, -, -, -, placed⟩ := Parse.exists_places_of_ofText succeeds
  obtain ⟨here, next, before, after, shows⟩ := placed.exists_obey_at is
  refine ⟨?_, ?_, ?_⟩
  · rintro span code escaping escaper rfl
    rw [before.writing_eq, ← show (escaping, escaper) = here.writing from shows]
  · rintro block rfl
    rw [after.cleaning_eq, ← show block.cleaning = next.cleaning from shows]
  · rintro span name args cleaning rfl
    rw [after.cleaning_eq, ← show cleaning = next.cleaning from shows]

/-- Escaping that the options and a directive have turned off is turned on with a function;
a block opens before the expression, and cleaning is turned on within it. -/
theorem directives_scope_within_block :
    let options : Options := { autoescape := false }
    let source := "<# escape off #><#@ escape function=\"h.x\" #><# if a #> <# cleanws #>" ++
      "<#= b #><# end #>"
    ∃ nodes block, (Parse.ofText options source).result = .ok nodes ∧
      nodes[5]? = some (.expression (Span.sized 68 8) "b" .auto (some "h.x")) ∧
      Directive.writingAfter options (directives (nodes.take 5)) = some (.auto, some "h.x") ∧
      nodes[6]? = some (.block block) ∧ block.cleaning = .block ∧
      Directive.cleaningAfter options (directives (nodes.take 7)) = some block.cleaning := by
  intro options source
  have parsed : (Parse.ofText options source).result = .ok
      [.directive (Span.sized 0 16) "escape" ["off"] .none,
        .directive (Span.sized 16 28) "escape" ["function=h.x"] .none,
        .block ⟨Span.sized 44 10, "if a", .opens, 0, some "if", .none⟩,
        .literal (Span.sized 54 1) " ", .directive (Span.sized 55 13) "cleanws" [] .block,
        .expression (Span.sized 68 8) "b" .auto (some "h.x"),
        .block ⟨Span.sized 76 9, "end", .closes, 0, some "if", .block⟩] := by
    decide +kernel
  exact ⟨_, _, parsed, rfl, (directives_scope _ _ _ parsed 5 _ rfl).1 _ _ _ _ rfl, rfl, rfl,
    (directives_scope _ _ _ parsed 6 _ rfl).2.1 _ rfl⟩

end Stencil
