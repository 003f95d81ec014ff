/-
# Placing segments

The segments of a template are placed one after the other, each in the context that
the ones before have left. Either all of them can be placed, or there is a first one
that cannot; what comes after that one has no influence on the result.
-/

import Stencil.Parse

namespace Stencil

namespace Context

variable {context : Context} {span : Span} {code : String} {shape : Shape}

/-- The block of a fragment at some depth. -/
def blockAt (context : Context) (span : Span) (code : String) (shape : Shape) (depth : Int)
    (keyword : Option String) : Block :=
  ⟨span, code, shape.role, depth, keyword, context.modes.cleaning⟩

/-- All that placing a fragment of code can come to. -/
inductive Shaped (context : Context) (span : Span) (code : String) (shape : Shape) :
    Except TemplateError (Block × Context) → Prop
  | opens (role : shape.role = .opens) :
      Shaped context span code shape
        (.ok (context.blockAt span code shape context.modes.depth shape.keyword,
          context.nest (context.modes.depth + 1)
            (context.blockAt span code shape context.modes.depth shape.keyword ::
              context.openBlocks)))
  | continues (role : shape.role = .continues) (inside : context.openBlocks ≠ []) :
      Shaped context span code shape
        (.ok (context.blockAt span code shape (context.modes.depth - 1) shape.keyword, context))
  | closes (role : shape.role = .closes) {innermost : Block} {outer : List Block}
      (inside : context.openBlocks = innermost :: outer)
      (suits : suits shape.keyword innermost.keyword = true) :
      Shaped context span code shape
        (.ok (context.blockAt span code shape (context.modes.depth - 1) innermost.keyword,
          context.nest (context.modes.depth - 1) outer))
  | statement (role : shape.role = .statement) :
      Shaped context span code shape
        (.ok (context.blockAt span code shape context.modes.depth none, context))
  | strayContinuation (role : shape.role = .continues) (outside : context.openBlocks = []) :
      Shaped context span code shape (.error (.unbalanced span (.strayContinuation code)))
  | strayClose (role : shape.role = .closes) (outside : context.openBlocks = []) :
      Shaped context span code shape (.error (.unbalanced span (.strayClose code)))
  | mismatch (role : shape.role = .closes) {innermost : Block} {outer : List Block}
      (inside : context.openBlocks = innermost :: outer)
      (differs : Context.suits shape.keyword innermost.keyword = false) :
      Shaped context span code shape
        (.error (.unbalanced innermost.span (.mismatch innermost.code code)))

theorem shaped_placeShape (context : Context) (span : Span) (code : String) (shape : Shape) :
    Shaped context span code shape (context.placeShape span code shape) := by
  simp only [placeShape]
  split
  · rename_i role
    exact .opens role
  · rename_i role outside
    exact .strayContinuation role outside
  · rename_i innermost outer role inside
    exact .continues role (by simp [inside])
  · rename_i role outside
    exact .strayClose role outside
  · rename_i innermost outer role inside
    split
    · rename_i suits
      exact .closes role inside suits
    · rename_i differs
      exact .mismatch role inside (by simpa using differs)
  · rename_i role
    exact .statement role

/-- What a block has from its fragment. The keyword of a closing one comes from
elsewhere. -/
theorem Shaped.block_eq {block : Block} {next : Context}
    (shaped : Shaped context span code shape (.ok (block, next))) :
    block.span = span ∧ block.code = code ∧ block.role = shape.role ∧
      (block.role = .opens → block.keyword = shape.keyword) := by
  cases shaped with
  | opens _ | continues _ _ => exact ⟨rfl, rfl, rfl, fun _ => rfl⟩
  | closes role _ _ | statement role =>
      refine ⟨rfl, rfl, rfl, ?_⟩
      intro (opens : shape.role = .opens)
      rw [role] at opens
      cases opens

/-- A fragment in a segment is trimmed and classified before it is placed. -/
theorem place_block_eq (style : BlockStyle) (context : Context) (span : Span) (code : String) :
    context.place style (.block span code) =
      match context.placeShape span (Text.trimmed code)
        (Shape.classify style (Text.trimmed code)) with
      | .error error => .error error
      | .ok (block, next) => .ok (.block block, next) := by
  simp only [place, Except.map]
  split <;> simp_all

variable {style : BlockStyle}

theorem shaped_of_place_eq_ok {node : Node} {next : Context}
    (placed : context.place style (.block span code) = .ok (node, next)) :
    ∃ block, node = .block block ∧
      Shaped context span (Text.trimmed code) (Shape.classify style (Text.trimmed code))
        (.ok (block, next)) := by
  have shaped := shaped_placeShape context span (Text.trimmed code)
    (Shape.classify style (Text.trimmed code))
  rw [place_block_eq] at placed
  split at placed
  · cases placed
  · rename_i block after fits
    cases placed
    exact ⟨block, rfl, fits ▸ shaped⟩

theorem shaped_of_place_eq_error {error : TemplateError}
    (refused : context.place style (.block span code) = .error error) :
    Shaped context span (Text.trimmed code) (Shape.classify style (Text.trimmed code))
      (.error error) := by
  have shaped := shaped_placeShape context span (Text.trimmed code)
    (Shape.classify style (Text.trimmed code))
  rw [place_block_eq] at refused
  split at refused
  · rename_i differs
    cases refused
    exact differs ▸ shaped
  · cases refused

theorem interpret_of_place_eq_ok {name : String} {args : List String} {node : Node}
    {next : Context} (placed : context.place style (.directive span name args) = .ok (node, next)) :
    ∃ directive, Directive.interpret name args = .ok directive ∧
      node = .directive span name args (context.modes.apply directive).cleaning ∧
      next = { context with modes := context.modes.apply directive } := by
  cases meaning : Directive.interpret name args with
  | error fault =>
      rw [place, Modes.direct_of_error meaning] at placed
      cases placed
  | ok directive =>
      rw [place, Modes.direct_of_ok meaning] at placed
      cases placed
      exact ⟨directive, rfl, rfl, rfl⟩

theorem interpret_of_place_eq_error {name : String} {args : List String} {error : TemplateError}
    (refused : context.place style (.directive span name args) = .error error) :
    ∃ fault, Directive.interpret name args = .error fault ∧
      error = .ofDirectiveFault name args span fault := by
  cases meaning : Directive.interpret name args with
  | error fault =>
      rw [place, Modes.direct_of_error meaning] at refused
      cases refused
      exact ⟨fault, rfl, rfl⟩
  | ok directive =>
      rw [place, Modes.direct_of_ok meaning] at refused
      cases refused

end Context

/-- Segments that can all be placed, with their nodes and the context after them. -/
inductive Places (style : BlockStyle) : Context → List Segment → List Node → Context → Prop
  | nil {context : Context} : Places style context [] [] context
  | cons {context next last : Context} {segment : Segment} {segments : List Segment}
      {node : Node} {nodes : List Node}
      (placed : context.place style segment = .ok (node, next))
      (further : Places style next segments nodes last) :
      Places style context (segment :: segments) (node :: nodes) last

/-- Segments one of which cannot be placed: the nodes of those before it, the context
it does not fit, and the error. -/
inductive Refuses (style : BlockStyle) :
    Context → List Segment → List Node → Context → TemplateError → Prop
  | here {context : Context} {segment : Segment} {segments : List Segment}
      {error : TemplateError} (refused : context.place style segment = .error error) :
      Refuses style context (segment :: segments) [] context error
  | later {context next last : Context} {segment : Segment} {segments : List Segment}
      {node : Node} {nodes : List Node} {error : TemplateError}
      (placed : context.place style segment = .ok (node, next))
      (further : Refuses style next segments nodes last error) :
      Refuses style context (segment :: segments) (node :: nodes) last error

theorem places_or_refuses (style : BlockStyle) (context : Context) (segments : List Segment) :
    (∃ nodes last, Places style context segments nodes last) ∨
      ∃ nodes last error, Refuses style context segments nodes last error := by
  induction segments generalizing context with
  | nil => exact .inl ⟨[], context, .nil⟩
  | cons segment rest ih =>
      cases placed : context.place style segment with
      | error error => exact .inr ⟨[], context, error, .here placed⟩
      | ok result =>
          rcases ih result.2 with ⟨nodes, last, further⟩ | ⟨nodes, last, error, further⟩
          · exact .inl ⟨result.1 :: nodes, last, .cons placed further⟩
          · exact .inr ⟨result.1 :: nodes, last, error, .later placed further⟩

/-- One more segment at the end. -/
theorem Places.concat {style : BlockStyle} {context last next : Context}
    {segments : List Segment} {nodes : List Node} {segment : Segment} {node : Node}
    (places : Places style context segments nodes last)
    (placed : last.place style segment = .ok (node, next)) :
    Places style context (segments ++ [segment]) (nodes ++ [node]) next := by
  induction places with
  | nil => exact .cons placed .nil
  | cons first _ ih => exact .cons first (ih placed)

/-- Each node was placed in the context that the ones before it left. -/
theorem Places.exists_at {style : BlockStyle} {context last : Context}
    {segments : List Segment} {nodes : List Node} {place : Nat} {node : Node}
    (places : Places style context segments nodes last) (is : nodes[place]? = some node) :
    ∃ segment here next, segments[place]? = some segment ∧
      Places style context (segments.take place) (nodes.take place) here ∧
      here.place style segment = .ok (node, next) := by
  induction places generalizing place with
  | nil => cases is
  | @cons context next _ segment _ _ _ placed _ ih =>
      cases place with
      | zero =>
          obtain rfl := Option.some.inj is
          exact ⟨segment, context, next, rfl, .nil, placed⟩
      | succ place =>
          obtain ⟨segment', here, next', found, before, placed'⟩ := ih is
          exact ⟨segment', here, next', found, .cons placed before, placed'⟩

/-- What follows a segment that cannot be placed does not matter. -/
theorem Refuses.append {style : BlockStyle} {context last : Context}
    {segments : List Segment} {nodes : List Node} {error : TemplateError}
    (refuses : Refuses style context segments nodes last error) (more : List Segment) :
    Refuses style context (segments ++ more) nodes last error := by
  induction refuses with
  | here refused => exact .here refused
  | later placed further ih => exact .later placed ih

/-- The first segment that cannot be placed, with those before it and after it. -/
theorem Refuses.exists_split {style : BlockStyle} {context last : Context}
    {segments : List Segment} {nodes : List Node} {error : TemplateError}
    (refuses : Refuses style context segments nodes last error) :
    ∃ before segment after, segments = before ++ segment :: after ∧
      Places style context before nodes last ∧ last.place style segment = .error error := by
  induction refuses with
  | here refused => exact ⟨[], _, _, rfl, .nil, refused⟩
  | later placed _ ih =>
      obtain ⟨before, segment, after, rfl, places, refused⟩ := ih
      exact ⟨_ :: before, segment, after, rfl, .cons placed places, refused⟩

theorem Places.refuses {style : BlockStyle} {context last : Context} {before : List Segment}
    {nodes : List Node} {segment : Segment} {error : TemplateError}
    (places : Places style context before nodes last)
    (refused : last.place style segment = .error error) (after : List Segment) :
    Refuses style context (before ++ segment :: after) nodes last error := by
  induction places with
  | nil => exact .here refused
  | cons placed _ ih => exact .later placed (ih refused)

namespace Parse

/-- What is wrong at the end of the segments: what stopped them, else a block that is
still open. -/
def closing (context : Context) : Option ParseFailure → Option ParseFailure
  | some failure => some failure
  | none => unclosed context

/-- Place segments one after the other. -/
def ofSegments (style : BlockStyle) (failure : Option ParseFailure) (context : Context) :
    List Segment → Parse
  | [] => ⟨[], context, closing context failure⟩
  | segment :: rest =>
    match context.place style segment with
    | .error error => ⟨[], context, some (.template error)⟩
    | .ok (node, next) => (ofSegments style failure next rest).prepend node

variable {style : BlockStyle} {context last : Context} {segments : List Segment}
  {nodes : List Node}

theorem ofSegments_of_places (places : Places style context segments nodes last)
    (failure : Option ParseFailure) :
    ofSegments style failure context segments = ⟨nodes, last, closing last failure⟩ := by
  induction places with
  | nil => rfl
  | cons placed further ih =>
      rw [ofSegments, placed]
      exact congrArg (prepend _) ih

theorem ofSegments_of_refuses {error : TemplateError}
    (refuses : Refuses style context segments nodes last error)
    (failure : Option ParseFailure) :
    ofSegments style failure context segments = ⟨nodes, last, some (.template error)⟩ := by
  induction refuses with
  | here refused => rw [ofSegments, refused]
  | later placed further ih =>
      rw [ofSegments, placed]
      exact congrArg (prepend _) ih

end Parse

end Stencil
