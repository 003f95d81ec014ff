/-
# Which segment fits where

Whether a segment can be placed depends on the segments before it, and this module
says how without mention of a context: a directive has to have a meaning, a fragment
that continues or closes a block needs an opening before it that has no closing yet,
and a closing keyword has to suit the innermost of them. What does not fit is objected
to in one way only, so that the error is a matter of the segments too.
-/

import Mathlib.Data.List.Forall2
import Stencil.Proofs.Balance

namespace Stencil

namespace Segment

/-- The shape of the code in a segment. What is not a fragment of code is as good as a
statement. -/
def shape (style : BlockStyle) : Segment → Shape
  | .block _ code => Shape.classify style (Text.trimmed code)
  | .text _ _ | .expression _ _ | .directive _ _ _ => ⟨.statement, none⟩

/-- The roles of segments, in their order. -/
def roles (style : BlockStyle) (segments : List Segment) : List Role :=
  segments.map fun segment => (segment.shape style).role

/-- A directive has a meaning. -/
def Meaningful : Segment → Prop
  | .directive _ name args => ∃ directive, Directive.interpret name args = .ok directive
  | .text _ _ | .expression _ _ | .block _ _ => True

/-- The node that a segment becomes, up to what depends on where it stands. -/
inductive Yields (style : BlockStyle) : Segment → Node → Prop
  | literal {span : Span} {value : String} :
      Yields style (.text span value) (.literal span value)
  | expression {span : Span} {code : String} {escaping : Escaping} {escaper : Option String} :
      Yields style (.expression span code)
        (.expression span (Text.trimmed code) escaping escaper)
  | block {span : Span} {code : String} {block : Block} (covers : block.span = span)
      (trimmed : block.code = Text.trimmed code)
      (role : block.role = (shape style (.block span code)).role)
      (keyword : block.role = .opens →
        block.keyword = (shape style (.block span code)).keyword) :
      Yields style (.block span code) (.block block)
  | directive {span : Span} {name : String} {args : List String} {cleaning : Cleaning} :
      Yields style (.directive span name args) (.directive span name args cleaning)

/-- A segment that fits after the given ones. -/
structure Admits (style : BlockStyle) (before : List Segment) (segment : Segment) : Prop where
  meaningful : segment.Meaningful
  /-- What continues or closes a block has one that is open. -/
  inside : (segment.shape style).role = .continues ∨ (segment.shape style).role = .closes →
    ∃ place, Unclosed (roles style before) place
  /-- A closing keyword is that of the innermost open block, unless one is absent. -/
  suits : (segment.shape style).role = .closes → ∀ place opener,
    Innermost (roles style before) place → before[place]? = some opener →
      (segment.shape style).keyword = none ∨ (opener.shape style).keyword = none ∨
        (segment.shape style).keyword = (opener.shape style).keyword

/-- What is wrong with a segment after the given ones. -/
inductive Objection (style : BlockStyle) (before : List Segment) :
    Segment → TemplateError → Prop
  | directive {span : Span} {name : String} {args : List String} {fault : Directive.Fault}
      (refused : Directive.interpret name args = .error fault) :
      Objection style before (.directive span name args) (.ofDirectiveFault name args span fault)
  | strayContinuation {span : Span} {code : String}
      (role : (shape style (.block span code)).role = .continues)
      (outside : ∀ place, ¬ Unclosed (roles style before) place) :
      Objection style before (.block span code)
        (.unbalanced span (.strayContinuation (Text.trimmed code)))
  | strayClose {span : Span} {code : String}
      (role : (shape style (.block span code)).role = .closes)
      (outside : ∀ place, ¬ Unclosed (roles style before) place) :
      Objection style before (.block span code)
        (.unbalanced span (.strayClose (Text.trimmed code)))
  | mismatch {span openSpan : Span} {code openCode : String} {place : Nat}
      (role : (shape style (.block span code)).role = .closes)
      (innermost : Innermost (roles style before) place)
      (opener : before[place]? = some (.block openSpan openCode))
      (differs : Context.suits (shape style (.block span code)).keyword
        (shape style (.block openSpan openCode)).keyword = false) :
      Objection style before (.block span code)
        (.unbalanced openSpan (.mismatch (Text.trimmed openCode) (Text.trimmed code)))

/-- Segments each of which fits after the ones before it. -/
def Sound (style : BlockStyle) (segments : List Segment) : Prop :=
  ∀ (place : Nat) (segment : Segment), segments[place]? = some segment →
    Admits style (segments.take place) segment

end Segment

theorem Context.suits_eq_true {closing opening : Option String} :
    Context.suits closing opening = true ↔
      closing = none ∨ opening = none ∨ closing = opening := by
  cases closing <;> cases opening <;> simp [Context.suits]

namespace Segment.Objection

variable {style : BlockStyle} {before : List Segment} {segment : Segment} {error : TemplateError}

/-- What is objected to does not fit. -/
theorem not_admits (objection : Objection style before segment error) :
    ¬ Admits style before segment := by
  intro admits
  cases objection with
  | directive refused =>
      obtain ⟨directive, accepted⟩ := admits.meaningful
      rw [refused] at accepted
      cases accepted
  | strayContinuation role outside =>
      obtain ⟨place, unclosed⟩ := admits.inside (.inl role)
      exact outside place unclosed
  | strayClose role outside =>
      obtain ⟨place, unclosed⟩ := admits.inside (.inr role)
      exact outside place unclosed
  | mismatch role innermost opener differs =>
      have suits := Context.suits_eq_true.mpr (admits.suits role _ _ innermost opener)
      rw [differs] at suits
      cases suits

/-- There is one objection at most. -/
theorem unique {other : TemplateError} (objection : Objection style before segment error)
    (objection' : Objection style before segment other) : error = other := by
  cases objection with
  | directive refused =>
      cases objection' with
      | directive refused' =>
          rw [refused] at refused'
          cases refused'
          rfl
  | strayContinuation role outside =>
      cases objection' with
      | strayContinuation _ _ => rfl
      | strayClose role' _ | mismatch role' _ _ _ =>
          rw [role] at role'
          cases role'
  | strayClose role outside =>
      cases objection' with
      | strayClose _ _ => rfl
      | strayContinuation role' _ =>
          rw [role] at role'
          cases role'
      | mismatch _ innermost _ _ => exact absurd innermost.1 (outside _)
  | mismatch role innermost opener _ =>
      cases objection' with
      | strayContinuation role' _ =>
          rw [role] at role'
          cases role'
      | strayClose _ outside => exact absurd innermost.1 (outside _)
      | mismatch _ innermost' opener' _ =>
          obtain rfl := innermost.unique innermost'
          rw [opener] at opener'
          cases opener'
          rfl

end Segment.Objection

section Placed

variable {style : BlockStyle} {context next : Context} {segment : Segment} {node : Node}

theorem Segment.yields_of_place (placed : context.place style segment = .ok (node, next)) :
    segment.Yields style node := by
  cases segment with
  | text span value =>
      cases placed
      exact .literal
  | expression span code =>
      cases placed
      exact .expression
  | directive span name args =>
      obtain ⟨directive, -, rfl, rfl⟩ := Context.interpret_of_place_eq_ok placed
      exact .directive
  | block span code =>
      obtain ⟨block, rfl, shaped⟩ := Context.shaped_of_place_eq_ok placed
      obtain ⟨covers, trimmed, role, keyword⟩ := shaped.block_eq
      exact .block covers trimmed role keyword

theorem Segment.Yields.role_eq (yields : segment.Yields style node) :
    node.role = (segment.shape style).role := by
  cases yields with
  | block _ _ role _ => exact role
  | literal | expression | directive => rfl

variable {segments : List Segment} {nodes : List Node}

/-- There is one node for each segment, in the same order. -/
theorem Places.yields (placed : Places style context segments nodes next) :
    List.Forall₂ (Segment.Yields style) segments nodes := by
  induction placed with
  | nil => exact .nil
  | cons first _ ih => exact .cons (Segment.yields_of_place first) ih

theorem Places.roles_eq (placed : Places style context segments nodes next) :
    roles nodes = Segment.roles style segments := by
  induction placed with
  | nil => rfl
  | cons first _ ih =>
      exact congrArg₂ List.cons (Segment.yields_of_place first).role_eq ih

end Placed

namespace Places

variable {style : BlockStyle} {options : Options} {before : List Segment} {nodes : List Node}
  {here : Context} {segment : Segment}

theorem exists_opened (placed : Places style (Context.initial options) before nodes here) :
    ∃ places, here.Tracks nodes places ∧ Opened (Segment.roles style before) places := by
  obtain ⟨places, tracks⟩ := placed.exists_tracks
  exact ⟨places, tracks, placed.roles_eq ▸ tracks.opened⟩

/-- The innermost open block comes from the segment at the innermost opening without a
closing. -/
theorem exists_opener {innermost : Block} {outer : List Block}
    (placed : Places style (Context.initial options) before nodes here)
    (inside : here.openBlocks = innermost :: outer) :
    ∃ place code, Innermost (Segment.roles style before) place ∧
      before[place]? = some (.block innermost.span code) ∧
      innermost.code = Text.trimmed code ∧
      innermost.keyword = (Segment.shape style (.block innermost.span code)).keyword := by
  obtain ⟨places, tracks, opened⟩ := placed.exists_opened
  obtain ⟨outerPlaces, place, rfl, found, -, -⟩ := tracks.exists_innermost inside
  have opens : innermost.role = .opens := by
    have is := opened.innermost.1.1
    rw [← placed.roles_eq, getElem?_roles, found] at is
    exact Option.some.inj is
  obtain ⟨segment, earlier, later, is, -, fits⟩ := placed.exists_at found
  cases Segment.yields_of_place fits with
  | block covers trimmed _ keyword =>
      subst covers
      exact ⟨place, _, opened.innermost, is, trimmed, keyword opens⟩

theorem openBlocks_eq_nil_iff (placed : Places style (Context.initial options) before nodes here) :
    here.openBlocks = [] ↔ ∀ place, ¬ Unclosed (Segment.roles style before) place := by
  constructor
  · intro closed place unclosed
    obtain ⟨places, tracks, opened⟩ := placed.exists_opened
    have none := tracks.length_places
    rw [closed, List.length_nil, List.length_eq_zero_iff] at none
    have listed := (opened.mem_iff place).mpr unclosed
    rw [none] at listed
    cases listed
  · intro outside
    cases inside : here.openBlocks with
    | nil => rfl
    | cons innermost outer =>
        obtain ⟨place, _, isInnermost, -, -, -⟩ := placed.exists_opener inside
        exact absurd isInnermost.1 (outside place)

/-- What can be placed fits. -/
theorem admits {node : Node} {next : Context}
    (placed : Places style (Context.initial options) before nodes here)
    (fits : here.place style segment = .ok (node, next)) : Segment.Admits style before segment := by
  cases segment with
  | text span value | expression span code =>
      exact ⟨trivial, by simp [Segment.shape], by simp [Segment.shape]⟩
  | directive span name args =>
      obtain ⟨directive, meaning, -, -⟩ := Context.interpret_of_place_eq_ok fits
      exact ⟨⟨directive, meaning⟩, by simp [Segment.shape], by simp [Segment.shape]⟩
  | block span code =>
      obtain ⟨block, rfl, shaped⟩ := Context.shaped_of_place_eq_ok fits
      cases shaped with
      | opens role | statement role =>
          exact ⟨trivial, by simp [Segment.shape, role], by simp [Segment.shape, role]⟩
      | continues role inside =>
          refine ⟨trivial, fun _ => ?_, by simp [Segment.shape, role]⟩
          obtain ⟨innermost, outer, inside⟩ := List.exists_cons_of_ne_nil inside
          obtain ⟨place, _, isInnermost, -, -, -⟩ := placed.exists_opener inside
          exact ⟨place, isInnermost.1⟩
      | closes role inside suits =>
          obtain ⟨place, openCode, isInnermost, opener, -, keyword⟩ := placed.exists_opener inside
          refine ⟨trivial, fun _ => ⟨place, isInnermost.1⟩, ?_⟩
          intro _ other opener' isInnermost' opener_eq
          obtain rfl := isInnermost.unique isInnermost'
          rw [opener] at opener_eq
          cases opener_eq
          rw [keyword] at suits
          exact Context.suits_eq_true.mp suits

/-- What cannot be placed is objected to. -/
theorem objection {error : TemplateError}
    (placed : Places style (Context.initial options) before nodes here)
    (refused : here.place style segment = .error error) :
    Segment.Objection style before segment error := by
  cases segment with
  | text span value | expression span code => cases refused
  | directive span name args =>
      obtain ⟨fault, meaningless, rfl⟩ := Context.interpret_of_place_eq_error refused
      exact .directive meaningless
  | block span code =>
      cases Context.shaped_of_place_eq_error refused with
      | strayContinuation role outside =>
          exact .strayContinuation role (placed.openBlocks_eq_nil_iff.mp outside)
      | strayClose role outside =>
          exact .strayClose role (placed.openBlocks_eq_nil_iff.mp outside)
      | mismatch role inside differs =>
          obtain ⟨place, openCode, isInnermost, opener, trimmed, keyword⟩ :=
            placed.exists_opener inside
          rw [keyword] at differs
          rw [trimmed]
          exact .mismatch role isInnermost opener differs

/-- Segments that have been placed fit one after the other. -/
theorem sound (placed : Places style (Context.initial options) before nodes here) :
    Segment.Sound style before := by
  intro place segment is
  have within := (List.getElem?_eq_some_iff.mp is).1
  rw [placed.yields.length_eq] at within
  obtain ⟨segment', earlier, later, is', placed', fits⟩ :=
    placed.exists_at (List.getElem?_eq_getElem within)
  rw [is] at is'
  cases is'
  exact placed'.admits fits

end Places

/-- Segments that fit one after the other can be placed. -/
theorem Segment.Sound.exists_places {style : BlockStyle} {segments : List Segment}
    (sound : Segment.Sound style segments) (options : Options) :
    ∃ nodes last, Places style (Context.initial options) segments nodes last := by
  rcases places_or_refuses style (Context.initial options) segments with
    places | ⟨nodes, last, error, refuses⟩
  · exact places
  · obtain ⟨before, segment, after, rfl, places, refused⟩ := refuses.exists_split
    have admits := sound before.length segment (by simp)
    rw [List.take_left] at admits
    exact absurd admits (places.objection refused).not_admits

end Stencil
