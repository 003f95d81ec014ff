/-
# The open blocks of a parse

While a template is parsed, the context keeps a stack of open blocks and a depth.
What they are supposed to be is said of the nodes alone, by `Pairs`: the stack holds
the opening nodes whose closing has not been built yet. One lemma says what placing a
segment does to the stack, a second that this keeps the meaning of the stack, and the
rest follows along the course of a parse. Where the parse succeeds the stack is empty
at the end, and what a node's depth was when it was placed turns into a number of
pairs around it.
-/

import Stencil.Proofs.Course
import Stencil.Proofs.Nesting

namespace Stencil

/-- The part a node plays in the nesting; only blocks open or close anything. -/
def Node.role : Node → Role
  | .block placed => placed.role
  | _ => .statement

theorem Node.exists_block {node : Node} (h : node.role ≠ .statement) :
    ∃ block, node = .block block := by
  cases node with
  | block block => exact ⟨block, rfl⟩
  | literal _ _ | expression _ _ _ _ | directive _ _ _ _ | placeholder _ => exact absurd rfl h

/-- The roles of nodes, in their order. -/
def roles (nodes : List Node) : List Role :=
  nodes.map Node.role

@[simp] theorem roles_length (nodes : List Node) : (roles nodes).length = nodes.length :=
  List.length_map ..

@[simp] theorem roles_concat (nodes : List Node) (node : Node) :
    roles (nodes ++ [node]) = roles nodes ++ [node.role] :=
  List.map_append ..

theorem roles_take (nodes : List Node) (place : Nat) :
    roles (nodes.take place) = (roles nodes).take place :=
  List.map_take ..

theorem getElem?_roles (nodes : List Node) (place : Nat) :
    (roles nodes)[place]? = nodes[place]?.map Node.role :=
  List.getElem?_map ..

theorem Modes.apply_depth (modes : Modes) (directive : Directive) :
    (modes.apply directive).depth = modes.depth := by
  cases directive with
  | clean mode => rfl
  | escape policy escaper =>
      cases policy with
      | auto => rfl
      | raw | disabled =>
          simp only [Modes.apply]
          split <;> rfl

namespace Context

/-- All that placing a segment can do to the depth and the open blocks. -/
inductive Grows (context : Context) : Node → Context → Prop
  | opens {block : Block} {next : Context} (role : block.role = .opens)
      (depth : block.depth = context.modes.depth)
      (deeper : next.modes.depth = context.modes.depth + 1)
      (pushed : next.openBlocks = block :: context.openBlocks) : Grows context (.block block) next
  | closes {block innermost : Block} {next : Context} (role : block.role = .closes)
      (popped : context.openBlocks = innermost :: next.openBlocks)
      (depth : block.depth = context.modes.depth - 1)
      (keyword : block.keyword = innermost.keyword)
      (shallower : next.modes.depth = context.modes.depth - 1) : Grows context (.block block) next
  | continues {block : Block} (role : block.role = .continues)
      (inside : context.openBlocks ≠ []) (depth : block.depth = context.modes.depth - 1) :
      Grows context (.block block) context
  | statement {block : Block} (role : block.role = .statement)
      (depth : block.depth = context.modes.depth) : Grows context (.block block) context
  | other {node : Node} {next : Context} (noBlock : ∀ block, node ≠ .block block)
      (role : node.role = .statement) (level : next.modes.depth = context.modes.depth)
      (same : next.openBlocks = context.openBlocks) : Grows context node next

theorem grows_of_place {style : BlockStyle} {context next : Context} {segment : Segment}
    {node : Node} (placed : context.place style segment = .ok (node, next)) :
    Grows context node next := by
  cases segment with
  | text span value =>
      cases placed
      exact .other (by simp) rfl rfl rfl
  | expression span code =>
      cases placed
      exact .other (by simp) rfl rfl rfl
  | directive span name args =>
      obtain ⟨directive, -, rfl, rfl⟩ := interpret_of_place_eq_ok placed
      exact .other (by simp) rfl (Modes.apply_depth ..) rfl
  | block span code =>
      obtain ⟨block, rfl, shaped⟩ := shaped_of_place_eq_ok placed
      cases shaped with
      | opens role => exact .opens role rfl rfl rfl
      | continues role inside => exact .continues role inside rfl
      | closes role inside _ => exact .closes role inside rfl rfl rfl
      | statement role => exact .statement role rfl

/-- What the depth and the open blocks of a context are, in terms of the nodes built so
far. The open blocks are listed from the outermost one. -/
structure Balances (context : Context) (nodes : List Node) : Prop where
  depth_eq : context.modes.depth = context.openBlocks.length
  depth_of_open : ∀ (place : Nat) (block : Block),
    context.openBlocks.reverse[place]? = some block → block.depth = place
  /-- They are the nodes at the places of the openings without a closing, in order. -/
  unclosed : ∃ places : List Nat, places.Pairwise (· < ·) ∧
    (∀ place, place ∈ places ↔ Unclosed (roles nodes) place) ∧
    places.map (nodes[·]?) = context.openBlocks.reverse.map (some ∘ Node.block)

/-- The form in which the meaning of the open blocks is carried along: with the places
at hand, and with what is between them. -/
structure Tracks (context : Context) (nodes : List Node) (places : List Nat) : Prop where
  depth_eq : context.modes.depth = context.openBlocks.length
  depth_of_open : ∀ (place : Nat) (block : Block),
    context.openBlocks.reverse[place]? = some block → block.depth = place
  opened : Opened (roles nodes) places
  listed : places.map (nodes[·]?) = context.openBlocks.reverse.map (some ∘ Node.block)

namespace Tracks

variable {context next : Context} {nodes : List Node} {places : List Nat} {node : Node}

theorem balances (tracks : Tracks context nodes places) : Balances context nodes where
  depth_eq := tracks.depth_eq
  depth_of_open := tracks.depth_of_open
  unclosed := ⟨places, tracks.opened.pairwise, tracks.opened.mem_iff, tracks.listed⟩

theorem initial (options : Options) : Tracks (Context.initial options) [] [] where
  depth_eq := rfl
  depth_of_open := by simp [Context.initial]
  opened := .closed .nil
  listed := rfl

theorem length_places (tracks : Tracks context nodes places) :
    places.length = context.openBlocks.length := by
  simpa using congrArg List.length tracks.listed

/-- The place of the innermost open block is the last one, and its depth is one less
than the depth of the context. -/
theorem exists_innermost {innermost : Block} {outer : List Block}
    (tracks : Tracks context nodes places) (inside : context.openBlocks = innermost :: outer) :
    ∃ before place, places = before ++ [place] ∧ nodes[place]? = some (.block innermost) ∧
      before.map (nodes[·]?) = outer.reverse.map (some ∘ Node.block) ∧
      innermost.depth = context.modes.depth - 1 := by
  have listed := tracks.listed
  rw [inside, List.reverse_cons, List.map_append, List.map_singleton] at listed
  obtain ⟨before, last, rfl, hbefore, hlast⟩ := List.map_eq_append_iff.mp listed
  obtain ⟨place, rfl, is⟩ := List.map_eq_singleton_iff.mp hlast
  have depth := tracks.depth_of_open outer.length innermost (by simp [inside])
  have total := tracks.depth_eq
  rw [inside, List.length_cons] at total
  refine ⟨before, place, rfl, is, hbefore, ?_⟩
  omega

/-- One more node leaves the nodes at the places as they are. -/
theorem listed_concat (tracks : Tracks context nodes places) (node : Node) :
    places.map ((nodes ++ [node])[·]?) = context.openBlocks.reverse.map (some ∘ Node.block) := by
  rw [← tracks.listed]
  refine List.map_congr_left ?_
  intro place listed
  have within := tracks.opened.lt_length listed
  rw [roles_length] at within
  exact List.getElem?_append_left within

/-- A node that neither opens nor closes leaves everything as it is. -/
theorem concat_plain (tracks : Tracks context nodes places) (notOpens : node.role ≠ .opens)
    (notCloses : node.role ≠ .closes) (level : next.modes.depth = context.modes.depth)
    (same : next.openBlocks = context.openBlocks) : Tracks next (nodes ++ [node]) places where
  depth_eq := by rw [level, same, tracks.depth_eq]
  depth_of_open := by
    rw [same]
    exact tracks.depth_of_open
  opened := by
    rw [roles_concat]
    exact tracks.opened.append_plain notOpens notCloses
  listed := by
    rw [same]
    exact tracks.listed_concat node

theorem concat_opens {block : Block} (tracks : Tracks context nodes places)
    (role : block.role = .opens) (depth : block.depth = context.modes.depth)
    (deeper : next.modes.depth = context.modes.depth + 1)
    (pushed : next.openBlocks = block :: context.openBlocks) :
    Tracks next (nodes ++ [.block block]) (places ++ [nodes.length]) where
  depth_eq := by
    rw [deeper, pushed, tracks.depth_eq, List.length_cons]
    rfl
  depth_of_open := by
    intro place other is
    rw [pushed, List.reverse_cons] at is
    rcases Nat.lt_or_ge place context.openBlocks.reverse.length with within | beyond
    · rw [List.getElem?_append_left within] at is
      exact tracks.depth_of_open place other is
    · rw [List.getElem?_append_right beyond, List.getElem?_singleton] at is
      split at is
      · obtain rfl := Option.some.inj is
        rw [List.length_reverse] at *
        rw [depth, tracks.depth_eq]
        omega
      · cases is
  opened := by
    rw [roles_concat, show (Node.block block).role = .opens from role, ← roles_length nodes]
    exact tracks.opened.append_opens
  listed := by
    rw [pushed, List.map_append, tracks.listed_concat, List.reverse_cons, List.map_append]
    simp

theorem concat_closes {block innermost : Block} (tracks : Tracks context nodes places)
    (role : block.role = .closes) (popped : context.openBlocks = innermost :: next.openBlocks)
    (shallower : next.modes.depth = context.modes.depth - 1) :
    ∃ before, Tracks next (nodes ++ [.block block]) before := by
  obtain ⟨before, place, rfl, -, -, -⟩ := tracks.exists_innermost popped
  have listed := tracks.listed_concat (.block block)
  rw [popped, List.reverse_cons, List.map_append, List.map_append] at listed
  refine ⟨before, ?_, ?_, ?_, (List.append_inj' listed rfl).1⟩
  · have total := tracks.depth_eq
    rw [popped, List.length_cons] at total
    omega
  · intro place other is
    refine tracks.depth_of_open place other ?_
    have within := (List.getElem?_eq_some_iff.mp is).1
    rw [popped, List.reverse_cons, List.getElem?_append_left within, is]
  · rw [roles_concat, show (Node.block block).role = .closes from role]
    exact tracks.opened.append_closes

/-- Placing a segment keeps the meaning of the open blocks. -/
theorem concat (tracks : Tracks context nodes places) (grows : Grows context node next) :
    ∃ places', Tracks next (nodes ++ [node]) places' := by
  cases grows with
  | opens role depth deeper pushed =>
      exact ⟨_, tracks.concat_opens role depth deeper pushed⟩
  | closes role popped _ _ shallower => exact tracks.concat_closes role popped shallower
  | continues role _ _ =>
      exact ⟨places, tracks.concat_plain (by simp [Node.role, role]) (by simp [Node.role, role])
        rfl rfl⟩
  | statement role _ =>
      exact ⟨places, tracks.concat_plain (by simp [Node.role, role]) (by simp [Node.role, role])
        rfl rfl⟩
  | other _ role level same =>
      exact ⟨places, tracks.concat_plain (by simp [role]) (by simp [role]) level same⟩

/-- Placing any number of segments does. -/
theorem append {style : BlockStyle} {segments : List Segment} {more : List Node}
    (tracks : Tracks context nodes places) (placed : Places style context segments more next) :
    ∃ places', Tracks next (nodes ++ more) places' := by
  induction placed generalizing nodes places with
  | nil =>
      rw [List.append_nil]
      exact ⟨places, tracks⟩
  | cons first _ ih =>
      obtain ⟨places', tracks'⟩ := tracks.concat (grows_of_place first)
      rw [List.append_cons]
      exact ih tracks'

end Tracks

end Context

/-- Nodes whose blocks are pairs inside one another or apart, with depths and keywords
that agree with the pairs. -/
structure WellNested (nodes : List Node) : Prop where
  opening : ∀ first, (roles nodes)[first]? = some .opens → ∃! last, Pairs (roles nodes) first last
  closing : ∀ last, (roles nodes)[last]? = some .closes → ∃! first, Pairs (roles nodes) first last
  apart_or_inside : ∀ first last first' last', Pairs (roles nodes) first last →
    Pairs (roles nodes) first' last' → first < first' → last < first' ∨ last' < last
  alike : ∀ first last, Pairs (roles nodes) first last → ∃ opener closer : Block,
    nodes[first]? = some (.block opener) ∧ nodes[last]? = some (.block closer) ∧
      opener.depth = closer.depth ∧ opener.keyword = closer.keyword
  statement : ∀ (place : Nat) (block : Block), nodes[place]? = some (.block block) →
    block.role = .statement → block.depth = (around (roles nodes) place).ncard
  /-- A continuation stands in a pair, and has the depth of the innermost one. -/
  continuation : ∀ (place : Nat) (block : Block), nodes[place]? = some (.block block) →
    block.role = .continues → ∃ (first last : Nat) (opener : Block),
      (first, last) ∈ around (roles nodes) place ∧
      (∀ ends ∈ around (roles nodes) place, ends.1 ≤ first ∧ last ≤ ends.2) ∧
      nodes[first]? = some (.block opener) ∧ block.depth = opener.depth

section Placed

variable {style : BlockStyle} {options : Options} {segments : List Segment} {nodes : List Node}
  {last : Context}

theorem Places.exists_tracks
    (placed : Places style (Context.initial options) segments nodes last) :
    ∃ places, last.Tracks nodes places :=
  (Context.Tracks.initial options).append placed

/-- Each node was placed in a context that tracks the nodes before it. -/
theorem Places.exists_tracks_at {place : Nat} {node : Node}
    (placed : Places style (Context.initial options) segments nodes last)
    (is : nodes[place]? = some node) :
    ∃ (here next : Context) (places : List Nat),
      here.Tracks (nodes.take place) places ∧
      Opened ((roles nodes).take place) places ∧ here.Grows node next := by
  obtain ⟨segment, here, next, -, before, fits⟩ := placed.exists_at is
  obtain ⟨places, tracks⟩ := before.exists_tracks
  have opened := tracks.opened
  rw [roles_take] at opened
  exact ⟨here, next, places, tracks, opened, Context.grows_of_place fits⟩

/-- When all blocks are closed at the end, no opening is without a closing. -/
theorem Places.accounted (placed : Places style (Context.initial options) segments nodes last)
    (closed : last.openBlocks = []) : Accounted (roles nodes) [] := by
  obtain ⟨places, tracks⟩ := placed.exists_tracks
  have none := tracks.length_places
  rw [closed, List.length_nil, List.length_eq_zero_iff] at none
  exact none ▸ tracks.opened.accounted

theorem getElem?_of_take {place bound : Nat} {node : Node}
    (is : (nodes.take bound)[place]? = some node) : nodes[place]? = some node := by
  rw [List.getElem?_take] at is
  split at is
  · exact is
  · cases is

/-- A closing node agrees with the opening node it belongs to. -/
theorem Places.alike (placed : Places style (Context.initial options) segments nodes last)
    {first final : Nat} (pairs : Pairs (roles nodes) first final) :
    ∃ opener closer : Block, nodes[first]? = some (.block opener) ∧
      nodes[final]? = some (.block closer) ∧ opener.depth = closer.depth ∧
      opener.keyword = closer.keyword := by
  have closing := pairs.getElem?_last
  obtain ⟨node, is, role⟩ :=
    Option.map_eq_some_iff.mp ((getElem?_roles nodes final).symm.trans closing)
  obtain ⟨closer, rfl⟩ := node.exists_block (by simp [role])
  obtain ⟨here, next, places, tracks, opened, grows⟩ := placed.exists_tracks_at is
  have role : closer.role = .closes := role
  cases grows with
  | closes _ popped depth keyword _ =>
      obtain ⟨before, place, rfl, found, -, inner⟩ := tracks.exists_innermost popped
      -- The innermost open block is the one this closing belongs to.
      obtain rfl := pairs.first_unique (opened.pairs_of_take closing)
      exact ⟨_, closer, getElem?_of_take found, is, by rw [inner, depth], keyword.symm⟩
  | opens other _ _ _ | continues other _ _ | statement other _ => simp [role] at other
  | other noBlock _ _ _ => exact absurd rfl (noBlock closer)

theorem Places.wellNested (placed : Places style (Context.initial options) segments nodes last)
    (closed : last.openBlocks = []) : WellNested nodes where
  opening := by
    intro first is
    obtain ⟨final, pairs⟩ := ((placed.accounted closed).opening first is).resolve_left (by simp)
    exact ⟨final, pairs, fun _ pairs' => pairs'.last_unique pairs⟩
  closing := by
    intro final is
    obtain ⟨first, pairs⟩ := (placed.accounted closed).closing final is
    exact ⟨first, pairs, fun _ pairs' => pairs'.first_unique pairs⟩
  apart_or_inside := fun _ _ _ _ pairs pairs' order => pairs.apart_or_inside pairs' order
  alike := fun _ _ pairs => placed.alike pairs
  statement := by
    intro place block is role
    have notCloses : (roles nodes)[place]? ≠ some .closes := by
      simp [getElem?_roles, is, Node.role, role]
    obtain ⟨here, next, places, tracks, opened, grows⟩ := placed.exists_tracks_at is
    have count := opened.ncard_around (placed.accounted closed) notCloses
    cases grows with
    | statement _ depth => rw [depth, tracks.depth_eq, count, tracks.length_places]
    | opens other _ _ _ | continues other _ _ | closes other _ _ _ _ => simp [role] at other
    | other noBlock _ _ _ => exact absurd rfl (noBlock block)
  continuation := by
    intro place block is role
    have notCloses : (roles nodes)[place]? ≠ some .closes := by
      simp [getElem?_roles, is, Node.role, role]
    obtain ⟨here, next, places, tracks, opened, grows⟩ := placed.exists_tracks_at is
    cases grows with
    | continues _ inside depth =>
        obtain ⟨innermost, outer, inside⟩ := List.exists_cons_of_ne_nil inside
        obtain ⟨before, first, rfl, found, -, inner⟩ := tracks.exists_innermost inside
        obtain ⟨final, encloses, least⟩ :=
          opened.exists_innermost (placed.accounted closed) notCloses
        exact ⟨first, final, innermost, encloses, least, getElem?_of_take found, by
          rw [depth, inner]⟩
    | opens other _ _ _ | statement other _ | closes other _ _ _ _ => simp [role] at other
    | other noBlock _ _ _ => exact absurd rfl (noBlock block)

end Placed

theorem Parser.Reaches.balances {σ : Type} [TokenSource σ] {options : Options} {source : σ}
    {style : BlockStyle} {nodes : List Node} {parser : Parser σ}
    (reached : Parser.Reaches style ⟨source, none, Context.initial options⟩ nodes parser) :
    parser.context.Balances nodes := by
  obtain ⟨segments, placed⟩ := reached.exists_places
  obtain ⟨places, tracks⟩ := placed.exists_tracks
  exact tracks.balances

/-- At every point of a parse, the open blocks are the opening nodes without a closing;
in particular they are where it ends, whether it has failed or not. If it succeeds they
are none, and the nodes are well nested. -/
theorem open_blocks_balanced (options : Options) (source : String) :
    (∀ (nodes : List Node) (parser : Parser Feed),
      Parser.Reaches options.blockStyle
        ⟨Feed.ofText options source, none, Context.initial options⟩ nodes parser →
      parser.context.Balances nodes) ∧
    (∃ last : Parser Feed,
      Parser.Reaches options.blockStyle
        ⟨Feed.ofText options source, none, Context.initial options⟩
        (Parse.ofText options source).nodes last ∧
      last.context = (Parse.ofText options source).context) ∧
    (Parse.ofText options source).context.Balances (Parse.ofText options source).nodes ∧
    ((Parse.ofText options source).failure = none →
      (Parse.ofText options source).context.openBlocks = [] ∧
      (Parse.ofText options source).context.modes.depth = 0 ∧
      WellNested (Parse.ofText options source).nodes) := by
  obtain ⟨last, reached, same⟩ := Parse.exists_reaches options (Feed.ofText options source)
  have final : (Parse.ofText options source).context.Balances (Parse.ofText options source).nodes :=
    same ▸ reached.balances
  refine ⟨fun _ _ reached => reached.balances, ⟨last, reached, same⟩, final, ?_⟩
  intro succeeds
  have closed : (Parse.ofText options source).context.openBlocks = [] :=
    Parse.openBlocks_of_run succeeds
  obtain ⟨segments, placed⟩ := reached.exists_places
  refine ⟨closed, ?_, placed.wellNested (same ▸ closed)⟩
  rw [final.depth_eq, closed]
  rfl

/-- A block with a continuation and a statement inside it; and a parse that fails with
two blocks open. -/
theorem open_blocks_balanced_branches :
    (Parse.ofText {} "<# if a #>x<# else #><# b #><# end #>").failure = none ∧
      WellNested (Parse.ofText {} "<# if a #>x<# else #><# b #><# end #>").nodes ∧
      (Parse.ofText {} "<# if a #><# for b #><# endif #>").context.Balances
        (Parse.ofText {} "<# if a #><# for b #><# endif #>").nodes ∧
      (Parse.ofText {} "<# if a #><# for b #><# endif #>").context.openBlocks.length = 2 := by
  have succeeds : (Parse.ofText {} "<# if a #>x<# else #><# b #><# end #>").failure = none :=
    Option.isNone_iff_eq_none.mp (by decide +kernel)
  obtain ⟨last, reached, same⟩ := (open_blocks_balanced {} "<# if a #><# for b #><# endif #>").2.1
  refine ⟨succeeds, ((open_blocks_balanced _ _).2.2.2 succeeds).2.2, ?_, by decide +kernel⟩
  rw [← same]
  exact (open_blocks_balanced _ _).1 _ _ reached

end Stencil
