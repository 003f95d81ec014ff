/-
# The tree view indents by nesting

The tree view keeps a depth of its own while it goes through the nodes, and takes it up or down
at blocks. That this is the number of blocks around a node is a matter of the nodes alone, so it
is said of them first: `Levelled` nodes lead from one number of open blocks to another, one node at
a time, and each block carries the number that fits its role. Parsing makes such nodes, cleaning
only drops or shortens texts among them, and the view follows the same numbers.

How many pairs of an opening and a closing are around a node is a question about the list as a
whole. The number of open blocks answers it, since all of them are closed in the end.
-/

import Stencil.Proofs.Balance
import Stencil.Proofs.Lines

namespace Stencil

/-- The number of open blocks before and after a node. A block carries the number of those that
are around it: all of them where it opens another or is a statement, and all but the innermost
where it belongs to that one. -/
inductive Node.Moves : Nat → Node → Nat → Prop
  | opens {level : Nat} {block : Block} (role : block.role = .opens) (depth : block.depth = level) :
      Moves level (.block block) (level + 1)
  | closes {level : Nat} {block : Block} (role : block.role = .closes)
      (depth : block.depth = level) : Moves (level + 1) (.block block) level
  | continues {level : Nat} {block : Block} (role : block.role = .continues)
      (depth : block.depth = level) : Moves (level + 1) (.block block) (level + 1)
  | statement {level : Nat} {block : Block} (role : block.role = .statement)
      (depth : block.depth = level) : Moves level (.block block) level
  | other {level : Nat} {node : Node} (noBlock : ∀ block, node ≠ .block block) :
      Moves level node level

/-- Nodes that lead from one number of open blocks to another. -/
inductive Levelled : Nat → List Node → Nat → Prop
  | nil {level : Nat} : Levelled level [] level
  | cons {level next last : Nat} {node : Node} {rest : List Node} (moves : node.Moves level next)
      (further : Levelled next rest last) : Levelled level (node :: rest) last

section Parsing

variable {style : BlockStyle} {context next last : Context} {node : Node}
  {segments : List Segment} {nodes cleaned : List Node}

/-- Placing a segment moves the number of open blocks by its node. -/
theorem Context.Grows.moves (grows : context.Grows node next)
    (level : context.modes.depth = context.openBlocks.length) :
    node.Moves context.openBlocks.length next.openBlocks.length ∧
      next.modes.depth = next.openBlocks.length := by
  cases grows with
  | opens role depth deeper pushed =>
      rw [pushed, List.length_cons]
      exact ⟨.opens role (depth.trans level), by omega⟩
  | closes role popped depth _ shallower =>
      rw [popped, List.length_cons] at level ⊢
      exact ⟨.closes role (by omega), by omega⟩
  | continues role inside depth =>
      obtain ⟨innermost, outer, inside⟩ := List.exists_cons_of_ne_nil inside
      rw [inside, List.length_cons] at level ⊢
      exact ⟨.continues role (by omega), level⟩
  | statement role depth => exact ⟨.statement role (depth.trans level), level⟩
  | other noBlock _ same unchanged =>
      rw [unchanged, same]
      exact ⟨.other noBlock, level⟩

theorem Places.levelled (places : Places style context segments nodes last)
    (level : context.modes.depth = context.openBlocks.length) :
    Levelled context.openBlocks.length nodes last.openBlocks.length := by
  induction places with
  | nil => exact .nil
  | cons placed _ ih =>
      obtain ⟨moves, level'⟩ := (Context.grows_of_place placed).moves level
      exact .cons moves (ih level')

/-- Texts do not count. -/
theorem Node.Moves.of_literal {level level' : Nat} (moves : node.Moves level level')
    (literal : node.isLiteral = true) : level' = level := by
  cases moves with
  | opens _ _ | closes _ _ | continues _ _ | statement _ _ => cases literal
  | other _ => rfl

theorem Levelled.of_cleanAfter {level final : Nat} {previous : Option Node}
    (levelled : Levelled level nodes final)
    (clean : Node.cleanAfter previous nodes = .ok cleaned) : Levelled level cleaned final := by
  induction levelled generalizing previous cleaned with
  | nil =>
      cases clean
      exact .nil
  | cons moves _ ih =>
      obtain ⟨first, others, here, further, rfl⟩ := Node.cleanAfter_cons_eq_ok.mp clean
      have later := ih further
      rcases Node.cases_of_cleanBetween here with ⟨-, rfl⟩ | ⟨literal, outcome⟩
      · exact .cons moves later
      -- A text leaves the level as it is, whether it is kept, shortened or dropped.
      · rw [moves.of_literal literal] at later
        rcases outcome with rfl | ⟨kept, rfl, keptLiteral, -⟩
        · exact later
        · refine .cons (.other ?_) later
          rintro block rfl
          cases keptLiteral

/-- The nodes of a source lead from no open block to none. -/
theorem levelled_of_cleanNodes {options : Options} {source : String}
    (cleans : cleanNodes options source = .ok cleaned) : Levelled 0 cleaned 0 := by
  obtain ⟨nodes, parses, clean⟩ := cleanNodes_eq_ok_iff.mp cleans
  obtain ⟨succeeds, rfl⟩ := Parse.result_eq_ok.mp parses
  obtain ⟨final, reached, same⟩ := Parse.exists_reaches options (Feed.ofText options source)
  have closed : final.context.openBlocks = [] := by
    rw [same]
    exact Parse.openBlocks_of_run succeeds
  obtain ⟨segments, places⟩ := reached.exists_places
  have levelled := places.levelled rfl
  rw [closed] at levelled
  exact levelled.of_cleanAfter clean

end Parsing

section Nesting

variable {level next last : Nat} {node : Node} {nodes before : List Node} {places : List Nat}
  {place : Nat}

/-- The number of open blocks is that of the openings without a closing. -/
theorem Node.Moves.exists_opened (moves : node.Moves level next) {roles : List Role}
    (opened : Opened roles places) (count : places.length = level) :
    ∃ places', Opened (roles ++ [node.role]) places' ∧ places'.length = next := by
  have plain (notOpens : node.role ≠ .opens) (notCloses : node.role ≠ .closes) :
      Opened (roles ++ [node.role]) places :=
    opened.append_plain notOpens notCloses
  cases moves with
  | @opens _ block role _ =>
      rw [show (Node.block block).role = .opens from role]
      exact ⟨_, opened.append_opens, by simp [count]⟩
  | @closes _ block role _ =>
      rw [show (Node.block block).role = .closes from role]
      rcases List.eq_nil_or_concat places with rfl | ⟨outer, place, rfl⟩
      · cases count
      · rw [List.concat_eq_append] at opened
        rw [List.length_concat] at count
        exact ⟨outer, opened.append_closes, Nat.succ_injective count⟩
  | continues role _ | statement role _ =>
      exact ⟨places, plain (by simp [Node.role, role]) (by simp [Node.role, role]), count⟩
  | other noBlock =>
      have role : node.role = .statement := by
        by_contra other
        obtain ⟨block, same⟩ := node.exists_block other
        exact noBlock block same
      exact ⟨places, plain (by simp [role]) (by simp [role]), count⟩

theorem Levelled.exists_opened (levelled : Levelled level nodes last)
    (opened : Opened (roles before) places) (count : places.length = level) :
    ∃ places', Opened (roles (before ++ nodes)) places' ∧ places'.length = last := by
  induction levelled generalizing before places with
  | nil =>
      rw [List.append_nil]
      exact ⟨places, opened, count⟩
  | @cons _ _ _ node _ moves _ ih =>
      obtain ⟨places', opened', count'⟩ := moves.exists_opened opened count
      rw [← roles_concat] at opened'
      rw [List.append_cons]
      exact ih opened' count'

/-- Where all blocks are closed in the end, the number of open blocks at a node that is none is
that of the pairs around it. -/
theorem Levelled.ncard_around {here : Nat} (levelled : Levelled 0 nodes 0)
    (before : Levelled 0 (nodes.take place) here) (is : nodes[place]? = some node)
    (noBlock : ∀ block, node ≠ .block block) : (around (roles nodes) place).ncard = here := by
  -- The openings without a closing before the node all have one after it, since none is left
  -- at the end.
  have start : Opened (roles []) [] := .closed .nil
  obtain ⟨none, all, empty⟩ := levelled.exists_opened start rfl
  obtain ⟨places, opened, rfl⟩ := before.exists_opened start rfl
  rw [List.nil_append] at all opened
  rw [roles_take] at opened
  rw [List.length_eq_zero_iff] at empty
  rw [empty] at all
  apply opened.ncard_around all.accounted
  intro closes
  rw [getElem?_roles, is] at closes
  obtain ⟨block, same⟩ := node.exists_block (by simp [Option.some.inj closes])
  exact noBlock block same

end Nesting

namespace View

variable {level next last : Nat} {node : Node} {nodes : List Node} {place : Nat}

/-- The view follows the number of open blocks. -/
theorem depthAfter_of_moves (moves : node.Moves level next) : depthAfter level node = next := by
  cases moves with
  | opens role depth => simp [depthAfter, role, depth]
  | closes role depth => simp [depthAfter, shownDepth, role, depth]
  | continues role depth => simp [depthAfter, role, depth]
  | statement role _ => simp [depthAfter, shownDepth, role]
  | other noBlock =>
      cases node with
      | block block => exact absurd rfl (noBlock block)
      | literal _ _ | expression _ _ _ _ | directive _ _ _ _ | placeholder _ => rfl

/-- A block is shown at the depth it carries. -/
theorem exists_shownDepth_block {block : Block} (moves : (Node.block block).Moves level next) :
    ∃ depth : Nat, block.depth = depth ∧ shownDepth level (.block block) = depth := by
  cases moves with
  | opens role depth => exact ⟨level, depth, by simp [shownDepth, role]⟩
  | closes role depth => exact ⟨next, depth, by simp [shownDepth, role, depth]⟩
  | @continues outer _ role depth => exact ⟨outer, depth, by simp [shownDepth, role, depth]⟩
  | statement role depth => exact ⟨level, depth, by simp [shownDepth, role]⟩
  | other noBlock => exact absurd rfl (noBlock block)

/-- Any other node is shown at the number of open blocks. -/
theorem exists_shownDepth (moves : node.Moves level next) :
    ∃ depth : Nat, shownDepth level node = depth ∧
      (∀ block, node = .block block → block.depth = depth) ∧
      ((∀ block, node ≠ .block block) → depth = level) := by
  cases node with
  | block block =>
      obtain ⟨depth, carried, shown⟩ := exists_shownDepth_block moves
      refine ⟨depth, shown, ?_, fun noBlock => absurd rfl (noBlock block)⟩
      rintro _ ⟨⟩
      exact carried
  | literal _ _ | expression _ _ _ _ | directive _ _ _ _ | placeholder _ =>
      exact ⟨level, rfl, nofun, fun _ => rfl⟩

theorem length_treeLines (depth : Int) (nodes : List Node) :
    (treeLines depth nodes).length = nodes.length := by
  induction nodes generalizing depth with
  | nil => rfl
  | cons node rest ih => rw [treeLines, List.length_cons, ih, List.length_cons]

/-- The line of a node is indented by the number of blocks that are open when it is reached. -/
theorem exists_treeLine (levelled : Levelled level nodes last) (is : nodes[place]? = some node) :
    ∃ here next, Levelled level (nodes.take place) here ∧ node.Moves here next ∧
      (treeLines level nodes)[place]? =
        some (indentation (shownDepth here node) ++ treeLabel node) := by
  induction levelled generalizing place with
  | nil => cases is
  | @cons level next _ first rest moves _ ih =>
      cases place with
      | zero =>
          obtain rfl := Option.some.inj is
          exact ⟨level, next, .nil, moves, rfl⟩
      | succ place =>
          obtain ⟨here, after, before, moves', line⟩ := ih is
          refine ⟨here, after, .cons moves before, moves', ?_⟩
          rw [treeLines, depthAfter_of_moves moves, List.getElem?_cons_succ]
          exact line

theorem treeLabel_ne_empty (node : Node) : treeLabel node ≠ "" := by
  cases node <;> simp [treeLabel, toString]

/-- A label starts with the word for the kind of node, so that all spaces before are indentation. -/
theorem head?_treeLabel (node : Node) : (treeLabel node).toList.head? ≠ some ' ' := by
  cases node <;> simp [treeLabel, toString]

/-- A label has no line break in it: code and texts are quoted in it. -/
theorem not_mem_treeLabel {c : Char} (breaks : c ∈ Text.lineBreaks) (clear : node.Clear c) :
    c ∉ (treeLabel node).toList := by
  have plain {text : String} (printable : text.toList.all Text.isPrintable = true) :
      c ∉ text.toList :=
    Text.not_mem_of_isPrintable breaks (List.all_eq_true.mp printable)
  have inQuotes (text : String) : c ∉ (Text.quoted text).toList := Text.not_mem_quoted breaks text
  cases node with
  | literal span text =>
      simp only [treeLabel, toString, String.toList_append, List.mem_append, not_or]
      exact ⟨⟨plain (by decide), inQuotes _⟩, plain (by decide)⟩
  | expression span code escaping escaper =>
      have word : c ∉ escaping.word.toList := by cases escaping <;> exact plain (by decide)
      simp only [treeLabel, toString, String.toList_append, List.mem_append, not_or]
      exact ⟨⟨⟨⟨plain (by decide), inQuotes _⟩, plain (by decide)⟩, word⟩, plain (by decide)⟩
  | block block =>
      have word : c ∉ block.role.word.toList := by cases block.role <;> exact plain (by decide)
      simp only [treeLabel, toString, String.toList_append, List.mem_append, not_or]
      exact ⟨⟨⟨⟨plain (by decide), word⟩, plain (by decide)⟩, inQuotes _⟩, plain (by decide)⟩
  | directive span name args cleaning =>
      have words : c ∉ (directiveText name args).toList :=
        Text.not_mem_intercalate (plain (by decide)) clear
      simp only [treeLabel, toString, String.toList_append, List.mem_append, not_or]
      exact ⟨⟨plain (by decide), words⟩, plain (by decide)⟩
  | placeholder span =>
      rw [treeLabel]
      exact plain (by decide)

theorem forall_mem_treeLines {Good : String → Prop}
    (good : ∀ node ∈ nodes, ∀ depth, Good (indentation depth ++ treeLabel node)) (depth : Int) :
    ∀ line ∈ treeLines depth nodes, Good line := by
  induction nodes generalizing depth with
  | nil => simp [treeLines]
  | cons node rest ih =>
      rw [List.forall_mem_cons] at good
      rw [treeLines, List.forall_mem_cons]
      exact ⟨good.1 _, ih good.2 _⟩

/-- The lines of the tree view are those of the nodes. -/
theorem linesOf_tree (clear : ∀ c ∈ Text.lineBreaks, ∀ node ∈ nodes, node.Clear c) :
    Text.linesOf (tree nodes) = treeLines 0 nodes ∧
      ∀ line ∈ treeLines 0 nodes, ∀ c ∈ line.toList, c ∉ Text.lineBreaks := by
  have unbroken : ∀ line ∈ treeLines 0 nodes, ∀ c ∈ line.toList, c ∉ Text.lineBreaks := by
    apply forall_mem_treeLines
    intro node listed depth c present breaks
    rw [String.toList_append, List.mem_append, indentation, String.toList_ofList] at present
    rcases present with space | inLabel
    · rw [List.eq_of_mem_replicate space] at breaks
      revert breaks
      decide
    · exact not_mem_treeLabel breaks (clear c breaks node listed) inLabel
  refine ⟨Text.linesOf_joinLines ?_ ?_, unbroken⟩
  · intro empty
    have solid : ∀ line ∈ treeLines 0 nodes, line ≠ "" := by
      apply forall_mem_treeLines
      intro node listed depth none
      rw [String.append_eq_empty_iff] at none
      exact treeLabel_ne_empty node none.2
    exact solid "" empty rfl
  · intro line listed broken
    exact unbroken line listed '\n' broken (by decide)

end View

/-- The tree view of a source has one line for each node, in their order, and none besides. The
line of a block is indented by two spaces for each unit of its depth, and that of any other node
by two spaces for each pair of an opening and a closing around it. -/
theorem tree_indents_by_nesting {options : Options} {source : String} {nodes : List Node}
    (cleaned : cleanNodes options source = .ok nodes) :
    (View.tree nodes = "" ↔ nodes = []) ∧
    (Text.linesOf (View.tree nodes)).length = nodes.length ∧
    ∀ (place : Nat) (node : Node), nodes[place]? = some node →
      ∃ (line : String) (depth : Nat), (Text.linesOf (View.tree nodes))[place]? = some line ∧
        line.toList = List.replicate (2 * depth) ' ' ++ (View.treeLabel node).toList ∧
        (View.treeLabel node).toList.head? ≠ some ' ' ∧
        (∀ c ∈ line.toList, c ∉ Text.lineBreaks) ∧
        (∀ block, node = .block block → block.depth = depth) ∧
        ((∀ block, node ≠ .block block) → depth = (around (roles nodes) place).ncard) := by
  have levelled := levelled_of_cleanNodes cleaned
  obtain ⟨lines, unbroken⟩ := View.linesOf_tree fun c breaks =>
    clear_of_cleanNodes (Text.unused_of_mem_lineBreaks breaks) cleaned
  rw [lines]
  refine ⟨⟨?_, ?_⟩, View.length_treeLines 0 nodes, ?_⟩
  · intro empty
    rw [empty] at lines
    rw [← List.length_eq_zero_iff, ← View.length_treeLines 0 nodes, ← lines]
    rfl
  · rintro rfl
    rfl
  · intro place node is
    obtain ⟨here, next, before, moves, line⟩ := View.exists_treeLine levelled is
    obtain ⟨depth, shown, ofBlock, ofOther⟩ := View.exists_shownDepth moves
    refine ⟨_, depth, line, ?_, View.head?_treeLabel node, ?_, ofBlock, ?_⟩
    · rw [shown, String.toList_append, View.indentation, String.toList_ofList, Int.toNat_natCast]
    · exact unbroken _ (List.mem_of_getElem? line)
    · intro noBlock
      rw [ofOther noBlock, levelled.ncard_around before is noBlock]

/-- Cleaning drops the space before the inner block, and its expression stays two deep. -/
theorem tree_indents_by_nesting_inner :
    let source :=
      "<#@ cleanws block #><# if a #> <# for b in c #><#= d #><# end #><# else #>e<# end #>"
    let nodes : List Node :=
      [.directive (Span.sized 0 20) "cleanws" ["block"] .block,
        .block ⟨Span.sized 20 10, "if a", .opens, 0, some "if", .block⟩,
        .block ⟨Span.sized 31 16, "for b in c", .opens, 1, some "for", .block⟩,
        .expression (Span.sized 47 8) "d" .auto none,
        .block ⟨Span.sized 55 9, "end", .closes, 1, some "for", .block⟩,
        .block ⟨Span.sized 64 10, "else", .continues, 0, some "else", .block⟩,
        .literal (Span.sized 74 1) "e",
        .block ⟨Span.sized 75 9, "end", .closes, 0, some "if", .block⟩]
    cleanNodes {} source = .ok nodes ∧ View.tree nodes ≠ "" ∧
      (Text.linesOf (View.tree nodes)).length = 8 ∧
      (Text.linesOf (View.tree nodes))[3]? = some "    Expression('d', auto)" ∧
      (around (roles nodes) 3).ncard = 2 := by
  intro source nodes
  have cleaned : cleanNodes {} source = .ok nodes := by decide +kernel
  obtain ⟨empty, length, each⟩ := tree_indents_by_nesting cleaned
  obtain ⟨line, depth, stands, spelled, -, -, -, pairs⟩ := each 3 _ rfl
  have shown : (Text.linesOf (View.tree nodes))[3]? = some "    Expression('d', auto)" := by
    decide +kernel
  cases stands.symm.trans shown
  have label : View.treeLabel (.expression (Span.sized 47 8) "d" .auto none) =
      "Expression('d', auto)" := by
    decide +kernel
  have deep := congrArg List.length spelled
  rw [label, List.length_append, List.length_replicate] at deep
  have sizes : "    Expression('d', auto)".toList.length = 25 ∧
      "Expression('d', auto)".toList.length = 21 := by
    decide +kernel
  refine ⟨cleaned, empty.not.mpr (List.cons_ne_nil _ _), length, shown, ?_⟩
  rw [← pairs (by rintro block ⟨⟩)]
  omega

end Stencil
