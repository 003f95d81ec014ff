/-
# Writing a template

A template can be written piece by piece: text with its openers doubled, code between an
opener and a closer with its closers doubled. Scanning what was written gives the pieces
back. The work is at the seams, where the end of one piece and the start of the next
could make a delimiter that neither of them has, or go on with one that should end.

Doubling is harmless to anything that cannot run into a delimiter (`Foreign`): such a
part stands in front of a doubled text only if it stands in front of the text itself. The
standard delimiters run neither into themselves nor into each other, with one exception.
A code block that is a single `<` makes, with its closer, an opener, so that what should
start the block is read as a doubled opener.
-/

import Mathlib.Data.List.Chain
import Stencil.Proofs.Construct

namespace Stencil

/-- No end of a part can be the start of a delimiter, or start with one. -/
def Foreign (delimiter : List Char) : List Char → Prop
  | [] => True
  | c :: cs => ¬ c :: cs <+: delimiter ∧ ¬ delimiter <+: c :: cs ∧ Foreign delimiter cs

instance Foreign.decidable (delimiter : List Char) :
    (part : List Char) → Decidable (Foreign delimiter part)
  | [] => isTrue trivial
  | c :: cs =>
    have := Foreign.decidable delimiter cs
    inferInstanceAs (Decidable (¬ c :: cs <+: delimiter ∧ ¬ delimiter <+: c :: cs ∧ _))

section Double

variable {delimiter : List Char}

/-- Nothing or a delimiter follows. -/
def Bounded (delimiter tail : List Char) : Prop :=
  tail = [] ∨ delimiter <+: tail

/-- Where a delimiter stands, nothing starts that is foreign to it. -/
theorem Foreign.eq_nil_of_prefix {part cs : List Char} (foreign : Foreign delimiter part)
    (found : delimiter <+: cs) (stands : part <+: cs) : part = [] := by
  cases part with
  | nil => rfl
  | cons c others =>
      rcases List.prefix_or_prefix_of_prefix stands found with inside | beyond
      · exact absurd inside foreign.1
      · exact absurd beyond foreign.2.1

/-- What is foreign to a delimiter starts a doubled text only if it starts the text. -/
theorem Foreign.prefix_of_prefix_double (nonempty : delimiter ≠ []) {part : List Char}
    (foreign : Foreign delimiter part) {cs tail : List Char} (bounded : Bounded delimiter tail)
    (stands : part <+: double delimiter cs ++ tail) : part <+: cs := by
  induction part generalizing cs with
  | nil => exact List.nil_prefix
  | cons c others ih =>
      by_cases found : delimiter <+: cs
      · obtain ⟨rest, rfl⟩ := found
        rw [double_append nonempty, List.append_assoc, List.append_assoc] at stands
        exact absurd (foreign.eq_nil_of_prefix (List.prefix_append _ _) stands) (by simp)
      · cases cs with
        | nil =>
            rw [double_nil, List.nil_append] at stands
            rcases bounded with rfl | found
            · exact stands
            · exact absurd (foreign.eq_nil_of_prefix found stands) (by simp)
        | cons first rest =>
            rw [double_cons found, List.cons_append, List.cons_prefix_cons] at stands
            rw [List.cons_prefix_cons]
            exact ⟨stands.1, ih foreign.2.2 stands.2⟩

/-- Doubling keeps the first character. -/
theorem exists_double_cons (nonempty : delimiter ≠ []) (c : Char) (cs : List Char) :
    ∃ others, double delimiter (c :: cs) = c :: others := by
  by_cases found : delimiter <+: c :: cs
  · obtain ⟨rest, split⟩ := found
    rw [← split, double_append nonempty]
    cases delimiter with
    | nil => exact absurd rfl nonempty
    | cons first others =>
        obtain ⟨rfl, -⟩ := List.cons.inj split
        exact ⟨_, rfl⟩
  · exact ⟨_, double_cons found⟩

/-- A doubled text is read back, up to what follows it. -/
theorem Stretch.reads_double (nonempty : delimiter ≠ [])
    (foreign : Foreign delimiter delimiter.tail) {tail : List Char} (bounded : Bounded delimiter tail)
    (single : ¬ delimiter ++ delimiter <+: tail) (cs : List Char) :
    Reads delimiter true (double delimiter cs ++ tail)
      ⟨cs, (double delimiter cs).length, tail⟩ := by
  induction hsize : cs.length using Nat.strongRecOn generalizing cs with
  | ind size ih =>
      by_cases found : delimiter <+: cs
      · obtain ⟨rest, rfl⟩ := found
        have shorter : rest.length < size := by
          have := List.length_pos_iff.mpr nonempty
          rw [← hsize, List.length_append]
          omega
        have further := Reads.doubled rfl (ih _ shorter rest rfl)
        rw [double_append nonempty, List.append_assoc _ _ tail]
        simpa only [List.length_append, Nat.two_mul] using further
      · cases cs with
        | nil =>
            rw [double_nil, List.nil_append]
            rcases bounded with rfl | found
            · exact .ended
            · exact .stopped (fun _ => single) found
        | cons c rest =>
            have absent : ¬ delimiter <+: c :: (double delimiter rest ++ tail) := by
              intro stands
              apply found
              cases delimiter with
              | nil => exact absurd rfl nonempty
              | cons first others =>
                  rw [List.cons_prefix_cons] at stands ⊢
                  exact ⟨stands.1, foreign.prefix_of_prefix_double nonempty bounded stands.2⟩
            have further := Reads.passed absent (ih _ (hsize ▸ Nat.lt_succ_self _) rest rfl)
            rw [double_cons found, List.cons_append]
            simpa only [List.length_cons, Nat.add_comm] using further

end Double

/-- The kind and the text of a token. -/
def Token.content (token : Token) : TokenKind × String :=
  (token.kind, token.value)

/-- A construct with its code, as it is written. -/
def Construct.write (delimiters : Delimiters) (construct : Construct) (code : List Char) :
    List Char :=
  (construct.opener delimiters).toList ++
    (double delimiters.closer.toList code ++ delimiters.closer.toList)

/-- What a template is written from. -/
inductive Piece
  | text (value : String)
  | expression (code : String)
  | block (code : String)
  deriving DecidableEq

namespace Piece

/-- A piece as it is written. -/
def write (delimiters : Delimiters) : Piece → List Char
  | .text value => double delimiters.opener.toList value.toList
  | .expression code => Construct.expression.write delimiters code.toList
  | .block code => Construct.block.write delimiters code.toList

/-- The tokens of a piece, without their places. -/
def contents (delimiters : Delimiters) : Piece → List (TokenKind × String)
  | .text value => [(.text, value)]
  | .expression code =>
    [(.expressionOpen, delimiters.expressionOpener), (.code, code),
      (.expressionClose, delimiters.closer)]
  | .block code =>
    [(.blockOpen, delimiters.opener), (.code, code), (.blockClose, delimiters.closer)]

/-- A piece that says what it is: a text is not empty, and the code of a block neither
starts like something else nor reads as a directive. -/
def Clear (options : Options) : Piece → Prop
  | .text value => value ≠ ""
  | .expression _ => True
  | .block code =>
    ¬ options.delimiters.expressionMark.toList <+: code.toList ∧
    ¬ options.delimiters.directiveMark.toList <+: code.toList ∧
    ¬ options.delimiters.opener.toList <+: code.toList ∧
    (options.bareDirectives = true → Fragment.bareDirective? code.toList = none)

instance (options : Options) : (piece : Piece) → Decidable (piece.Clear options)
  | .text value => inferInstanceAs (Decidable (value ≠ ""))
  | .expression _ => isTrue trivial
  | .block _ => inferInstanceAs (Decidable (_ ∧ _ ∧ _ ∧ (_ → _)))

/-- Whether a piece can follow another. Two texts would be one, and a text that starts
with a closer would double the closer before it. -/
def Follows (delimiters : Delimiters) : Piece → Piece → Prop
  | .text _, .text _ => False
  | .text _, _ => True
  | _, .text value => ¬ delimiters.closer.toList <+: value.toList
  | _, _ => True

instance (delimiters : Delimiters) :
    (piece next : Piece) → Decidable (Follows delimiters piece next)
  | .text _, .text _ => isFalse id
  | .text _, .expression _ | .text _, .block _ => isTrue trivial
  | .expression _, .text value | .block _, .text value =>
    inferInstanceAs (Decidable (¬ delimiters.closer.toList <+: value.toList))
  | .expression _, .expression _ | .expression _, .block _ => isTrue trivial
  | .block _, .expression _ | .block _, .block _ => isTrue trivial

end Piece

/-- What is written for a construct starts with an opener. -/
theorem Construct.opener_prefix_write (delimiters : Delimiters) (construct : Construct)
    (code after : List Char) :
    delimiters.opener.toList <+: construct.write delimiters code ++ after := by
  have opener : delimiters.opener.toList <+: (construct.opener delimiters).toList := by
    cases construct with
    | expression | directive =>
        simp [Construct.opener, Delimiters.expressionOpener, Delimiters.directiveOpener]
    | block => exact List.prefix_rfl
  rw [write, List.append_assoc]
  exact opener.trans (List.prefix_append _ _)

namespace Delimiters

/-- The standard opener is not made by code and the closer after it, unless the code is
all but the last character of it. -/
theorem not_opener_prefix_code {code after : List Char}
    (inside : ¬ standard.opener.toList <+: code) (whole : code ≠ ['<']) :
    ¬ standard.opener.toList <+:
      double standard.closer.toList code ++ (standard.closer.toList ++ after) := by
  have opener : standard.opener.toList = ['<', '#'] := by decide
  have closer : standard.closer.toList = ['#', '>'] := by decide
  rw [opener] at inside ⊢
  rw [closer]
  have kept := exists_double_cons (List.cons_ne_nil '#' ['>'])
  intro stands
  cases code with
  | nil => simp at stands
  | cons first rest =>
      obtain ⟨others, same⟩ := kept first rest
      obtain rfl : '<' = first := by
        rw [same] at stands
        exact (List.cons_prefix_cons.mp stands).1
      rw [double_cons (by simp), List.cons_append, List.cons_prefix_cons] at stands
      cases rest with
      | nil =>
          -- Here the closer would go on with the opener.
          exact whole rfl
      | cons second rest =>
          obtain ⟨others, same⟩ := kept second rest
          rw [same, List.cons_append, List.cons_prefix_cons] at stands
          obtain rfl := stands.2.1
          exact inside (by simp)

end Delimiters

namespace Construct

open Delimiters (standard)

/-- What is written as an expression is recognised as one. -/
theorem recognise_write_expression (code after : List Char) :
    recognise standard (expression.write standard code ++ after) = .expression := by
  have found : standard.expressionOpener.toList <+: expression.write standard code ++ after := by
    rw [write, List.append_assoc]
    exact List.prefix_append _ _
  rw [recognise, if_pos (List.isPrefixOf_iff_prefix.mpr found)]

/-- What is written as a block is recognised as one, if its code does not start with a
mark. -/
theorem recognise_write_block {code : List Char}
    (notExpression : ¬ standard.expressionMark.toList <+: code)
    (notDirective : ¬ standard.directiveMark.toList <+: code) (after : List Char) :
    recognise standard (block.write standard code ++ after) = .block := by
  have unmarked : ∀ {mark : List Char}, Foreign standard.closer.toList mark → ¬ mark <+: code →
      ¬ standard.opener.toList ++ mark <+: block.write standard code ++ after := by
    intro mark foreign absent stands
    rw [write, List.append_assoc, opener, List.prefix_append_right_inj, List.append_assoc] at stands
    exact absent (foreign.prefix_of_prefix_double standard.closer_toList_ne
      (.inr (List.prefix_append _ _)) stands)
  rw [recognise, if_neg, if_neg]
  · rw [List.isPrefixOf_iff_prefix, Delimiters.directiveOpener, String.toList_append]
    exact unmarked (by decide) notDirective
  · rw [List.isPrefixOf_iff_prefix, Delimiters.expressionOpener, String.toList_append]
    exact unmarked (by decide) notExpression

end Construct

namespace Piece

open Delimiters (standard)

/-- Pieces as they are written, one after the other. -/
def writeAll (delimiters : Delimiters) (pieces : List Piece) : List Char :=
  pieces.flatMap (write delimiters)

variable {options : Options} {piece : Piece} {pieces : List Piece}

/-- Whether a piece is literal text. -/
def IsText : Piece → Prop
  | .text _ => True
  | _ => False

/-- Pieces that do not start with a text are written from an opener on. -/
theorem bounded_writeAll (delimiters : Delimiters)
    (coded : ∀ piece ∈ pieces.head?, ¬ piece.IsText) :
    Bounded delimiters.opener.toList (writeAll delimiters pieces) := by
  cases pieces with
  | nil => exact .inl rfl
  | cons piece others =>
      refine .inr ?_
      cases piece with
      | text value => exact absurd trivial (coded _ rfl)
      | expression code => exact Construct.opener_prefix_write delimiters .expression _ _
      | block code => exact Construct.opener_prefix_write delimiters .block _ _

theorem Follows.not_text {delimiters : Delimiters} {value : String}
    (follows : Follows delimiters (.text value) piece) : ¬ piece.IsText := by
  cases piece with
  | text value => exact absurd follows id
  | expression code | block code => exact id

/-- What follows a construct does not double its closer. -/
theorem not_closer_prefix_writeAll (coded : ¬ piece.IsText)
    (chain : (piece :: pieces).IsChain (Follows standard)) :
    ¬ standard.closer.toList <+: writeAll standard pieces := by
  have foreign : Foreign standard.opener.toList standard.closer.toList := by decide
  have nonempty := standard.closer_toList_ne
  intro stands
  cases pieces with
  | nil => exact nonempty (List.prefix_nil.mp stands)
  | cons next others =>
      obtain ⟨follows, further⟩ := List.isChain_cons_cons.mp chain
      cases next with
      | text value =>
          have bounded := bounded_writeAll standard fun later listed =>
            ((List.isChain_cons.mp further).1 later listed).not_text
          have starts := foreign.prefix_of_prefix_double standard.opener_toList_ne bounded stands
          cases piece with
          | text value => exact coded trivial
          | expression code | block code => exact follows starts
      | expression code | block code =>
          exact nonempty (foreign.eq_nil_of_prefix
            (Construct.opener_prefix_write standard _ _ _) stands)

/-- An opener that starts a construct is not read as a doubled one. -/
theorem not_doubled_write (isStandard : options.delimiters = standard) (clear : piece.Clear options)
    (coded : ¬ piece.IsText) (whole : piece ≠ .block "<") (after : List Char) :
    ¬ standard.opener.toList ++ standard.opener.toList <+: piece.write standard ++ after := by
  intro stands
  cases piece with
  | text value => exact coded trivial
  | expression code =>
      rw [write, Construct.write, Construct.opener, Delimiters.expressionOpener,
        String.toList_append, List.append_assoc, List.append_assoc,
        List.prefix_append_right_inj] at stands
      exact absurd (List.cons_prefix_cons.mp stands).1 (by decide)
  | block code =>
      rw [write, Construct.write, Construct.opener, List.append_assoc,
        List.prefix_append_right_inj, List.append_assoc] at stands
      refine Delimiters.not_opener_prefix_code (isStandard ▸ clear.2.2.1) ?_ stands
      intro lone
      exact whole (congrArg block (String.toList_inj.mp lone))

/-- The token of a text that may be empty, without its place. -/
def pendingContents (pending : List Char) : List (TokenKind × String) :=
  if pending.isEmpty then [] else [(.text, String.ofList pending)]

end Piece

namespace Scan

open Delimiters (standard)

variable {options : Options} {pending code after : List Char} {construct : Construct}
  {piece : Piece}

theorem map_content_literal (text : Stretch) (offset : Nat) :
    (literal text offset).map Token.content = Piece.pendingContents text.value := by
  unfold literal Piece.pendingContents
  split <;> rfl

/-- Text and a construct after it, as they are written, are passed in one step. -/
theorem exists_step_of_construct (isStandard : options.delimiters = standard)
    (doubles : options.doubling = true)
    (single : ¬ standard.opener.toList ++ standard.opener.toList <+:
      construct.write standard code ++ after)
    (recognised : Construct.recognise standard (construct.write standard code ++ after) = construct)
    (apart : ¬ standard.closer.toList <+: after) {openKind closeKind : TokenKind}
    (accepted : ∀ fragment : Fragment, fragment.construct = construct → fragment.code = code →
      fragment.tokens options =
        .ok (fragment.delimitedTokens options.delimiters openKind closeKind))
    (pending : List Char) (offset : Nat) :
    ∃ batch, step options offset
        (double standard.opener.toList pending ++ (construct.write standard code ++ after)) =
          .more batch after ∧
      batch.tokens.map Token.content = Piece.pendingContents pending ++
        [(openKind, construct.opener standard), (.code, String.ofList code),
          (closeKind, standard.closer)] := by
  have readsText := Stretch.reads_double standard.opener_toList_ne (by decide)
    (.inr (construct.opener_prefix_write standard code after)) single pending
  have alone : ¬ standard.closer.toList ++ standard.closer.toList <+:
      standard.closer.toList ++ after := by
    rwa [List.prefix_append_right_inj]
  have readsCode := Stretch.reads_double standard.closer_toList_ne (by decide)
    (.inr (List.prefix_append standard.closer.toList after)) alone code
  rw [← isStandard] at readsText readsCode recognised ⊢
  rw [← doubles] at readsText readsCode
  let passage : Passage options (double options.delimiters.opener.toList pending ++
      (construct.write options.delimiters code ++ after)) :=
    ⟨⟨_, construct, _, readsText, recognised.symm, by simp [Construct.write]⟩, _, after, readsCode,
      rfl⟩
  have passes := passage.step_eq offset
  rw [accepted (passage.fragment offset) rfl rfl] at passes
  refine ⟨_, passes, ?_⟩
  rw [Passage.batch, List.map_append, map_content_literal]
  rfl

/-- A step passes a piece of code, with the text before it. -/
theorem exists_step (isStandard : options.delimiters = standard) (doubles : options.doubling = true)
    (clear : piece.Clear options) (coded : ¬ piece.IsText) (whole : piece ≠ .block "<")
    (apart : ¬ standard.closer.toList <+: after) (pending : List Char) (offset : Nat) :
    ∃ batch, step options offset
        (double standard.opener.toList pending ++ (piece.write standard ++ after)) =
          .more batch after ∧
      batch.tokens.map Token.content =
        Piece.pendingContents pending ++ piece.contents standard := by
  have single := Piece.not_doubled_write isStandard clear coded whole after
  cases piece with
  | text value => exact absurd trivial coded
  | expression code =>
      have recognised := Construct.recognise_write_expression code.toList after
      have accepted : ∀ fragment : Fragment, fragment.construct = .expression →
          fragment.code = code.toList → fragment.tokens options =
            .ok (fragment.delimitedTokens options.delimiters .expressionOpen .expressionClose) := by
        intro fragment construct _
        simp only [Fragment.tokens, construct]
      have passes := exists_step_of_construct isStandard doubles single recognised apart accepted
        pending offset
      rwa [String.ofList_toList] at passes
  | block code =>
      obtain ⟨notExpression, notDirective, -, notBare⟩ := clear
      rw [isStandard] at notExpression notDirective
      have recognised := Construct.recognise_write_block notExpression notDirective after
      have accepted : ∀ fragment : Fragment, fragment.construct = .block →
          fragment.code = code.toList → fragment.tokens options =
            .ok (fragment.delimitedTokens options.delimiters .blockOpen .blockClose) := by
        intro fragment construct inside
        have unread :
            (if options.bareDirectives then Fragment.bareDirective? code.toList else none) =
              none := by
          split
          · rename_i on
            exact notBare on
          · rfl
        simp only [Fragment.tokens, construct, inside, unread]
      have passes := exists_step_of_construct isStandard doubles single recognised apart accepted
        pending offset
      rwa [String.ofList_toList] at passes

/-- A scan that gets to the end of its source with these tokens. -/
def Shows (scan : Scan) (contents : List (TokenKind × String)) : Prop :=
  scan.failure = none ∧ scan.tokens.map Token.content = contents

theorem Shows.deliver {scan : Scan} {batch : Batch} {contents : List (TokenKind × String)}
    (further : scan.Shows contents) :
    (deliver batch scan).Shows (batch.tokens.map Token.content ++ contents) := by
  refine ⟨further.1, ?_⟩
  rw [tokens_deliver, List.map_append, further.2]

theorem shows_of_double (isStandard : options.delimiters = standard)
    (doubles : options.doubling = true) (pending : List Char) (offset : Nat) :
    (scanFrom options offset (double standard.opener.toList pending)).Shows
      (Piece.pendingContents pending ++ [(.endOfInput, "")]) := by
  have reads := Stretch.reads_double standard.opener_toList_ne (by decide) (.inl rfl)
    (by simpa using standard.opener_ne) pending
  rw [List.append_nil, ← isStandard, ← doubles] at reads
  rw [← isStandard, scanFrom_of_final (step_of_ended reads rfl offset)]
  refine ⟨rfl, ?_⟩
  simp [tokens, map_content_literal, Token.content, ending]

/-- Pieces are scanned one by one. A text is held back until what follows it is passed. -/
theorem shows_of_writeAll (isStandard : options.delimiters = standard)
    (doubles : options.doubling = true) {pieces : List Piece}
    (clear : ∀ piece ∈ pieces, piece.Clear options) (whole : .block "<" ∉ pieces)
    (chain : pieces.IsChain (Piece.Follows standard)) (pending : List Char)
    (ready : pending = [] ∨ ∀ piece ∈ pieces.head?, ¬ piece.IsText) (offset : Nat) :
    (scanFrom options offset
        (double standard.opener.toList pending ++ Piece.writeAll standard pieces)).Shows
      (Piece.pendingContents pending ++
        (pieces.flatMap (Piece.contents standard) ++ [(.endOfInput, "")])) := by
  -- A step passes a text together with the construct after it, so a text is carried over to
  -- the next piece as pending.
  induction pieces generalizing pending offset with
  | nil =>
      rw [Piece.writeAll, List.flatMap_nil, List.append_nil]
      exact shows_of_double isStandard doubles pending offset
  | cons piece others ih =>
      rw [List.forall_mem_cons] at clear
      rw [List.mem_cons, not_or] at whole
      obtain ⟨follows, chain'⟩ := List.isChain_cons.mp chain
      rw [Piece.writeAll, List.flatMap_cons, ← Piece.writeAll, List.flatMap_cons]
      by_cases isText : piece.IsText
      · cases piece with
        | expression code | block code => exact absurd isText id
        | text value =>
            obtain rfl : pending = [] := by
              rcases ready with none | coded
              · exact none
              · exact absurd trivial (coded _ rfl)
            have nonempty : value.toList.isEmpty = false := by
              rw [List.isEmpty_eq_false_iff, ne_eq, String.toList_eq_nil_iff]
              exact clear.1
            have further := ih clear.2 whole.2 chain' value.toList
              (.inr fun next listed => (follows next listed).not_text) offset
            rw [Piece.pendingContents, nonempty, String.ofList_toList] at further
            rw [double_nil]
            exact further
      · have apart := Piece.not_closer_prefix_writeAll isText chain
        obtain ⟨batch, passes, contents⟩ :=
          exists_step isStandard doubles clear.1 isText (Ne.symm whole.1) apart pending offset
        have further := ih clear.2 whole.2 chain' [] (.inl rfl) batch.position
        rw [double_nil, List.nil_append] at further
        rw [scanFrom_of_more passes, List.append_assoc,
          ← List.append_assoc (Piece.pendingContents _), ← contents]
        exact further.deliver

end Scan

/-- Scanning what was written gives the pieces back. -/
theorem scan_write (options : Options) (pieces : List Piece)
    (isStandard : options.delimiters = .standard) (doubles : options.doubling = true)
    (clear : ∀ piece ∈ pieces, piece.Clear options) (whole : .block "<" ∉ pieces)
    (chain : pieces.IsChain (Piece.Follows .standard)) :
    ∃ tokens,
      (Scan.ofText options (String.ofList (Piece.writeAll .standard pieces))).complete =
        .ok tokens ∧
      tokens.map Token.content =
        pieces.flatMap (Piece.contents .standard) ++ [(.endOfInput, "")] := by
  have shows := Scan.shows_of_writeAll isStandard doubles clear whole chain [] (.inl rfl) 0
  rw [double_nil, List.nil_append] at shows
  refine ⟨_, ?_, shows.2⟩
  rw [Scan.complete, Scan.ofText, String.toList_ofList, shows.1]

theorem scan_write_seams :
    let pieces : List Piece :=
      [.text "a<#<", .expression "x#>y#", .block "z#>", .text "#<", .block "#"]
    (∀ piece ∈ pieces, piece.Clear .standard) ∧ .block "<" ∉ pieces ∧
    pieces.IsChain (Piece.Follows .standard) ∧
    ∃ tokens,
      (Scan.ofText .standard (String.ofList (Piece.writeAll .standard pieces))).complete =
        .ok tokens ∧
      tokens.map Token.content =
        pieces.flatMap (Piece.contents .standard) ++ [(.endOfInput, "")] := by
  intro pieces
  have clear : ∀ piece ∈ pieces, piece.Clear .standard := by decide
  have whole : .block "<" ∉ pieces := by decide
  have chain : pieces.IsChain (Piece.Follows .standard) := by decide
  exact ⟨clear, whole, chain, scan_write .standard pieces rfl rfl clear whole chain⟩

/-- A block that is a single `<` is not given back. -/
theorem scan_write_lone_bracket :
    (Piece.block "<").Clear .standard ∧ [Piece.block "<"].IsChain (Piece.Follows .standard) ∧
    ¬ ∃ tokens,
      (Scan.ofText .standard
        (String.ofList (Piece.writeAll .standard [.block "<"]))).complete = .ok tokens ∧
      tokens.map Token.content =
        [Piece.block "<"].flatMap (Piece.contents .standard) ++ [(.endOfInput, "")] := by
  have scanned :
      (Scan.ofText .standard (String.ofList (Piece.writeAll .standard [.block "<"]))).complete =
        .ok [⟨.text, "<#>", Span.sized 0 5, []⟩, Scan.ending 5] := by decide +kernel
  refine ⟨by decide, by decide, ?_⟩
  rintro ⟨tokens, found, contents⟩
  cases scanned.symm.trans found
  revert contents
  decide

end Stencil
