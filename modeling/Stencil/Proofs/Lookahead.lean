/-
# How far ahead a scan looks

A scan looks ahead in four ways: for an opener or a closer that is doubled, for the mark
after an opener, and for the end of a delimiter. None of them reaches further than the length
of one delimiter beyond the end of the construct at which the scan stands. A parser looks no
further than that construct, since it objects to a construct before it asks for another token.

Two sources that agree up to there are therefore scanned and parsed alike up to the construct,
whatever follows. In particular they fail alike if they fail at it: an error found at a
construct cannot be masked by what is written after it. The length of one delimiter matters,
since a closer may turn out to be doubled.
-/

import Stencil.Proofs.Emission

namespace Stencil

section Front

variable {α : Type} {n m : Nat} {first second front : List α}

/-- Two lists that agree in their first elements. -/
def SameFront (n : Nat) (first second : List α) : Prop :=
  second.take n = first.take n

instance [DecidableEq α] : Decidable (SameFront n first second) :=
  inferInstanceAs (Decidable (second.take n = first.take n))

theorem SameFront.mono (same : SameFront n first second) (less : m ≤ n) :
    SameFront m first second := by
  have shorter := congrArg (List.take m) same
  rwa [List.take_take, List.take_take, Nat.min_eq_left less] at shorter

/-- What is short enough stands in front of both or of none. -/
theorem SameFront.prefix_iff (same : SameFront n first second) (short : front.length ≤ n) :
    front <+: second ↔ front <+: first := by
  have cut (whole : List α) : front <+: whole.take n ↔ front <+: whole := by
    rw [List.prefix_take_iff, and_iff_left short]
  rw [← cut second, ← cut first, same]

/-- What both lists start with can be taken off. -/
theorem SameFront.exists_append {tail : List α}
    (same : SameFront (front.length + n) (front ++ tail) second) :
    ∃ tail', second = front ++ tail' ∧ SameFront n tail tail' := by
  obtain ⟨tail', rfl⟩ :=
    (same.prefix_iff (Nat.le_add_right front.length n)).mpr (List.prefix_append front tail)
  unfold SameFront at same
  rw [List.take_length_add_append, List.take_length_add_append] at same
  exact ⟨tail', rfl, List.append_cancel_left same⟩

end Front

/-- Reading up to a delimiter looks at the delimiter, and at as many characters after it. -/
theorem Stretch.Reads.exists_sameFront {delimiter cs cs' : List Char} {doubling : Bool}
    {stretch : Stretch} {n : Nat} (reads : Reads delimiter doubling cs stretch)
    (found : stretch.rest ≠ []) (far : 2 * delimiter.length ≤ n)
    (same : SameFront (stretch.size + n) cs cs') :
    ∃ rest, Reads delimiter doubling cs' ⟨stretch.value, stretch.size, rest⟩ ∧
      SameFront n stretch.rest rest := by
  induction reads generalizing cs' with
  | ended => exact absurd rfl found
  | @doubled tail next on further ih =>
      dsimp only at same
      have whole : SameFront ((delimiter ++ delimiter).length + (next.size + n))
          (delimiter ++ delimiter ++ tail) cs' :=
        same.mono (by rw [List.length_append]; omega)
      obtain ⟨tail', rfl, tails⟩ := whole.exists_append
      obtain ⟨rest, reads, rests⟩ := ih found tails
      exact ⟨rest, .doubled on reads, rests⟩
  | @stopped cs single stops =>
      refine ⟨cs', .stopped ?_ ?_, same.mono (Nat.le_add_left n 0)⟩
      · intro on twice
        refine single on ((same.prefix_iff ?_).mp twice)
        rw [List.length_append]
        omega
      · exact (same.prefix_iff (by omega)).mpr stops
  | @passed c cs next absent further ih =>
      dsimp only at same
      have whole : SameFront ([c].length + (next.size + n)) ([c] ++ cs) cs' :=
        same.mono (by rw [List.length_singleton]; omega)
      obtain ⟨tail', rfl, tails⟩ := whole.exists_append
      obtain ⟨rest, reads, rests⟩ := ih found tails
      refine ⟨rest, .passed ?_ reads, rests⟩
      exact mt (same.prefix_iff (by omega)).mp absent

/-- Where reading has stopped at a delimiter, reading again stops at once. -/
theorem Stretch.Reads.reads_rest {delimiter cs : List Char} {doubling : Bool} {stretch : Stretch}
    (reads : Reads delimiter doubling cs stretch) (found : stretch.rest ≠ []) :
    Reads delimiter doubling stretch.rest ⟨[], 0, stretch.rest⟩ := by
  induction reads with
  | ended => exact absurd rfl found
  | stopped single stops => exact .stopped single stops
  | doubled _ _ ih | passed _ _ ih => exact ih found

/-- The length of the longest of the four texts that delimit constructs. -/
def Delimiters.longest (delimiters : Delimiters) : Nat :=
  max (max delimiters.opener.length delimiters.closer.length)
    (max delimiters.expressionMark.length delimiters.directiveMark.length)

/-- Recognising a construct looks at the opener, and at a mark after it. -/
theorem Construct.recognise_eq_of_sameFront {delimiters : Delimiters} {cs cs' : List Char}
    {n : Nat} (same : SameFront n cs cs')
    (far : delimiters.opener.length + delimiters.longest ≤ n) :
    recognise delimiters cs' = recognise delimiters cs := by
  have test (opener : String) (short : opener.length ≤ n) :
      opener.toList.isPrefixOf cs' = opener.toList.isPrefixOf cs := by
    rw [Bool.eq_iff_iff, List.isPrefixOf_iff_prefix, List.isPrefixOf_iff_prefix]
    exact same.prefix_iff (by rwa [String.length_toList])
  have expression : delimiters.expressionOpener.length ≤ n := by
    rw [Delimiters.expressionOpener, String.length_append]
    simp only [Delimiters.longest] at far
    omega
  have directive : delimiters.directiveOpener.length ≤ n := by
    rw [Delimiters.directiveOpener, String.length_append]
    simp only [Delimiters.longest] at far
    omega
  simp only [recognise, test _ expression, test _ directive]

/-- Every opener is at least as long as that of a block. -/
theorem Construct.length_opener_le (delimiters : Delimiters) (construct : Construct) :
    delimiters.opener.length ≤ (construct.opener delimiters).length := by
  cases construct with
  | expression =>
      rw [opener, Delimiters.expressionOpener, String.length_append]
      exact Nat.le_add_right _ _
  | directive =>
      rw [opener, Delimiters.directiveOpener, String.length_append]
      exact Nat.le_add_right _ _
  | block => exact Nat.le_refl _

namespace Scan

variable {options : Options} {offset : Nat} {cs cs' : List Char}

/-- How much of the source a passage has passed. -/
def Passage.size (passage : Passage options cs) : Nat :=
  passage.text.size + ((passage.construct.opener options.delimiters).toList.length +
    (passage.code.size + options.delimiters.closer.toList.length))

theorem Passage.span_stop (passage : Passage options cs) (offset : Nat) :
    ((passage.fragment offset).span options.delimiters).stop = offset + passage.size := by
  simp [fragment, size, Nat.add_assoc]

theorem Passage.exists_passed (passage : Passage options cs) :
    ∃ passed, cs = passed ++ passage.after ∧ passed.length = passage.size := by
  obtain ⟨text, read, textSize⟩ := passage.reads.exists_source
  obtain ⟨code, readCode, codeSize⟩ := passage.readsCode.exists_source
  refine ⟨text ++ ((passage.construct.opener options.delimiters).toList ++
    (code ++ options.delimiters.closer.toList)), ?_, ?_⟩
  · refine read.trans ?_
    rw [passage.opened, readCode, passage.closed]
    simp only [List.append_assoc]
  · simp only [List.length_append, textSize, codeSize, size]

/-- The passage without the text before its construct. -/
def Passage.fromOpener (passage : Passage options cs) : Passage options passage.text.rest :=
  { passage with
    text := ⟨[], 0, passage.text.rest⟩
    reads := passage.reads.reads_rest passage.rest_ne_nil }

/-- A passage is found again in every source that agrees with the first one for the length of
a delimiter beyond it. -/
theorem Passage.exists_sameFront {n : Nat} (passage : Passage options cs)
    (far : options.delimiters.longest ≤ n) (same : SameFront (passage.size + n) cs cs') :
    ∃ passage' : Passage options cs',
      (∀ offset, passage'.fragment offset = passage.fragment offset) ∧
      (∀ offset tokens, passage'.batch offset tokens = passage.batch offset tokens) ∧
      SameFront n passage.after passage'.after := by
  have opens := passage.construct.length_opener_le options.delimiters
  have ended : passage.code.rest ≠ [] := by
    rw [passage.closed]
    simp [options.delimiters.closer_ne]
  have bound : options.delimiters.opener.length ≤ n ∧ options.delimiters.closer.length ≤ n := by
    simp only [Delimiters.longest] at far
    omega
  -- From left to right: the text, the opener, the code, the closer.
  simp only [size, Nat.add_assoc] at same
  obtain ⟨rest, reads, rests⟩ := passage.reads.exists_sameFront passage.rest_ne_nil
    (by simp only [String.length_toList]; omega) same
  have recognised : passage.construct = Construct.recognise options.delimiters rest := by
    rw [passage.recognised]
    refine (Construct.recognise_eq_of_sameFront rests ?_).symm
    simp only [String.length_toList]
    omega
  rw [passage.opened] at rests
  obtain ⟨inside, rfl, insides⟩ := rests.exists_append
  obtain ⟨codeRest, readsCode, codeRests⟩ := passage.readsCode.exists_sameFront ended
    (by simp only [String.length_toList]; omega) insides
  rw [passage.closed] at codeRests
  obtain ⟨after, rfl, afters⟩ := codeRests.exists_append
  let passage' : Passage options cs' :=
    { text := ⟨passage.text.value, passage.text.size, _⟩
      construct := passage.construct
      inside
      reads
      recognised
      opened := rfl
      code := ⟨passage.code.value, passage.code.size, _⟩
      after
      readsCode
      closed := rfl }
  exact ⟨passage', fun _ => rfl, fun _ _ => rfl, afters⟩

end Scan

deriving instance DecidableEq for Fragment

namespace Fragment

/-- The segment of a construct takes up all of it, and has its code unless it is a directive. -/
theorem segment_of_spells {options : Options} {fragment : Fragment} {tokens : List Token}
    {segment : Segment} (accepted : fragment.tokens options = .ok tokens)
    (spells : Segment.Spells tokens segment) :
    (∃ name args, segment = .directive (fragment.span options.delimiters) name args) ∨
      segment = .expression (fragment.span options.delimiters) (String.ofList fragment.code) ∨
      segment = .block (fragment.span options.delimiters) (String.ofList fragment.code) := by
  cases formed_tokens accepted with
  | expression _ =>
      cases spells with
      | expression _ _ _ => exact .inr (.inl rfl)
      | block opens _ _ => cases opens
  | directive name args _ =>
      cases spells with
      | text is => cases is
      | directive _ => exact .inl ⟨name, args, rfl⟩
  | block _ =>
      cases spells with
      | expression opens _ _ => cases opens
      | block _ _ _ => exact .inr (.inr rfl)

theorem span_of_spells {options : Options} {fragment : Fragment} {tokens : List Token}
    {segment : Segment} (accepted : fragment.tokens options = .ok tokens)
    (spells : Segment.Spells tokens segment) :
    segment.span = fragment.span options.delimiters := by
  rcases segment_of_spells accepted spells with ⟨name, args, rfl⟩ | rfl | rfl <;> rfl

/-- A construct without tokens is an explicit directive whose arguments do not split. -/
theorem exists_of_tokens_eq_error {options : Options} {fragment : Fragment}
    {error : TemplateError} (refused : fragment.tokens options = .error error) :
    ∃ name args reason,
      error = .unsuitableArguments (fragment.span options.delimiters) name args reason := by
  simp only [Fragment.tokens] at refused
  split at refused
  · cases refused
  · simp only [explicitDirective] at refused
    split at refused
    · cases refused
    · cases refused
      exact ⟨_, _, _, rfl⟩
  · split at refused <;> cases refused

/-- The first construct of a source that stands at an offset, if it is complete. -/
def first? (options : Options) (offset : Nat) (cs : List Char) : Option Fragment :=
  let text := Stretch.read options.delimiters.opener.toList options.doubling cs
  let construct := Construct.recognise options.delimiters text.rest
  let code := Stretch.read options.delimiters.closer.toList options.doubling
    (text.rest.drop (construct.opener options.delimiters).toList.length)
  if code.rest.isEmpty then none
  else some ⟨construct, offset + text.size, code.value, code.size⟩

theorem first?_of_passage {options : Options} {cs : List Char}
    (passage : Scan.Passage options cs) (offset : Nat) :
    first? options offset cs = some (passage.fragment offset) := by
  have inside : passage.text.rest.drop
      (passage.construct.opener options.delimiters).toList.length = passage.inside := by
    rw [passage.opened, List.drop_left]
  have closed : passage.code.rest.isEmpty = false := by
    rw [passage.closed]
    simp [options.delimiters.closer_ne]
  simp only [first?, passage.reads.read_eq options.delimiters.opener_toList_ne,
    ← passage.recognised, inside, passage.readsCode.read_eq options.delimiters.closer_toList_ne,
    closed, Bool.false_eq_true, if_false, Scan.Passage.fragment]

end Fragment

/-- Where the last of some nodes ends, or an offset if there is none. -/
def Node.stopAfter : Nat → List Node → Nat
  | offset, [] => offset
  | _, node :: rest => stopAfter node.span.stop rest

theorem Node.stopAfter_append (offset : Nat) (nodes more : List Node) :
    stopAfter offset (nodes ++ more) = stopAfter (stopAfter offset nodes) more := by
  induction nodes generalizing offset with
  | nil => rfl
  | cons node rest ih => exact ih node.span.stop

/-- The offset up to which a parse has built nodes. -/
def Parse.reached (parse : Parse) : Nat :=
  Node.stopAfter 0 parse.nodes

namespace TemplateError

/-- Whether an error is found at a complete construct, and not at one without an end or at
the end of the source. -/
def atConstruct : TemplateError → Bool
  | .unterminated _ _ _ => false
  | .unbalanced _ (.unclosed _) => false
  | .unbalanced _ _ | .unknownDirective _ _ | .unsuitableArguments _ _ _ _ => true

/-- What an error says of the construct it was found at. A closing that does not suit points
at the block that it would close, and quotes the construct; all else points at the construct. -/
def Blames (delimiters : Delimiters) (fragment : Fragment) : TemplateError → Prop
  | .unbalanced _ (.mismatch _ closing) => closing = Text.trimmed (String.ofList fragment.code)
  | error => error.span = fragment.span delimiters

end TemplateError

/-- The node of a segment lies where the segment does. -/
theorem Segment.Yields.span_eq {style : BlockStyle} {segment : Segment} {node : Node}
    (yields : segment.Yields style node) : node.span = segment.span := by
  cases yields with
  | block covers _ _ _ => exact covers
  | literal | expression | directive => rfl

namespace Scan

variable {options : Options} {offset : Nat} {cs : List Char}

/-- The segment of literal text, if there is any text. -/
def literalSegments (text : Stretch) (offset : Nat) : List Segment :=
  if text.value.isEmpty then []
  else [.text (Span.sized offset text.size) (String.ofList text.value)]

theorem concatenates_literalSegments (text : Stretch) (offset : Nat) :
    Concatenates (literal text offset) (literalSegments text offset) := by
  unfold literal literalSegments
  split
  · exact .nil
  · exact .singleton (.text rfl)

/-- Literal text is placed anywhere, and the nodes go on to its end. -/
theorem exists_places_literalSegments {text : Stretch} (style : BlockStyle) (context : Context)
    (reads : Stretch.Reads options.delimiters.opener.toList options.doubling cs text)
    (offset : Nat) :
    ∃ nodes, Places style context (literalSegments text offset) nodes context ∧
      Node.stopAfter offset nodes = offset + text.size := by
  unfold literalSegments
  split
  · rename_i empty
    have none := reads.size_eq_zero_of_value_eq_nil options.delimiters.opener_toList_ne
      (List.isEmpty_iff.mp empty)
    exact ⟨[], .nil, by rw [none]; rfl⟩
  · exact ⟨[_], .cons rfl .nil, rfl⟩

/-- The segments of a source are those of its first text and construct, and those of the rest. -/
theorem Passage.carries (passage : Passage options cs) {tokens : List Token} {segment : Segment}
    {others : List Segment} (accepted : (passage.fragment offset).tokens options = .ok tokens)
    (spells : Segment.Spells tokens segment)
    (further : (scanFrom options (passage.batch offset tokens).position passage.after).Carries
      others) :
    (scanFrom options offset cs).Carries
      (literalSegments passage.text offset ++ segment :: others) := by
  rw [passage.scanFrom_eq accepted, List.append_cons]
  exact further.deliver
    ((concatenates_literalSegments passage.text offset).append (.singleton spells))

end Scan

namespace Parse

/-- Segments after others that could be placed. -/
theorem ofSegments_append {style : BlockStyle} {context last : Context} {before : List Segment}
    {nodes : List Node} (places : Places style context before nodes last)
    (failure : Option ParseFailure) (rest : List Segment) :
    ofSegments style failure context (before ++ rest) =
      { ofSegments style failure last rest with
        nodes := nodes ++ (ofSegments style failure last rest).nodes } := by
  induction places with
  | nil => rfl
  | cons placed _ ih =>
      rw [List.cons_append, ofSegments, placed]
      exact congrArg (prepend _) ih

/-- What parsing the rest of a source comes to, if its segments are these. -/
def ofRest (options : Options) (offset : Nat) (cs : List Char) (context : Context)
    (segments : List Segment) : Parse :=
  ofSegments options.blockStyle ((Scan.scanFrom options offset cs).failure.map .template) context
    segments

variable {options : Options} {error : TemplateError} {fragment : Fragment} {offset : Nat}
  {cs cs' : List Char} {context : Context}

/-- Placing a construct and the text before it, and then the rest. -/
theorem exists_ofRest_eq {next : Context} {tokens : List Token} {segment : Segment} {node : Node}
    (passage : Scan.Passage options cs)
    (accepted : (passage.fragment offset).tokens options = .ok tokens)
    (spells : Segment.Spells tokens segment)
    (placed : context.place options.blockStyle segment = .ok (node, next))
    (others : List Segment) :
    ∃ nodes, Node.stopAfter offset nodes = (passage.batch offset tokens).position ∧
      ofRest options offset cs context
          (Scan.literalSegments passage.text offset ++ segment :: others) =
        { ofRest options (passage.batch offset tokens).position passage.after next others with
          nodes := nodes ++ (ofRest options (passage.batch offset tokens).position passage.after
            next others).nodes } := by
  obtain ⟨nodes, places, -⟩ :=
    Scan.exists_places_literalSegments options.blockStyle context passage.reads offset
  refine ⟨nodes ++ [node], ?_, ?_⟩
  · rw [Node.stopAfter_append]
    show node.span.stop = _
    rw [(Segment.yields_of_place placed).span_eq, Fragment.span_of_spells accepted spells,
      Fragment.span_stop]
    rfl
  · rw [ofRest, passage.scanFrom_eq accepted, Scan.failure_deliver, List.append_cons]
    exact ofSegments_append (places.concat placed) _ others

/-- A parse goes on from construct to construct, up to one at which it fails: because the
construct has no tokens, or because its segment cannot be placed. -/
inductive FailsAt (options : Options) (error : TemplateError) (fragment : Fragment) :
    Nat → List Char → Context → Prop
  | scanned {offset : Nat} {cs : List Char} {context : Context}
      (passage : Scan.Passage options cs) (here : passage.fragment offset = fragment)
      (refused : fragment.tokens options = .error error) :
      FailsAt options error fragment offset cs context
  | placed {offset : Nat} {cs : List Char} {context : Context} {tokens : List Token}
      {segment : Segment} (passage : Scan.Passage options cs)
      (here : passage.fragment offset = fragment) (accepted : fragment.tokens options = .ok tokens)
      (spells : Segment.Spells tokens segment)
      (refused : context.place options.blockStyle segment = .error error) :
      FailsAt options error fragment offset cs context
  | later {offset : Nat} {cs : List Char} {context next : Context} {tokens : List Token}
      {segment : Segment} {node : Node} (passage : Scan.Passage options cs)
      (accepted : (passage.fragment offset).tokens options = .ok tokens)
      (spells : Segment.Spells tokens segment)
      (placed : context.place options.blockStyle segment = .ok (node, next))
      (further : FailsAt options error fragment (passage.batch offset tokens).position
        passage.after next) :
      FailsAt options error fragment offset cs context

namespace FailsAt

/-- The construct comes later in the source. -/
theorem offset_le (fails : FailsAt options error fragment offset cs context) :
    offset ≤ (fragment.span options.delimiters).stop := by
  induction fails with
  | scanned passage here _ | placed passage here _ _ _ =>
      rw [← here, passage.span_stop]
      exact Nat.le_add_right _ _
  | @later offset _ _ _ tokens _ _ passage _ _ _ _ ih =>
      refine Nat.le_trans ?_ ih
      rw [Scan.Passage.batch, ← Fragment.span_stop, passage.span_stop]
      exact Nat.le_add_right _ _

/-- A source fails at the same construct as one that it agrees with for the length of a
delimiter beyond the construct. -/
theorem of_sameFront {n : Nat} (fails : FailsAt options error fragment offset cs context)
    (far : (fragment.span options.delimiters).stop + options.delimiters.longest ≤ offset + n)
    (same : SameFront n cs cs') : FailsAt options error fragment offset cs' context := by
  induction fails generalizing n cs' with
  | scanned passage here refused =>
      rw [← here, passage.span_stop] at far
      obtain ⟨passage', fragments, -, -⟩ :=
        passage.exists_sameFront (Nat.le_refl _) (same.mono (by omega))
      exact .scanned passage' ((fragments _).trans here) refused
  | placed passage here accepted spells refused =>
      rw [← here, passage.span_stop] at far
      obtain ⟨passage', fragments, -, -⟩ :=
        passage.exists_sameFront (Nat.le_refl _) (same.mono (by omega))
      exact .placed passage' ((fragments _).trans here) accepted spells refused
  | @later offset _ _ _ tokens _ _ passage accepted spells placed further ih =>
      have position : (passage.batch offset tokens).position = offset + passage.size := by
        rw [Scan.Passage.batch, ← Fragment.span_stop, passage.span_stop]
      have beyond := further.offset_le
      rw [position] at beyond
      obtain ⟨m, rfl⟩ : ∃ m, n = passage.size + m := ⟨n - passage.size, by omega⟩
      obtain ⟨passage', fragments, batches, afters⟩ :=
        passage.exists_sameFront (by omega) same
      refine .later passage' ((fragments offset).symm ▸ accepted) spells placed ?_
      rw [batches]
      exact ih (by rw [position]; omega) afters

/-- What the error says of the construct. -/
theorem blames (fails : FailsAt options error fragment offset cs context) :
    error.Blames options.delimiters fragment := by
  induction fails with
  | scanned _ _ refused =>
      obtain ⟨name, args, reason, rfl⟩ := Fragment.exists_of_tokens_eq_error refused
      rfl
  | placed _ _ accepted spells refused =>
      rcases Fragment.segment_of_spells accepted spells with ⟨name, args, rfl⟩ | rfl | rfl
      · obtain ⟨fault, -, rfl⟩ := Context.interpret_of_place_eq_error refused
        cases fault <;> rfl
      · cases refused
      · cases Context.shaped_of_place_eq_error refused <;> rfl
  | later _ _ _ _ _ ih => exact ih

/-- A parse that fails at a construct reports the error there, and the construct is the first
one after the nodes that were built. -/
theorem exists_segments (fails : FailsAt options error fragment offset cs context) :
    ∃ segments, (Scan.scanFrom options offset cs).Carries segments ∧
      (ofRest options offset cs context segments).failure = some (.template error) ∧
      ∃ before here, cs = before ++ here ∧
        Node.stopAfter offset (ofRest options offset cs context segments).nodes =
          offset + before.length ∧
        Fragment.first? options (offset + before.length) here = some fragment := by
  induction fails with
  | @scanned offset cs context passage here refused =>
      have stops : Scan.step options offset cs = .broken error := by
        rw [passage.step_eq, here, refused]
        rfl
      refine ⟨[], ?_, ?_, [], cs, rfl, rfl, ?_⟩
      · rw [Scan.scanFrom_of_broken stops]
        exact Scan.carries_fail error
      · rw [ofRest, Scan.scanFrom_of_broken stops]
        rfl
      · rw [← here]
        exact Fragment.first?_of_passage passage offset
  | @placed offset cs context tokens segment passage here accepted spells refused =>
      subst here
      obtain ⟨nodes, places, reaches⟩ :=
        Scan.exists_places_literalSegments options.blockStyle context passage.reads offset
      obtain ⟨others, carries, -⟩ := Scan.exists_segments options
        (passage.batch offset tokens).position passage.after
      have refuses := places.refuses refused others
      obtain ⟨text, read, size⟩ := passage.reads.exists_source
      refine ⟨_, passage.carries accepted spells carries, ?_, text, passage.text.rest, read, ?_, ?_⟩
      · rw [ofRest, ofSegments_of_refuses refuses]
      · rw [ofRest, ofSegments_of_refuses refuses, size]
        exact reaches
      · rw [size]
        exact Fragment.first?_of_passage passage.fromOpener _
  | @later offset cs context next tokens segment node passage accepted spells placed _ ih =>
      obtain ⟨others, carries, failure, before, here, split, reaches, first⟩ := ih
      obtain ⟨passed, whole, size⟩ := passage.exists_passed
      have position : (passage.batch offset tokens).position = offset + passed.length := by
        rw [Scan.Passage.batch, ← Fragment.span_stop, passage.span_stop, size]
      obtain ⟨nodes, stops, parse⟩ := exists_ofRest_eq passage accepted spells placed others
      refine ⟨_, passage.carries accepted spells carries, ?_, passed ++ before, here, ?_, ?_, ?_⟩
      · rw [parse]
        exact failure
      · rw [List.append_assoc, ← split]
        exact whole
      · rw [parse, Node.stopAfter_append, stops, reaches, position, List.length_append,
          Nat.add_assoc]
      · rw [List.length_append, ← Nat.add_assoc, ← position]
        exact first

end FailsAt

/-- A source fails at a construct, or it has no error that is found at one. -/
theorem failsAt_or (options : Options) (offset : Nat) (cs : List Char) (context : Context) :
    (∃ error fragment, FailsAt options error fragment offset cs context) ∨
      ∃ segments, (Scan.scanFrom options offset cs).Carries segments ∧
        ∀ error, (ofRest options offset cs context segments).failure = some (.template error) →
          error.atConstruct = false := by
  induction hsize : cs.length using Nat.strongRecOn generalizing offset cs context with
  | ind size ih =>
      have stepped := Scan.stepped_step options offset cs
      cases hstep : Scan.step options offset cs with
      | final batch =>
          rw [hstep] at stepped
          cases stepped with
          | final text reads ended =>
              obtain ⟨nodes, places, -⟩ :=
                Scan.exists_places_literalSegments options.blockStyle context reads offset
              refine .inr ⟨Scan.literalSegments text offset, ?_, ?_⟩
              · rw [Scan.scanFrom_of_final hstep]
                exact Scan.carries_of_final (Scan.concatenates_literalSegments text offset) _ _
              · intro error failure
                rw [ofRest, Scan.scanFrom_of_final hstep, ofSegments_of_places places] at failure
                obtain ⟨innermost, -, same⟩ := Option.map_eq_some_iff.mp failure
                cases same
                rfl
      | broken error =>
          rw [hstep] at stepped
          cases stepped with
          | unterminated approach code readsCode ended =>
              refine .inr ⟨[], ?_, ?_⟩
              · rw [Scan.scanFrom_of_broken hstep]
                exact Scan.carries_fail _
              · intro error failure
                rw [ofRest, Scan.scanFrom_of_broken hstep] at failure
                cases failure
                rfl
          | refused passage _ tokens => exact .inl ⟨_, _, .scanned passage rfl tokens⟩
      | more batch rest =>
          have shorter := Scan.length_lt_of_step_more hstep
          rw [hstep] at stepped
          cases stepped with
          | more passage tokens accepted =>
              obtain ⟨segment, spells, -, -⟩ := Fragment.exists_spells accepted
              cases placed : context.place options.blockStyle segment with
              | error error => exact .inl ⟨_, _, .placed passage rfl accepted spells placed⟩
              | ok result =>
                  obtain ⟨node, next⟩ := result
                  rcases ih _ (hsize ▸ shorter) _ passage.after next rfl with
                    ⟨error, fragment, further⟩ | ⟨others, carries, silent⟩
                  · exact .inl ⟨error, fragment, .later passage accepted spells placed further⟩
                  · obtain ⟨nodes, -, parse⟩ :=
                      exists_ofRest_eq passage accepted spells placed others
                    refine .inr ⟨_, passage.carries accepted spells carries, ?_⟩
                    intro error failure
                    rw [parse] at failure
                    exact silent error failure

/-- An error that is found at a construct comes from failing there. -/
theorem exists_failsAt {source : String}
    (fails : (ofText options source).failure = some (.template error))
    (found : error.atConstruct = true) :
    ∃ fragment, FailsAt options error fragment 0 source.toList (Context.initial options) := by
  rcases failsAt_or options 0 source.toList (Context.initial options) with
    ⟨other, fragment, failsAt⟩ | ⟨segments, carries, silent⟩
  · obtain ⟨segments, carries, failure, -⟩ := failsAt.exists_segments
    rw [ofText_eq_ofSegments carries] at fails
    cases failure.symm.trans fails
    exact ⟨fragment, failsAt⟩
  · rw [ofText_eq_ofSegments carries] at fails
    rw [silent error fails] at found
    cases found

end Parse

/-- Parsing and cleaning a source fails with an error of the template exactly if parsing does. -/
theorem cleanNodes_eq_error_iff {options : Options} {source : String} {failure : ParseFailure} :
    cleanNodes options source = .error (.parse failure) ↔
      (Parse.ofText options source).failure = some failure := by
  simp only [cleanNodes, Parse.result, bind, Except.bind]
  cases parsed : (Parse.ofText options source).failure with
  | some other => simp [Except.mapError]
  | none =>
      simp only [Except.mapError]
      cases Node.clean (Parse.ofText options source).nodes <;> simp

/-- An error found at a construct cannot be masked or altered by what follows the construct.
The construct is the first one after the nodes that were built, and what the error says is
about it. Every source that agrees with the first one up to the end of the construct, and for
the length of the longest delimiter beyond, fails with the same error. -/
theorem construct_error_unmasked (options : Options) (source : String) (error : TemplateError)
    (fails : cleanNodes options source = .error (.parse (.template error)))
    (found : error.atConstruct = true) :
    ∃ fragment,
      Fragment.first? options (Parse.ofText options source).reached
        (source.toList.drop (Parse.ofText options source).reached) = some fragment ∧
      error.Blames options.delimiters fragment ∧
      ∀ other : String,
        SameFront ((fragment.span options.delimiters).stop + options.delimiters.longest)
          source.toList other.toList →
        cleanNodes options other = .error (.parse (.template error)) := by
  rw [cleanNodes_eq_error_iff] at fails
  obtain ⟨fragment, failsAt⟩ := Parse.exists_failsAt fails found
  refine ⟨fragment, ?_, failsAt.blames, ?_⟩
  · obtain ⟨segments, carries, -, before, here, split, reaches, first⟩ := failsAt.exists_segments
    have reached : (Parse.ofText options source).reached = before.length := by
      rw [Parse.reached, Parse.ofText_eq_ofSegments carries, ← Nat.zero_add before.length]
      exact reaches
    rw [reached, split, List.drop_left, ← Nat.zero_add before.length]
    exact first
  · intro other same
    obtain ⟨segments, carries, failure, -⟩ :=
      (failsAt.of_sameFront (Nat.le_of_eq (Nat.zero_add _).symm) same).exists_segments
    rw [cleanNodes_eq_error_iff, Parse.ofText_eq_ofSegments carries]
    exact failure

/-- A closing keyword that does not suit, pointed at where the block opens: a text after it that
opens an expression without an end is never reached. -/
theorem construct_error_unmasked_mismatch :
    let source := "<# if a #>x<# endfor #>yz"
    let error : TemplateError :=
      .unbalanced (Span.sized 0 10) (.mismatch "if a" "endfor")
    cleanNodes {} source = .error (.parse (.template error)) ∧ error.atConstruct = true ∧
    ∃ fragment : Fragment, (fragment.span Delimiters.standard).stop = 23 ∧
      error.Blames Delimiters.standard fragment ∧
      cleanNodes {} "<# if a #>x<# endfor #>yz<#= b" = .error (.parse (.template error)) := by
  intro source error
  have fails : cleanNodes {} source = .error (.parse (.template error)) := by decide +kernel
  obtain ⟨fragment, first, blames, unmasked⟩ := construct_error_unmasked {} source error fails rfl
  have reads : Fragment.first? {} (Parse.ofText {} source).reached
      (source.toList.drop (Parse.ofText {} source).reached) =
        some ⟨.block, 11, " endfor ".toList, 8⟩ := by decide +kernel
  cases first.symm.trans reads
  exact ⟨fails, rfl, _, rfl, blames, unmasked _ (by decide +kernel)⟩

end Stencil
