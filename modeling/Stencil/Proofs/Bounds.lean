/-
# Spans lie within the source

Spans are made in few places and handed on in many. The scan makes those of tokens, and of
its own errors, from offsets that it has reached. All others are taken from tokens: nodes have
the spans of their segments, an error of the parser points at a segment or at the opening of a
block, which was a segment too, cleaning only moves the ends of a span towards each other, and
an instruction keeps the span of its node. So that no span ends beyond the source is shown of
the scan, and follows for the rest.
-/

import Stencil.Proofs.Fidelity
import Stencil.Proofs.Lookahead

namespace Stencil

/-- A span whose ends are in order and within a source of some length. -/
def Span.Within (length : Nat) (span : Span) : Prop :=
  span.start ≤ span.stop ∧ span.stop ≤ length

theorem Span.within_of_stop_le {span : Span} {length : Nat} (stops : span.stop ≤ length) :
    span.Within length :=
  ⟨span.ordered, stops⟩

namespace Scan

variable {options : Options} {source before cs : List Char}

/-- A construct that is complete lies within the source. -/
theorem Passage.within (passage : Passage options cs) (same : source = before ++ cs) :
    ((passage.fragment before.length).span options.delimiters).Within source.length := by
  obtain ⟨passed, split, size⟩ := passage.exists_passed
  have room := congrArg List.length split
  rw [List.length_append, size] at room
  apply Span.within_of_stop_le
  rw [passage.span_stop, same, List.length_append]
  omega

/-- An opener lies within the source, even if nothing closes its construct. -/
theorem Approach.within (approach : Approach options cs) (same : source = before ++ cs) :
    (Span.sized (before.length + approach.text.size)
      (approach.construct.opener options.delimiters).toList.length).Within source.length := by
  obtain ⟨text, split, size⟩ := approach.reads.exists_source
  rw [approach.opened] at split
  have room := congrArg List.length split
  simp only [List.length_append, size] at room
  apply Span.within_of_stop_le
  rw [same, List.length_append]
  simp only [Span.sized]
  omega

/-- The text after the last construct ends with the source. -/
theorem within_final {text : Stretch} (same : source = before ++ cs)
    (reads : Stretch.Reads options.delimiters.opener.toList options.doubling cs text)
    (ended : text.rest = []) {token : Token}
    (present : token ∈ literal text before.length ++ [ending (before.length + text.size)]) :
    token.span.Within source.length := by
  obtain ⟨written, split, size⟩ := reads.exists_source
  rw [ended, List.append_nil] at split
  have whole : before.length + text.size = source.length := by
    rw [same, List.length_append, split, size]
  apply Span.within_of_stop_le
  rw [← whole]
  rcases List.mem_append.mp present with inText | last
  · unfold literal at inText
    split at inText
    · cases inText
    · rw [List.mem_singleton.mp inText]
      exact Nat.le_refl _
  · rw [List.mem_singleton.mp last]
    exact Nat.le_refl _

/-- What a scan hands out lies within the source, and so does the error it ends with. -/
theorem within_scanFrom (same : source = before ++ cs) :
    (∀ token ∈ (scanFrom options before.length cs).tokens, token.span.Within source.length) ∧
      ∀ error, (scanFrom options before.length cs).failure = some error →
        error.span.Within source.length := by
  have scans := scans_scanFrom options before.length cs
  generalize scanFrom options before.length cs = scan at scans ⊢
  generalize start : before.length = offset at scans
  induction scans generalizing before with
  | final text reads ended =>
      subst start
      refine ⟨?_, by simp⟩
      intro token present
      exact within_final same reads ended (by simpa [Scan.tokens] using present)
  | broken error stepped =>
      subst start
      refine ⟨by simp, ?_⟩
      rintro _ ⟨⟩
      cases stepped with
      | unterminated approach _ _ _ => exact approach.within same
      | refused passage _ refused =>
          obtain ⟨name, args, reason, rfl⟩ := Fragment.exists_of_tokens_eq_error refused
          exact passage.within same
  | more passage tokens accepted _ ih =>
      subst start
      rw [tokens_deliver, failure_deliver]
      obtain ⟨⟨passed, split, position⟩, covers⟩ := covers_passage same passage accepted
      have further : source = before ++ passed ++ passage.after := by
        rw [List.append_assoc, ← split]
        exact same
      have reached : (before ++ passed).length ≤ source.length :=
        further ▸ (List.prefix_append _ _).length_le
      obtain ⟨handed, failed⟩ := ih further position.symm
      refine ⟨?_, failed⟩
      intro token present
      rcases List.mem_append.mp present with here | later
      · rw [position] at covers
        have stops := covers.tile.le_stop.2 _ (List.mem_map_of_mem here)
        exact Span.within_of_stop_le (Nat.le_trans stops reached)
      · exact handed token later

theorem within_ofText (options : Options) (source : String) :
    (∀ token ∈ (ofText options source).tokens, token.span.Within source.length) ∧
      ∀ error, (ofText options source).failure = some error →
        error.span.Within source.length := by
  have whole : source.toList = [] ++ source.toList := rfl
  rw [← String.length_toList]
  exact within_scanFrom whole

end Scan

/-- A segment reaches no further than its tokens. -/
theorem Concatenates.within {tokens : List Token} {segments : List Segment} {length : Nat}
    (units : Concatenates tokens segments)
    (within : ∀ token ∈ tokens, token.span.Within length) :
    ∀ segment ∈ segments, segment.span.Within length := by
  intro segment listed
  obtain ⟨unit, inside, spells⟩ := units.exists_unit listed
  have all (token : Token) (present : token ∈ unit) : token.span.stop ≤ length :=
    (within token (inside.subset present)).2
  apply Span.within_of_stop_le
  cases spells with
  | text _ | directive _ => exact all _ List.mem_cons_self
  | expression _ _ _ | block _ _ _ =>
      exact Nat.max_le.mpr ⟨all _ (by simp), all _ (by simp)⟩

section Placed

variable {style : BlockStyle} {options : Options} {before : List Segment} {nodes : List Node}
  {here : Context} {length : Nat}

/-- Nodes reach no further than the segments they come from. -/
theorem Places.within {context : Context} (placed : Places style context before nodes here)
    (within : ∀ segment ∈ before, segment.span.Within length) :
    ∀ node ∈ nodes, node.span.Within length := by
  induction placed with
  | nil => simp
  | cons fits _ ih =>
      rw [List.forall_mem_cons] at within ⊢
      rw [(Segment.yields_of_place fits).span_eq]
      exact ⟨within.1, ih within.2⟩

/-- A block that is still open was opened by one of the segments. -/
theorem Places.exists_unclosed {error : TemplateError}
    (placed : Places style (Context.initial options) before nodes here)
    (failure : Parse.unclosed here = some (.template error)) :
    ∃ blamed ∈ before, blamed.isText = false ∧ blamed.span = error.span := by
  obtain ⟨innermost, head, same⟩ := Option.map_eq_some_iff.mp failure
  cases same
  obtain ⟨outer, inside⟩ := List.head?_eq_some_iff.mp head
  obtain ⟨place, code, -, opener, -, -⟩ := placed.exists_opener inside
  exact ⟨_, List.mem_of_getElem? opener, rfl, rfl⟩

/-- What is objected to is the segment itself, or the opening that a closing does not suit. -/
theorem Segment.Objection.exists_blamed {segment : Segment} {error : TemplateError}
    (objection : Segment.Objection style before segment error) :
    ∃ blamed ∈ before ++ [segment], blamed.isText = false ∧ blamed.span = error.span := by
  have itself : segment ∈ before ++ [segment] := List.mem_append_right before List.mem_cons_self
  cases objection with
  | @directive _ _ _ fault _ => cases fault <;> exact ⟨_, itself, rfl, rfl⟩
  | strayContinuation _ _ | strayClose _ _ => exact ⟨_, itself, rfl, rfl⟩
  | mismatch _ _ opener _ =>
      exact ⟨_, List.mem_append_left _ (List.mem_of_getElem? opener), rfl, rfl⟩

end Placed

/-- An error of a parse is that of the scan, or points at a segment that is no literal text. -/
theorem Parse.exists_blamed {options : Options} {source : String} {segments : List Segment}
    {error : TemplateError} (carries : (Scan.ofText options source).Carries segments)
    (fails : (Parse.ofText options source).failure = some (.template error)) :
    (Scan.ofText options source).failure = some error ∨
      ∃ blamed ∈ segments, blamed.isText = false ∧ blamed.span = error.span := by
  rw [Parse.ofText_eq_ofSegments carries] at fails
  rcases places_or_refuses options.blockStyle (Context.initial options) segments with
    ⟨nodes, last, places⟩ | ⟨nodes, last, refusal, refuses⟩
  · rw [Parse.ofSegments_of_places places] at fails
    cases broken : (Scan.ofText options source).failure with
    | some scanError =>
        rw [broken] at fails
        cases fails
        exact .inl rfl
    | none =>
        rw [broken] at fails
        exact .inr (places.exists_unclosed fails)
  · rw [Parse.ofSegments_of_refuses refuses] at fails
    cases fails
    obtain ⟨before, segment, after, rfl, places, refused⟩ := refuses.exists_split
    obtain ⟨blamed, listed, coded, same⟩ := (places.objection refused).exists_blamed
    refine .inr ⟨blamed, ?_, coded, same⟩
    rw [List.append_cons]
    exact List.mem_append_left after listed

/-- The nodes that a parse builds lie within the source, and so does the error it ends with. -/
theorem Parse.within_ofText (options : Options) (source : String) :
    (∀ node ∈ (Parse.ofText options source).nodes, node.span.Within source.length) ∧
      ∀ error, (Parse.ofText options source).failure = some (.template error) →
        error.span.Within source.length := by
  obtain ⟨handed, failed⟩ := Scan.within_ofText options source
  obtain ⟨segments, carries, -⟩ := Scan.exists_segments options 0 source.toList
  obtain ⟨front, tail, split, -, units⟩ := id carries
  have within : ∀ segment ∈ segments, segment.span.Within source.length := by
    refine units.within fun token present => handed token ?_
    exact split ▸ List.mem_append_left tail present
  constructor
  · rw [Parse.ofText_eq_ofSegments carries]
    rcases places_or_refuses options.blockStyle (Context.initial options) segments with
      ⟨nodes, last, places⟩ | ⟨nodes, last, error, refuses⟩
    · rw [Parse.ofSegments_of_places places]
      exact places.within within
    · rw [Parse.ofSegments_of_refuses refuses]
      obtain ⟨before, segment, after, rfl, places, -⟩ := refuses.exists_split
      rw [List.forall_mem_append] at within
      exact places.within within.1
  · intro error fails
    rcases Parse.exists_blamed carries fails with scanned | ⟨blamed, listed, -, same⟩
    · exact failed error scanned
    · rw [← same]
      exact within blamed listed

namespace Node

variable {length : Nat} {previous next : Option Node} {node kept : Node}

/-- Trimming moves the end of a span to the left, if at all. -/
theorem within_trimLiteral {span : Span} {text : String} {leading trailing : Bool}
    (trimmed : trimLiteral span text leading trailing = .ok (some kept))
    (within : span.Within length) : kept.span.Within length := by
  simp only [trimLiteral] at trimmed
  generalize (if leading then Text.trimStart text.toList else text.toList) = front at trimmed
  generalize (if trailing then Text.trimEnd front else front) = rest at trimmed
  split at trimmed
  · cases trimmed
    exact within
  · split at trimmed
    · cases trimmed
    · rw [Span.ofInts] at trimmed
      split at trimmed
      · cases trimmed
        refine Span.within_of_stop_le (Nat.le_trans ?_ within.2)
        simp only [Node.span]
        omega
      · cases trimmed

theorem within_cleanBetween (cleaned : cleanBetween previous node next = .ok (some kept))
    (within : node.span.Within length) : kept.span.Within length := by
  cases node with
  | literal span text =>
      rw [cleanBetween] at cleaned
      split at cleaned
      · cases cleaned
        exact within
      · exact within_trimLiteral cleaned within
  | expression _ _ _ _ | block _ | directive _ _ _ _ | placeholder _ =>
      cases cleaned
      exact within

/-- What holds of nodes, and of what cleaning leaves of each, holds of the cleaned nodes. -/
theorem forall_mem_cleanAfter {Good : Node → Prop} {nodes cleaned : List Node}
    (keeps : ∀ {previous node next kept}, cleanBetween previous node next = .ok (some kept) →
      Good node → Good kept)
    (clean : cleanAfter previous nodes = .ok cleaned) (good : ∀ node ∈ nodes, Good node) :
    ∀ node ∈ cleaned, Good node := by
  induction nodes generalizing previous cleaned with
  | nil =>
      cases clean
      simp
  | cons node rest ih =>
      obtain ⟨first, others, here, further, rfl⟩ := cleanAfter_cons_eq_ok.mp clean
      rw [List.forall_mem_cons] at good
      rw [List.forall_mem_append]
      refine ⟨?_, ih further good.2⟩
      intro kept listed
      rw [Option.mem_toList.mp listed] at here
      exact keeps here good.1

end Node

theorem Instruction.span_of_ofNode {node : Node} {instruction : Instruction}
    (emitted : ofNode node = .ok (some instruction)) : instruction.span = node.span := by
  cases node with
  | literal span text | expression span code escaping escaper | block block =>
      simp only [ofNode] at emitted
      split at emitted
      · cases emitted
      · cases emitted
        rfl
  | directive _ _ _ _ | placeholder _ => cases emitted

/-- What holds of nodes, and so of the instruction of each, holds of the instructions. -/
theorem Instruction.forall_mem_ofNodes {Good : Node → Prop} {Fine : Instruction → Prop}
    {nodes : List Node} {instructions : List Instruction}
    (emits : ∀ {node instruction}, ofNode node = .ok (some instruction) → Good node →
      Fine instruction)
    (generated : ofNodes nodes = .ok instructions) (good : ∀ node ∈ nodes, Good node) :
    ∀ instruction ∈ instructions, Fine instruction := by
  induction nodes generalizing instructions with
  | nil =>
      cases generated
      simp
  | cons node rest ih =>
      obtain ⟨first, others, here, further, rfl⟩ := ofNodes_cons_eq_ok.mp generated
      rw [List.forall_mem_cons] at good
      rw [List.forall_mem_append]
      refine ⟨?_, ih further good.2⟩
      intro instruction listed
      rw [Option.mem_toList.mp listed] at here
      exact emits here good.1

theorem Instruction.within_ofNodes {nodes : List Node} {instructions : List Instruction}
    {length : Nat} (generated : ofNodes nodes = .ok instructions)
    (within : ∀ node ∈ nodes, node.span.Within length) :
    ∀ instruction ∈ instructions, instruction.span.Within length := by
  refine forall_mem_ofNodes ?_ generated within
  intro node instruction emitted inside
  rw [span_of_ofNode emitted]
  exact inside

end Stencil
