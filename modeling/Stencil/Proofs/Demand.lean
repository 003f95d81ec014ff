/-
# Scanning on demand is scanning ahead

A feed and a parser take turns: the feed scans up to the end of the next construct
only when the parser asks for a token it does not have. Their interplay is the same
as scanning first and parsing afterwards, with one difference in what is reported.
Where the scan breaks off, the parser gets to the error of the scan only if it has
nothing to object to in the tokens before; and it never gets to the end of input,
where it would report an open block.

That the parser objects to some tokens is said without looking into it: an objection
to these tokens is one that is raised whatever tokens follow them.
-/

import Stencil.Proofs.Construct
import Stencil.Proofs.Delivery

namespace Stencil

namespace Feed

/-- A feed delivers what a scan ahead would have delivered. -/
theorem delivers_upcoming (feed : Feed) :
    Delivers feed feed.upcoming feed.remainder.failure := by
  induction hsize : feed.upcoming.length using Nat.strongRecOn generalizing feed with
  | ind size ih =>
      have outlook := upcoming_next feed
      cases asked : feed.next with
      | error error =>
          rw [asked] at outlook
          rw [outlook.1, outlook.2]
          exact .broken asked
      | ok answer =>
          rw [asked] at outlook
          cases answer with
          | none =>
              rw [outlook.1, outlook.2]
              exact .ended asked
          | some handed =>
              rw [outlook.1, outlook.2]
              refine .token asked (ih handed.2.upcoming.length ?_ handed.2 rfl)
              rw [← hsize, outlook.1]
              exact Nat.lt_succ_self _

theorem delivers_ofText (options : Options) (source : String) :
    Delivers (ofText options source) (Scan.ofText options source).tokens
      (Scan.ofText options source).failure :=
  delivers_upcoming (ofText options source)

end Feed

/-- Only its arguments can make a construct have no tokens. -/
theorem Fragment.tokens_ne_unbalanced {options : Options} {fragment : Fragment}
    {error : TemplateError} (h : fragment.tokens options = .error error) (span : Span)
    (imbalance : Imbalance) : error ≠ .unbalanced span imbalance := by
  simp only [Fragment.tokens] at h
  split at h
  · cases h
  · simp only [explicitDirective] at h
    split at h
    · cases h
    · cases h
      simp
  · split at h <;> cases h

namespace Scan

variable {options : Options} {offset : Nat} {cs : List Char}

/-- The batch of a construct holds no end of input. -/
theorem Passage.inner_batch (passage : Passage options cs) {tokens : List Token}
    (accepted : (passage.fragment offset).tokens options = .ok tokens) :
    ∀ token ∈ (passage.batch offset tokens).tokens, token.kind ≠ .endOfInput := by
  intro token present
  rcases List.mem_append.mp present with text | inside
  · unfold literal at text
    split at text
    · cases text
    · rw [List.mem_singleton.mp text]
      simp
  · cases Fragment.formed_tokens accepted <;> simp [Fragment.delimitedTokens] at inside <;>
      rcases inside with rfl | rfl | rfl <;> simp

/-- A scan breaks off at a construct, never at a block that is open. -/
theorem failure_ne_unbalanced {error : TemplateError}
    (h : (scanFrom options offset cs).failure = some error) (span : Span)
    (imbalance : Imbalance) : error ≠ .unbalanced span imbalance := by
  have scans := scans_scanFrom options offset cs
  generalize scanFrom options offset cs = scan at scans h
  induction scans with
  | final text reads ended => cases h
  | broken met stepped =>
      cases h
      cases stepped with
      | unterminated approach code readsCode ended => simp
      | refused passage error refused => exact Fragment.tokens_ne_unbalanced refused _ _
  | more passage tokens accepted further ih => exact ih h

/-- A scan that breaks off has not got to the end of input. -/
theorem inner_of_failure {error : TemplateError}
    (h : (scanFrom options offset cs).failure = some error) :
    ∀ token ∈ (scanFrom options offset cs).tokens, token.kind ≠ .endOfInput := by
  have scans := scans_scanFrom options offset cs
  generalize scanFrom options offset cs = scan at scans h ⊢
  induction scans with
  | final text reads ended => cases h
  | broken met stepped => simp
  | more passage tokens accepted further ih =>
      intro token present
      rcases List.mem_append.mp present with first | later
      · exact passage.inner_batch accepted token first
      · exact ih h token later

end Scan

namespace Parse

/-- What a parser objects to in some tokens: it does so whatever tokens follow. -/
def Objects (options : Options) (tokens : List Token) (failure : ParseFailure) : Prop :=
  ∀ more, (ofTokens options (tokens ++ more)).failure = some failure

variable {options : Options} {tokens : List Token} {segments : List Segment} {halt : Halt}

/-- An objection to some tokens is what parsing just these reports. -/
theorem Objects.failure_eq {failure : ParseFailure} (objects : Objects options tokens failure) :
    (ofTokens options tokens).failure = some failure := by
  have reported := objects []
  rwa [List.append_nil] at reported

/-- A segment that cannot be placed is an objection. -/
theorem objects_of_refuses {nodes : List Node} {last : Context} {error : TemplateError}
    (groups : Groups tokens segments halt)
    (refuses : Refuses options.blockStyle (Context.initial options) segments nodes last error) :
    Objects options tokens (.template error) := by
  intro more
  obtain ⟨others, halt', extended⟩ := groups.exists_append more
  rw [ofTokens_eq_ofSegments extended, ofSegments_of_refuses (refuses.append others)]

/-- A token that does not fit is an objection if all segments before it can be
placed. -/
theorem objects_of_clash {nodes : List Node} {last : Context} {failure : ParseFailure}
    (groups : Groups tokens segments (.clash failure))
    (places : Places options.blockStyle (Context.initial options) segments nodes last) :
    Objects options tokens failure := by
  intro more
  rw [ofTokens_eq_ofSegments (groups.append_of_clash more), ofSegments_of_places places]
  rfl

/-- That the tokens come to an end is not an objection: what is reported then is
different for different tokens to follow. -/
theorem not_objects_of_places {nodes : List Node} {last : Context}
    (groups : Groups tokens segments halt) (ends : halt = .used ∨ ∃ kind, halt = .short kind)
    (places : Places options.blockStyle (Context.initial options) segments nodes last)
    (failure : ParseFailure) : ¬ Objects options tokens failure := by
  intro objects
  have names (value : String) : ∃ token : Token, token.value = value ∧
      (failure = .unexpected token ∨ ∃ kind, failure = .expected kind token) := by
    obtain ⟨token, is, met, extended, names⟩ := groups.exists_clash_of_append ends value
    have reported := objects [token]
    rw [ofTokens_eq_ofSegments extended, ofSegments_of_places places] at reported
    cases reported
    exact ⟨token, is, names⟩
  obtain ⟨first, isFirst, namesFirst⟩ := names ""
  obtain ⟨second, isSecond, namesSecond⟩ := names " "
  have same : first = second := by
    rcases namesFirst with rfl | ⟨kind, rfl⟩ <;> rcases namesSecond with same | ⟨kind', same⟩ <;>
      cases same <;> rfl
  rw [same, isSecond] at isFirst
  exact absurd isFirst (by decide)

/-- That a block is left open is no reason to refuse a segment. -/
theorem ne_unclosed_of_refuses {style : BlockStyle} {context last : Context}
    {nodes : List Node} {error : TemplateError}
    (refuses : Refuses style context segments nodes last error) (span : Span) (code : String) :
    error ≠ .unbalanced span (.unclosed code) := by
  obtain ⟨before, segment, after, -, -, refused⟩ := refuses.exists_split
  cases segment with
  | text _ _ | expression _ _ => cases refused
  | block _ _ => cases Context.shaped_of_place_eq_error refused <;> simp
  | directive _ _ _ =>
      obtain ⟨fault, -, rfl⟩ := Context.interpret_of_place_eq_error refused
      cases fault <;> simp [TemplateError.ofDirectiveFault]

section Broken

variable {σ : Type} [TokenSource σ] {source : σ} {error : TemplateError}

/-- A source that breaks off is parsed as far as the tokens it has delivered. -/
theorem ofSource_of_broken (options : Options) (delivers : Delivers source tokens (some error)) :
    (ofSource options source).nodes = (ofTokens options tokens).nodes ∧
      (ofSource options source).context = (ofTokens options tokens).context := by
  obtain ⟨segments, halt, groups⟩ := exists_groups tokens
  rw [ofSource_eq_ofSegments delivers groups, ofTokens_eq_ofSegments groups]
  rcases places_or_refuses options.blockStyle (Context.initial options) segments with
    ⟨nodes, last, places⟩ | ⟨nodes, last, met, refuses⟩
  · simp only [ofSegments_of_places places, and_self]
  · simp only [ofSegments_of_refuses refuses, and_self]

/-- What is reported over a source that breaks off within its tokens: an objection to
the tokens, or the error. -/
theorem failure_of_broken (delivers : Delivers source tokens (some error))
    (inner : ∀ token ∈ tokens, token.kind ≠ .endOfInput) :
    (∃ failure, Objects options tokens failure ∧ (ofSource options source).failure = some failure) ∨
      (∀ failure, ¬ Objects options tokens failure) ∧
        (ofSource options source).failure = some (.template error) := by
  obtain ⟨segments, halt, groups⟩ := exists_groups tokens
  rw [ofSource_eq_ofSegments delivers groups]
  rcases places_or_refuses options.blockStyle (Context.initial options) segments with
    ⟨nodes, last, places⟩ | ⟨nodes, last, met, refuses⟩
  · rw [ofSegments_of_places places]
    cases halt with
    | input =>
        obtain ⟨token, present, is⟩ := groups.exists_endOfInput
        exact absurd is (inner token present)
    | clash failure => exact .inl ⟨failure, objects_of_clash groups places, rfl⟩
    | used => exact .inr ⟨not_objects_of_places groups (.inl rfl) places, rfl⟩
    | short kind => exact .inr ⟨not_objects_of_places groups (.inr ⟨kind, rfl⟩) places, rfl⟩
  · rw [ofSegments_of_refuses refuses]
    exact .inl ⟨_, objects_of_refuses groups refuses, rfl⟩

/-- An open block is no objection to the tokens before it is closed. -/
theorem ne_unclosed_of_objects {failure : ParseFailure}
    (objects : Objects options tokens failure)
    (inner : ∀ token ∈ tokens, token.kind ≠ .endOfInput) (span : Span) (code : String) :
    failure ≠ .template (.unbalanced span (.unclosed code)) := by
  obtain ⟨segments, halt, groups⟩ := exists_groups tokens
  have reported := objects.failure_eq
  rw [ofTokens_eq_ofSegments groups] at reported
  rcases places_or_refuses options.blockStyle (Context.initial options) segments with
    ⟨nodes, last, places⟩ | ⟨nodes, last, met, refuses⟩
  · cases halt with
    | input =>
        obtain ⟨token, present, is⟩ := groups.exists_endOfInput
        exact absurd is (inner token present)
    | clash met =>
        rw [ofSegments_of_places places] at reported
        cases reported
        exact groups.ne_template_of_clash _
    | used =>
        exact absurd objects (not_objects_of_places groups (.inl rfl) places failure)
    | short kind =>
        exact absurd objects (not_objects_of_places groups (.inr ⟨kind, rfl⟩) places failure)
  · rw [ofSegments_of_refuses refuses] at reported
    cases reported
    intro same
    exact ne_unclosed_of_refuses refuses span code (ParseFailure.template.inj same)

end Broken

end Parse

/-- Parsing on demand and parsing after a complete scan agree. Where the scan succeeds
they have the same result in every respect. Where it breaks off, the nodes and the
context are those of the tokens before the error; what is reported is an objection to
those tokens, and if there is none the error of the scan, never an open block. -/
theorem parse_on_demand (options : Options) (source : String) :
    (∀ tokens, (Scan.ofText options source).complete = .ok tokens →
      Parse.ofText options source = Parse.ofTokens options tokens) ∧
    ∀ error, (Scan.ofText options source).failure = some error →
      (Parse.ofText options source).nodes =
        (Parse.ofTokens options (Scan.ofText options source).tokens).nodes ∧
      (Parse.ofText options source).context =
        (Parse.ofTokens options (Scan.ofText options source).tokens).context ∧
      (∀ failure, Parse.Objects options (Scan.ofText options source).tokens failure →
        (Parse.ofText options source).failure = some failure) ∧
      ((∀ failure, ¬ Parse.Objects options (Scan.ofText options source).tokens failure) →
        (Parse.ofText options source).failure = some (.template error)) ∧
      ∀ span code, (Parse.ofText options source).failure ≠
        some (.template (.unbalanced span (.unclosed code))) := by
  have delivers := Feed.delivers_ofText options source
  refine ⟨?_, ?_⟩
  · intro tokens complete
    obtain ⟨succeeded, rfl⟩ := Scan.complete_eq_ok complete
    obtain ⟨segments, halt, groups⟩ := exists_groups (Scan.ofText options source).tokens
    rw [succeeded] at delivers
    exact (Parse.ofSource_eq_ofSegments delivers groups).trans
      (Parse.ofTokens_eq_ofSegments groups).symm
  · intro error broken
    have inner := Scan.inner_of_failure broken
    rw [broken] at delivers
    obtain ⟨nodes, context⟩ := Parse.ofSource_of_broken options delivers
    refine ⟨nodes, context, ?_⟩
    rcases Parse.failure_of_broken delivers inner with
      ⟨failure, objects, reported⟩ | ⟨none, reported⟩
    · refine ⟨?_, ?_, ?_⟩
      · intro other objects'
        rw [← objects'.failure_eq, objects.failure_eq]
        exact reported
      · intro none
        exact absurd objects (none failure)
      · intro span code unclosed
        exact Parse.ne_unclosed_of_objects objects inner span code
          (Option.some.inj (reported.symm.trans unclosed))
    · refine ⟨?_, fun _ => reported, ?_⟩
      · intro other objects
        exact absurd objects (none other)
      · intro span code unclosed
        have same := Option.some.inj (reported.symm.trans unclosed)
        exact Scan.failure_ne_unbalanced broken span _ (ParseFailure.template.inj same)

/-- A construct that is not closed, after a fragment that closes nothing and after one
that leaves a block open: only the first is objected to. -/
theorem parse_on_demand_unterminated :
    (Parse.ofText {} "<# end #><#= x").failure =
        some (.template (.unbalanced (Span.sized 0 9) (.strayClose "end"))) ∧
      (Parse.ofText {} "<# if x #><#= x").failure =
        some (.template (.unterminated (Span.sized 10 3) "<#=" "#>")) := by
  refine ⟨?_, ?_⟩
  · have broken : (Scan.ofText {} "<# end #><#= x").failure =
        some (.unterminated (Span.sized 9 3) "<#=" "#>") := by decide +kernel
    have scanned : (Scan.ofText {} "<# end #><#= x").tokens =
        [⟨.blockOpen, "<#", Span.sized 0 2, []⟩, ⟨.code, " end ", Span.sized 2 5, []⟩,
          ⟨.blockClose, "#>", Span.sized 7 2, []⟩] := by decide +kernel
    apply ((parse_on_demand _ _).2 _ broken).2.2.1
    rw [scanned]
    exact Parse.objects_of_refuses (.segment (.block rfl rfl rfl) .used) (.here rfl)
  · have broken : (Scan.ofText {} "<# if x #><#= x").failure =
        some (.unterminated (Span.sized 10 3) "<#=" "#>") := by decide +kernel
    have scanned : (Scan.ofText {} "<# if x #><#= x").tokens =
        [⟨.blockOpen, "<#", Span.sized 0 2, []⟩, ⟨.code, " if x ", Span.sized 2 6, []⟩,
          ⟨.blockClose, "#>", Span.sized 8 2, []⟩] := by decide +kernel
    apply ((parse_on_demand _ _).2 _ broken).2.2.2.1
    rw [scanned]
    exact Parse.not_objects_of_places (.segment (.block rfl rfl rfl) .used) (.inl rfl)
      (.cons rfl .nil)

end Stencil
