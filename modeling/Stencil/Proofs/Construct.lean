/-
# One construct at a time

A step of a scan is described here by how it splits the source, so that no later
proof opens the step itself. A step that goes on has passed a text, an opener, code
and a closer, in this order and with nothing between them; a step that ends the
scan has passed a text only. A step that breaks off has met an opener whose closer
is missing, or a complete construct that has no tokens. A scan is a chain of such
steps, and what holds of all scans is shown along this chain.
-/

import Stencil.Proofs.Doubling

namespace Stencil

namespace Construct

/-- Every opener has a first character. -/
theorem opener_toList_ne (delimiters : Delimiters) (construct : Construct) :
    (construct.opener delimiters).toList ≠ [] := by
  cases construct with
  | expression | directive =>
      simp [opener, Delimiters.expressionOpener, Delimiters.directiveOpener, delimiters.opener_ne]
  | block => exact delimiters.opener_toList_ne

/-- At an opener, the recognised construct starts with what stands there. -/
theorem opener_recognise_prefix {delimiters : Delimiters} {cs : List Char}
    (h : delimiters.opener.toList <+: cs) :
    ((recognise delimiters cs).opener delimiters).toList <+: cs := by
  unfold recognise
  split
  · rename_i expression
    exact List.isPrefixOf_iff_prefix.mp expression
  · split
    · rename_i directive
      exact List.isPrefixOf_iff_prefix.mp directive
    · exact h

end Construct

namespace Fragment

variable {options : Options} {fragment : Fragment}

/-- The three forms that the tokens of a construct can have. -/
inductive Formed (options : Options) (fragment : Fragment) : List Token → Prop
  | expression (is : fragment.construct = .expression) :
      Formed options fragment
        (fragment.delimitedTokens options.delimiters .expressionOpen .expressionClose)
  | directive (name : String) (args : List String) (is : fragment.construct ≠ .expression) :
      Formed options fragment [⟨.directive, name, fragment.span options.delimiters, args⟩]
  | block (is : fragment.construct = .block) :
      Formed options fragment (fragment.delimitedTokens options.delimiters .blockOpen .blockClose)

/-- An explicit directive is a directive over its whole construct. -/
theorem exists_of_explicitDirective {code : List Char} {span : Span} {token : Token}
    (h : explicitDirective code span = .ok token) :
    ∃ name args, token = ⟨.directive, name, span, args⟩ := by
  simp only [explicitDirective] at h
  split at h
  · cases h
    exact ⟨_, _, rfl⟩
  · cases h

theorem formed_tokens {tokens : List Token} (h : fragment.tokens options = .ok tokens) :
    Formed options fragment tokens := by
  simp only [Fragment.tokens] at h
  split at h
  · rename_i expression
    cases h
    exact .expression expression
  · rename_i directive
    cases explicit : explicitDirective fragment.code (fragment.span options.delimiters) with
    | error error =>
        rw [explicit] at h
        cases h
    | ok token =>
        rw [explicit] at h
        cases h
        obtain ⟨name, args, rfl⟩ := exists_of_explicitDirective explicit
        exact .directive name args (by simp [directive])
  · rename_i block
    split at h
    · cases h
      exact .directive _ _ (by simp [block])
    · cases h
      exact .block block

end Fragment

namespace Scan

variable {options : Options} {offset : Nat} {cs : List Char}

/-- A source up to a construct: a text, and the opener of the construct. -/
structure Approach (options : Options) (cs : List Char) where
  text : Stretch
  construct : Construct
  /-- The source after the opener. -/
  inside : List Char
  reads : Stretch.Reads options.delimiters.opener.toList options.doubling cs text
  recognised : construct = Construct.recognise options.delimiters text.rest
  opened : text.rest = (construct.opener options.delimiters).toList ++ inside

/-- A source up to the closer of a construct. -/
structure Passage (options : Options) (cs : List Char) extends Approach options cs where
  code : Stretch
  /-- The source after the closer. -/
  after : List Char
  readsCode : Stretch.Reads options.delimiters.closer.toList options.doubling inside code
  closed : code.rest = options.delimiters.closer.toList ++ after

/-- The construct that a passage has passed, at its place in the source. -/
def Passage.fragment (passage : Passage options cs) (offset : Nat) : Fragment :=
  ⟨passage.construct, offset + passage.text.size, passage.code.value, passage.code.size⟩

/-- The batch of a passage whose construct has tokens. -/
def Passage.batch (passage : Passage options cs) (offset : Nat) (tokens : List Token) : Batch :=
  ⟨literal passage.text offset ++ tokens,
    ((passage.fragment offset).closeSpan options.delimiters).stop⟩

/-- What a step comes to that has passed a construct with these tokens. -/
def Passage.outcome (passage : Passage options cs) (offset : Nat) :
    Except TemplateError (List Token) → Step
  | .error error => .broken error
  | .ok tokens => .more (passage.batch offset tokens) passage.after

/-- All that a step can come to. -/
inductive Stepped (options : Options) (offset : Nat) (cs : List Char) : Step → Prop
  | final (text : Stretch)
      (reads : Stretch.Reads options.delimiters.opener.toList options.doubling cs text)
      (ended : text.rest = []) :
      Stepped options offset cs
        (.final ⟨literal text offset ++ [ending (offset + text.size)], offset + text.size⟩)
  | unterminated (approach : Approach options cs) (code : Stretch)
      (readsCode : Stretch.Reads options.delimiters.closer.toList options.doubling
        approach.inside code)
      (ended : code.rest = []) :
      Stepped options offset cs
        (.broken (.unterminated
          (Span.sized (offset + approach.text.size)
            (approach.construct.opener options.delimiters).toList.length)
          (approach.construct.opener options.delimiters) options.delimiters.closer))
  | refused (passage : Passage options cs) (error : TemplateError)
      (tokens : (passage.fragment offset).tokens options = .error error) :
      Stepped options offset cs (.broken error)
  | more (passage : Passage options cs) (tokens : List Token)
      (accepted : (passage.fragment offset).tokens options = .ok tokens) :
      Stepped options offset cs (.more (passage.batch offset tokens) passage.after)

private theorem drop_front {front back cs : List Char} (h : front ++ back = cs) :
    cs.drop front.length = back := by
  rw [← h, List.drop_left]

/-- A step does what the rules say. -/
theorem stepped_step (options : Options) (offset : Nat) (cs : List Char) :
    Stepped options offset cs (step options offset cs) := by
  have reads := Stretch.reads_read options.delimiters.opener_toList_ne options.doubling cs
  simp only [step]
  split
  · rename_i ended
    exact .final _ reads ended
  · rename_i first others atOpener
    have found : options.delimiters.opener.toList <+:
        (Stretch.read options.delimiters.opener.toList options.doubling cs).rest := by
      rcases reads.rest_eq_nil_or_prefix with ended | found
      · rw [atOpener] at ended
        cases ended
      · exact found
    obtain ⟨inside, opened⟩ := Construct.opener_recognise_prefix found
    let approach : Approach options cs := ⟨_, _, inside, reads, rfl, opened.symm⟩
    have readsCode := Stretch.reads_read options.delimiters.closer_toList_ne
      options.doubling inside
    rw [drop_front opened]
    split
    · rename_i ended
      exact .unterminated approach _ readsCode ended
    · rename_i second further atCloser
      obtain ⟨after, closed⟩ : options.delimiters.closer.toList <+:
          (Stretch.read options.delimiters.closer.toList options.doubling inside).rest := by
        rcases readsCode.rest_eq_nil_or_prefix with ended | found
        · rw [atCloser] at ended
          cases ended
        · exact found
      let passage : Passage options cs := ⟨approach, _, after, readsCode, closed.symm⟩
      split
      · rename_i error refused
        exact .refused passage error refused
      · rename_i tokens accepted
        rw [drop_front closed]
        exact .more passage tokens accepted

/-! A step is fixed by what it passes, so the rules can also be used to compute one. -/

theorem step_of_ended {text : Stretch}
    (reads : Stretch.Reads options.delimiters.opener.toList options.doubling cs text)
    (ended : text.rest = []) (offset : Nat) :
    step options offset cs =
      .final ⟨literal text offset ++ [ending (offset + text.size)], offset + text.size⟩ := by
  simp only [step, reads.read_eq options.delimiters.opener_toList_ne, ended]

/-- There is something to read at an opener. -/
theorem Approach.rest_ne_nil (approach : Approach options cs) : approach.text.rest ≠ [] := by
  rw [approach.opened]
  simp [approach.construct.opener_toList_ne options.delimiters]

theorem step_of_unterminated (approach : Approach options cs) {code : Stretch}
    (readsCode : Stretch.Reads options.delimiters.closer.toList options.doubling
      approach.inside code)
    (ended : code.rest = []) (offset : Nat) :
    step options offset cs =
      .broken (.unterminated
        (Span.sized (offset + approach.text.size)
          (approach.construct.opener options.delimiters).toList.length)
        (approach.construct.opener options.delimiters) options.delimiters.closer) := by
  obtain ⟨first, others, atOpener⟩ := List.exists_cons_of_ne_nil approach.rest_ne_nil
  simp only [step, approach.reads.read_eq options.delimiters.opener_toList_ne,
    ← approach.recognised, drop_front approach.opened.symm,
    readsCode.read_eq options.delimiters.closer_toList_ne, ended]
  rw [atOpener]

theorem Passage.step_eq (passage : Passage options cs) (offset : Nat) :
    step options offset cs =
      passage.outcome offset ((passage.fragment offset).tokens options) := by
  obtain ⟨first, others, atOpener⟩ := List.exists_cons_of_ne_nil passage.rest_ne_nil
  obtain ⟨second, further, atCloser⟩ : ∃ second further, passage.code.rest = second :: further := by
    refine List.exists_cons_of_ne_nil ?_
    rw [passage.closed]
    simp [options.delimiters.closer_ne]
  simp only [step, passage.reads.read_eq options.delimiters.opener_toList_ne,
    ← passage.recognised, drop_front passage.opened.symm,
    passage.readsCode.read_eq options.delimiters.closer_toList_ne, drop_front passage.closed.symm]
  rw [atOpener, atCloser, ← Passage.fragment]
  cases (passage.fragment offset).tokens options with
  | error error => rfl
  | ok tokens => rfl

/-- A construct with tokens is followed by the scan of what comes after it. -/
theorem Passage.scanFrom_eq (passage : Passage options cs) {tokens : List Token}
    (accepted : (passage.fragment offset).tokens options = .ok tokens) :
    scanFrom options offset cs =
      deliver (passage.batch offset tokens)
        (scanFrom options (passage.batch offset tokens).position passage.after) :=
  scanFrom_of_more (by rw [passage.step_eq, accepted]; rfl)

/-- All that a scan can come to. An induction on this goes from construct to construct. -/
inductive Scans (options : Options) : Nat → List Char → Scan → Prop
  | final {offset : Nat} {cs : List Char} (text : Stretch)
      (reads : Stretch.Reads options.delimiters.opener.toList options.doubling cs text)
      (ended : text.rest = []) :
      Scans options offset cs
        ⟨[⟨literal text offset ++ [ending (offset + text.size)], offset + text.size⟩], none⟩
  | broken {offset : Nat} {cs : List Char} (error : TemplateError)
      (stepped : Stepped options offset cs (.broken error)) :
      Scans options offset cs (fail error)
  | more {offset : Nat} {cs : List Char} {next : Scan} (passage : Passage options cs)
      (tokens : List Token) (accepted : (passage.fragment offset).tokens options = .ok tokens)
      (further : Scans options (passage.batch offset tokens).position passage.after next) :
      Scans options offset cs (deliver (passage.batch offset tokens) next)

/-- A scan does what the rules say. -/
theorem scans_scanFrom (options : Options) (offset : Nat) (cs : List Char) :
    Scans options offset cs (scanFrom options offset cs) := by
  fun_induction scanFrom options offset cs with
  | case1 offset cs batch ends =>
      have stepped := stepped_step options offset cs
      rw [ends] at stepped
      cases stepped with
      | final text reads ended => exact .final text reads ended
  | case2 offset cs error breaks =>
      have stepped := stepped_step options offset cs
      rw [breaks] at stepped
      exact .broken error stepped
  | case3 offset cs batch rest goesOn ih =>
      have stepped := stepped_step options offset cs
      rw [goesOn] at stepped
      cases stepped with
      | more passage tokens accepted => exact .more passage tokens accepted ih

end Scan

end Stencil
