/-
# Two ways to write a directive

A directive is written with a mark of its own, or bare, as a code block that reads as one.
The two are split into a name and its arguments by different rules. The name of an explicit
directive is whatever stands before the first blank, and a wrong name is an error; a bare
name is a word, and what is not a directive is code, without any error.

The rules agree on every directive there is. A name that has a meaning consists of word
characters, and no blank is one, so a word that ends at a blank and the characters up to the
first blank are the same once the name is known. What is left over is split and interpreted
alike, and each error of the explicit way is a case in which the bare way gives up.
-/

import Stencil.Context
import Stencil.Scan

namespace Stencil

namespace Text

/-- The code points of the blanks. -/
def blankCodes : List Nat :=
  List.range' 9 5 ++ List.range' 28 5 ++ [0x85, 0xA0, 0x1680] ++ List.range' 0x2000 11 ++
    [0x2028, 0x2029, 0x202F, 0x205F, 0x3000]

theorem toNat_mem_blankCodes {c : Char} (blank : isBlank c = true) : c.toNat ∈ blankCodes := by
  simp only [isBlank, Bool.or_eq_true, Bool.and_eq_true, decide_eq_true_eq, beq_iff_eq] at blank
  simp only [blankCodes, List.mem_append, List.mem_range'_1, List.mem_cons, List.not_mem_nil,
    or_false]
  omega

/-- No blank is a word character. -/
theorem isWord_of_isBlank {c : Char} (blank : isBlank c = true) : isWord c = false := by
  have none : blankCodes.all (fun n => !isWord (Char.ofNat n)) = true := by decide +kernel
  have here := List.all_eq_true.mp none c.toNat (toNat_mem_blankCodes blank)
  simpa using here

end Text

/-- Only a directive name has a meaning, whatever the arguments. -/
theorem Directive.isName_of_interpret {name : String} {args : List String}
    {directive : Directive} (meaning : interpret name args = .ok directive) :
    isName name = true := by
  unfold interpret at meaning
  split at meaning
  · rename_i clean
    simp [isName, clean]
  · split at meaning
    · rename_i escape
      simp [isName, escape]
    · cases meaning

namespace Fragment

variable {code after : List Char} {name : String} {args : List String} {directive : Directive}
  {span : Span}

/-- The explicit way to read code as a directive: its head is taken off, the rest is split
into arguments, and name and arguments are interpreted. -/
def readExplicit (code : List Char) (span : Span) :
    Except TemplateError (String × List String × Directive) :=
  match explicitDirective code span with
  | .error error => .error error
  | .ok token =>
    match Directive.interpret token.value token.args with
    | .error fault => .error (.ofDirectiveFault token.value token.args span fault)
    | .ok directive => .ok (token.value, token.args, directive)

/-- Code that starts, after blanks, with the name of a directive and a blank, or with the
name alone. -/
structure Headed (code : List Char) (name : String) (after : List Char) : Prop where
  spelled : Text.trimStart code = name.toList ++ after
  named : Directive.isName name = true
  ended : ∀ c ∈ after.head?, Text.isBlank c = true

namespace Headed

theorem name_eq (headed : Headed code name after) :
    name = Directive.cleanName ∨ name = Directive.escapeName := by
  simpa [Directive.isName] using headed.named

/-- The names are words, and nothing in them is blank. -/
theorem solid (headed : Headed code name after) :
    ∀ c ∈ name.toList, Text.isWord c = true ∧ Text.isBlank c = false := by
  have all : name.toList.all (fun c => Text.isWord c && !Text.isBlank c) = true := by
    rcases headed.name_eq with rfl | rfl <;> decide
  simpa using all

theorem exists_first (headed : Headed code name after) :
    ∃ first others, name.toList = first :: others ∧ Text.isNameStart first = true := by
  rcases headed.name_eq with rfl | rfl
  · exact ⟨'c', "leanws".toList, by decide, by decide⟩
  · exact ⟨'e', "scape".toList, by decide, by decide⟩

/-- Up to the first blank stands the name. -/
theorem explicitHead_eq (headed : Headed code name after) : explicitHead code = (name, after) := by
  obtain ⟨taken, dropped⟩ :
      (name.toList ++ after).takeWhile (fun c => !Text.isBlank c) = name.toList ∧
        (name.toList ++ after).dropWhile (fun c => !Text.isBlank c) = after :=
    Text.takeWhile_eq_front (fun c present => by simp [(headed.solid c present).2])
      (fun c first => by simp [headed.ended c first])
  simp only [explicitHead, headed.spelled, taken, dropped, String.ofList_toList]

/-- The first word is the name, also before other text that starts with a blank. -/
theorem word_eq (headed : Headed code name after) {rest : List Char}
    (ended : ∀ c ∈ rest.head?, Text.isBlank c = true) :
    (name.toList ++ rest).takeWhile Text.isWord = name.toList ∧
      (name.toList ++ rest).dropWhile Text.isWord = rest :=
  Text.takeWhile_eq_front (fun c present => (headed.solid c present).1)
    (fun c first => Text.isWord_of_isBlank (ended c first))

end Headed

/-- Whatever the head of an explicit directive is, it ends at a blank. -/
theorem headed_explicitHead (named : Directive.isName (explicitHead code).1 = true) :
    Headed code (explicitHead code).1 (explicitHead code).2 where
  spelled := by
    simp only [explicitHead, String.toList_ofList]
    exact List.takeWhile_append_dropWhile.symm
  named := named
  ended := by
    intro c first
    have stops := List.head?_dropWhile_not (fun c => !Text.isBlank c) (Text.trimStart code)
    simp only [explicitHead] at first
    rw [Option.mem_def.mp first] at stops
    simpa using stops

/-- A bare directive is the name of a directive with arguments that suit it. -/
theorem bareDirective?_eq_some_iff :
    bareDirective? code = some (name, args) ↔
      ∃ after, Headed code name after ∧ Argument.split (String.ofList after) = .ok args ∧
        ∃ directive, Directive.interpret name args = .ok directive := by
  constructor
  · intro recognised
    unfold bareDirective? at recognised
    split at recognised
    · cases recognised
    · rename_i first others trimmed
      dsimp only at recognised
      split at recognised
      · rename_i fits
        simp only [Bool.and_eq_true] at fits
        split at recognised
        · cases recognised
        · rename_i arguments
          split at recognised
          · cases recognised
          · rename_i directive meaning
            cases recognised
            refine ⟨_, ⟨?_, fits.2, ?_⟩, arguments, directive, meaning⟩
            · rw [trimmed, String.toList_ofList, List.takeWhile_append_dropWhile]
            · exact (Option.all_eq_true _ _).mp fits.1.2
      · cases recognised
  · rintro ⟨after, headed, arguments, directive, meaning⟩
    obtain ⟨first, others, spelled, starts⟩ := headed.exists_first
    obtain ⟨taken, dropped⟩ := headed.word_eq headed.ended
    have whole : Text.trimStart code = first :: (others ++ after) := by
      rw [headed.spelled, spelled, List.cons_append]
    rw [spelled, List.cons_append] at taken dropped
    have blank : after.head?.all Text.isBlank = true := by
      cases after with
      | nil => rfl
      | cons c _ => exact headed.ended c rfl
    unfold bareDirective?
    rw [whole]
    simp only [taken, dropped, ← spelled, String.ofList_toList, starts, blank, headed.named,
      Bool.and_self, if_true, arguments, meaning]

/-- An explicit directive has a head, arguments and a meaning. -/
theorem readExplicit_eq_ok_iff :
    readExplicit code span = .ok (name, args, directive) ↔
      (explicitHead code).1 = name ∧
        Argument.split (String.ofList (explicitHead code).2) = .ok args ∧
        Directive.interpret name args = .ok directive := by
  simp only [readExplicit, explicitDirective]
  cases split : Argument.split (String.ofList (explicitHead code).2) with
  | error fault => simp
  | ok found =>
      dsimp only
      cases meaning : Directive.interpret (explicitHead code).1 found with
      | error fault =>
          simp only [reduceCtorEq, false_iff, not_and, Except.ok.injEq]
          rintro rfl rfl understood
          cases meaning.symm.trans understood
      | ok understood =>
          simp only [Except.ok.injEq, Prod.mk.injEq]
          constructor
          · rintro ⟨rfl, rfl, rfl⟩
            exact ⟨rfl, rfl, meaning⟩
          · rintro ⟨rfl, rfl, same⟩
            exact ⟨rfl, rfl, Except.ok.inj (meaning.symm.trans same)⟩

/-- The explicit way fails in two ways only, and points at the whole construct. -/
theorem kind_of_readExplicit {error : TemplateError}
    (refused : readExplicit code span = .error error) :
    error.span = span ∧
      (error.kind = "InvalidDirectiveArgs" ∨ error.kind = "UnknownDirective") := by
  simp only [readExplicit, explicitDirective] at refused
  split at refused
  · rename_i fails
    split at fails
    · cases fails
    · cases fails
      cases refused
      exact ⟨rfl, .inl rfl⟩
  · split at refused
    · rename_i fault _
      cases refused
      cases fault with
      | unknownName => exact ⟨rfl, .inr rfl⟩
      | unsuitable reason => exact ⟨rfl, .inl rfl⟩
    · cases refused

/-- The bare and the explicit way to read code as a directive agree. Code is a bare directive
exactly if the explicit way succeeds on it to the end, and both ways give the same name, the
same arguments, and so the same meaning. All other code is no bare directive, while the
explicit way ends in one of two errors. -/
theorem bare_iff_explicit (code : List Char) (span : Span) :
    (∀ name args, bareDirective? code = some (name, args) ↔
      ∃ directive, readExplicit code span = .ok (name, args, directive)) ∧
    (∀ name args directive, readExplicit code span = .ok (name, args, directive) →
      Directive.interpret name args = .ok directive) ∧
    (bareDirective? code = none ↔
      ∃ error, readExplicit code span = .error error ∧ error.span = span ∧
        (error.kind = "InvalidDirectiveArgs" ∨ error.kind = "UnknownDirective")) := by
  have agree (name : String) (args : List String) : bareDirective? code = some (name, args) ↔
      ∃ directive, readExplicit code span = .ok (name, args, directive) := by
    simp only [bareDirective?_eq_some_iff, readExplicit_eq_ok_iff]
    constructor
    · rintro ⟨after, headed, arguments, directive, meaning⟩
      rw [headed.explicitHead_eq]
      exact ⟨directive, rfl, arguments, meaning⟩
    · rintro ⟨directive, rfl, arguments, meaning⟩
      exact ⟨_, headed_explicitHead (Directive.isName_of_interpret meaning), arguments, directive,
        meaning⟩
  refine ⟨agree, fun name args directive read => (readExplicit_eq_ok_iff.mp read).2.2, ?_⟩
  cases read : readExplicit code span with
  | error error =>
      have silent : bareDirective? code = none := by
        rw [Option.eq_none_iff_forall_ne_some]
        rintro ⟨name, args⟩ recognised
        obtain ⟨directive, succeeds⟩ := (agree name args).mp recognised
        cases read.symm.trans succeeds
      exact ⟨fun _ => ⟨error, rfl, kind_of_readExplicit read⟩, fun _ => silent⟩
  | ok found =>
      obtain ⟨name, args, directive⟩ := found
      have recognised := (agree name args).mpr ⟨directive, read⟩
      simp [recognised]

end Fragment

end Stencil
