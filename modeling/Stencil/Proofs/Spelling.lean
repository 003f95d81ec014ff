/-
# What a bare directive looks like

A code block that reads as a directive could as well have been read as code, and this
module says as what: always as a statement, in either block style. In the keyword style
that is because of its first word, which is the name of the directive. In the brace
style it takes more: the arguments of a directive may be written in several ways, but
splitting them loses nothing but blanks, quotes and backslashes, so a brace in the code
would be a brace in an argument, and no directive has a meaning with one.
-/

import Stencil.Proofs.Directives
import Stencil.Shape

namespace Stencil

namespace Argument

variable {c : Char} {cs argument rest : List Char}

/-- A character that splitting does not lose. -/
structure Kept (c : Char) : Prop where
  notBlank : Text.isBlank c = false
  notQuote : c ≠ Text.doubleQuote
  notBackslash : c ≠ '\\'

theorem Kept.mem_readQuoted (kept : Kept c) {result : List Char × List Char}
    (found : readQuoted cs = some result) (present : c ∈ cs) : c ∈ result.1 ∨ c ∈ result.2 := by
  fun_induction readQuoted cs generalizing result with
  | case1 | case2 | case3 => cases found
  | case4 first cs _ ih =>
      obtain ⟨inner, further, rfl⟩ := Option.map_eq_some_iff.mp found
      simp only [List.mem_cons] at present ⊢
      rcases present with same | rfl | later
      · exact absurd same kept.notBackslash
      · exact .inl (.inl rfl)
      · exact (ih further later).imp_left .inr
  | case5 cs =>
      obtain rfl := Option.some.inj found
      exact .inr (List.mem_of_ne_of_mem kept.notQuote present)
  | case6 first cs _ _ _ ih =>
      obtain ⟨inner, further, rfl⟩ := Option.map_eq_some_iff.mp found
      simp only [List.mem_cons] at present ⊢
      rcases present with rfl | later
      · exact .inl (.inl rfl)
      · exact (ih further later).imp_left .inr

/-- A character is among those taken while a test holds, or among the rest. -/
private theorem mem_takeWhile_or_dropWhile (p : Char → Bool) (present : c ∈ cs) :
    c ∈ cs.takeWhile p ∨ c ∈ cs.dropWhile p := by
  rw [← List.mem_append, List.takeWhile_append_dropWhile]
  exact present

theorem Kept.mem_readValue (kept : Kept c) (present : c ∈ cs) :
    c ∈ (readValue cs).1 ∨ c ∈ (readValue cs).2 := by
  unfold readValue
  split
  · rename_i first others
    split
    · rename_i quote
      cases found : readQuoted others with
      | none => exact .inr present
      | some result =>
          rw [quote] at present
          exact kept.mem_readQuoted found (List.mem_of_ne_of_mem kept.notQuote present)
    · exact mem_takeWhile_or_dropWhile _ present
  · cases present

/-- Only blanks are dropped at the front. -/
theorem Kept.mem_trimStart (kept : Kept c) (present : c ∈ cs) : c ∈ Text.trimStart cs := by
  obtain ⟨front, split, blank⟩ := Text.exists_trimStart cs
  rw [split] at present
  rcases List.mem_append.mp present with dropped | later
  · have blank := blank c dropped
    rw [kept.notBlank] at blank
    cases blank
  · exact later

theorem Kept.mem_readPair (kept : Kept c) (found : readPair cs = some (argument, rest))
    (present : c ∈ cs) : c ∈ argument ∨ c ∈ rest := by
  unfold readPair at found
  split at found
  · cases found
  · rename_i first others
    split at found
    · split at found
      · rename_i value equals
        cases found
        rcases mem_takeWhile_or_dropWhile isKeyRest present with key | after
        · exact .inl (List.mem_append_left _ key)
        · have signed := kept.mem_trimStart after
          rw [equals] at signed
          rcases List.mem_cons.mp signed with rfl | after
          · exact .inl (List.mem_append_right _ List.mem_cons_self)
          · refine (kept.mem_readValue (kept.mem_trimStart after)).imp_left fun valued => ?_
            exact List.mem_append_right _ (List.mem_cons_of_mem _ valued)
      · cases found
    · cases found

theorem mem_readWord (found : readWord cs = some (argument, rest)) (present : c ∈ cs) :
    c ∈ argument ∨ c ∈ rest := by
  unfold readWord at found
  split at found
  · cases found
  · split at found
    · cases found
      exact mem_takeWhile_or_dropWhile _ present
    · cases found

theorem Kept.mem_readArgument (kept : Kept c) (found : readArgument cs = some (argument, rest))
    (present : c ∈ cs) : c ∈ argument ∨ c ∈ rest := by
  unfold readArgument at found
  cases pair : readPair cs with
  | none =>
      rw [pair, Option.none_or] at found
      exact mem_readWord found present
  | some result =>
      rw [pair, Option.some_or] at found
      cases found
      exact kept.mem_readPair pair present

/-- Every character of an argument text is in one of the arguments, unless it is a blank,
a quote or a backslash. -/
theorem Kept.mem_splitFrom (kept : Kept c) {total : Nat} {args : List String}
    (split : splitFrom total cs = .ok args) (present : c ∈ cs) :
    ∃ arg ∈ args, c ∈ arg.toList := by
  fun_induction splitFrom total cs generalizing args with
  | case1 cs blank =>
      have left := kept.mem_trimStart present
      rw [blank] at left
      cases left
  | case2 => cases split
  | case3 cs first others trimmed argument rest found separated ih =>
      have left := kept.mem_trimStart present
      rw [trimmed] at left
      cases further : splitFrom total rest with
      | error fault =>
          rw [further] at split
          cases split
      | ok others =>
          rw [further] at split
          cases split
          rcases kept.mem_readArgument found left with here | later
          · refine ⟨_, List.mem_cons_self, ?_⟩
            rwa [String.toList_ofList]
          · obtain ⟨arg, listed, inside⟩ := ih further later
            exact ⟨arg, List.mem_cons_of_mem _ listed, inside⟩
  | case4 => cases split

end Argument

/-- Every character of a text other than the separator is in one of its pieces. -/
theorem Text.exists_mem_pieces {separator c : Char} {cs : List Char} (present : c ∈ cs)
    (differs : c ≠ separator) : ∃ piece ∈ Text.pieces separator cs, c ∈ piece := by
  induction cs with
  | nil => cases present
  | cons first others ih =>
      rw [Text.pieces]
      by_cases cut : first = separator
      · rw [if_pos cut]
        rw [cut] at present
        obtain ⟨piece, listed, inside⟩ := ih (List.mem_of_ne_of_mem differs present)
        exact ⟨piece, List.mem_cons_of_mem _ listed, inside⟩
      · rw [if_neg cut]
        rcases List.mem_cons.mp present with rfl | later
        · split <;> exact ⟨_, List.mem_cons_self, List.mem_cons_self⟩
        · obtain ⟨piece, listed, inside⟩ := ih later
          split
          · rename_i none
            rw [none] at listed
            cases listed
          · rename_i joined rest split
            rw [split] at listed
            rcases List.mem_cons.mp listed with rfl | listed
            · exact ⟨_, List.mem_cons_self, List.mem_cons_of_mem _ inside⟩
            · exact ⟨piece, List.mem_cons_of_mem _ listed, inside⟩

namespace Directive

variable {c : Char} {argument : String}

/-- A character that has no case and is neither in the names of functions nor in the words of
the directive language. -/
structure Unused (c : Char) : Prop where
  notInName : c ∉ cleanName.toList ∧ c ∉ escapeName.toList
  caseless : Text.lowerChar c = c
  notFirst : Text.isIdentifierStart c = false
  notLater : Text.isIdentifierRest c = false
  notDot : c ≠ '.'
  notInKey : c ∉ functionKey.toList
  notInWord : ∀ word ∈ ["block", "none", "auto", "raw"] ++ enablingWords ++ disablingWords,
    c ∉ word.toList

namespace Unused

/-- What a word does not have it has in no case. -/
theorem not_mem_of_lower (unused : Unused c) (absent : c ∉ (Text.lower argument).toList) :
    c ∉ argument.toList := by
  intro present
  apply absent
  rw [Text.lower, String.toList_ofList, ← unused.caseless]
  exact List.mem_map_of_mem present

theorem not_mem_identifier (unused : Unused c) {name : String}
    (identifier : Text.isIdentifier name = true) : c ∉ name.toList := by
  intro present
  unfold Text.isIdentifier at identifier
  split at identifier
  · cases identifier
  · rename_i first others spelled
    rw [Bool.and_eq_true, List.all_eq_true] at identifier
    rw [spelled] at present
    rcases List.mem_cons.mp present with rfl | later
    · rw [unused.notFirst] at identifier
      exact absurd identifier.1 (by simp)
    · have allowed := identifier.2 c later
      rw [unused.notLater] at allowed
      cases allowed

theorem not_mem_functionName (unused : Unused c) {name : String}
    (named : isFunctionName name = true) : c ∉ name.toList := by
  intro present
  obtain ⟨piece, listed, inside⟩ := Text.exists_mem_pieces present unused.notDot
  have identifier := List.all_eq_true.mp named piece listed
  rw [← String.toList_ofList (l := piece)] at inside
  exact unused.not_mem_identifier identifier inside

end Unused

theorem not_mem_of_interpretClean (unused : Unused c) {args : List String} {directive : Directive}
    (meaning : interpretClean args = .ok directive) : ∀ arg ∈ args, c ∉ arg.toList := by
  unfold interpretClean at meaning
  split at meaning
  · simp
  · rename_i argument
    rw [List.forall_mem_singleton]
    dsimp only at meaning
    split at meaning
    · rename_i enabling
      refine unused.not_mem_of_lower (unused.notInWord _ ?_)
      rcases enabling with same | listed
      · simp [same, Cleaning.word]
      · simp [listed]
    · split at meaning
      · rename_i disabling
        refine unused.not_mem_of_lower (unused.notInWord _ ?_)
        rcases disabling with same | listed
        · simp [same, Cleaning.word]
        · simp [listed]
      · cases meaning
  · cases meaning

theorem not_mem_of_interpretEscape (unused : Unused c) {args : List String}
    {directive : Directive} (meaning : interpretEscape args = .ok directive) :
    ∀ arg ∈ args, c ∉ arg.toList := by
  unfold interpretEscape at meaning
  split at meaning
  · rename_i argument
    rw [List.forall_mem_singleton]
    split at meaning
    · rename_i name given
      -- The argument is the key and the name, and neither has the character in it.
      have spelled : argument.toList = functionKey.toList ++ name.toList := by
        unfold functionOf? at given
        split at given
        · rename_i starts
          cases given
          rw [String.toList_ofList]
          exact (List.prefix_iff_eq_append.mp (List.isPrefixOf_iff_prefix.mp starts)).symm
        · cases given
      have absentName : c ∉ name.toList := by
        split at meaning
        · rename_i empty
          simp [empty]
        · split at meaning
          · rename_i named
            exact unused.not_mem_functionName named
          · cases meaning
      rw [spelled, List.mem_append]
      exact not_or.mpr ⟨unused.notInKey, absentName⟩
    · dsimp only at meaning
      split at meaning
      · rename_i enabling
        refine unused.not_mem_of_lower (unused.notInWord _ ?_)
        rcases enabling with same | listed
        · simp [same]
        · simp [listed]
      · split at meaning
        · rename_i disabling
          refine unused.not_mem_of_lower (unused.notInWord _ ?_)
          rcases disabling with same | same | listed
          · simp [same]
          · simp [same]
          · simp [listed]
        · cases meaning
  · cases meaning

/-- Neither the name nor an argument of a directive that has a meaning has such a character in
it. -/
theorem not_mem_of_interpret (unused : Unused c) {name : String} {args : List String}
    {directive : Directive} (meaning : interpret name args = .ok directive) :
    ∀ word ∈ name :: args, c ∉ word.toList := by
  rw [List.forall_mem_cons]
  unfold interpret at meaning
  split at meaning
  · rename_i named
    rw [named]
    cases clean : interpretClean args with
    | error reason =>
        rw [clean] at meaning
        cases meaning
    | ok found => exact ⟨unused.notInName.1, not_mem_of_interpretClean unused clean⟩
  · split at meaning
    · rename_i named
      rw [named]
      cases escape : interpretEscape args with
      | error reason =>
          rw [escape] at meaning
          cases meaning
      | ok found => exact ⟨unused.notInName.2, not_mem_of_interpretEscape unused escape⟩
    · cases meaning

end Directive

/-- A brace of either kind. -/
def IsBrace (c : Char) : Prop := c = '{' ∨ c = '}'

namespace IsBrace

variable {c : Char}

theorem kept (brace : IsBrace c) : Argument.Kept c := by
  rcases brace with rfl | rfl
  · exact ⟨by decide, by decide, by decide⟩
  · exact ⟨by decide, by decide, by decide⟩

theorem unused (brace : IsBrace c) : Directive.Unused c := by
  rcases brace with rfl | rfl
  · exact ⟨by decide, by decide, by decide, by decide, by decide, by decide, by decide⟩
  · exact ⟨by decide, by decide, by decide, by decide, by decide, by decide, by decide⟩

end IsBrace

namespace Fragment

variable {code : List Char} {name : String} {args : List String}

/-- Code that reads as a directive: what follows the name splits into the arguments. -/
structure Bare (code : List Char) (name : String) (args : List String) (after : List Char) : Prop
    extends Headed code name after where
  arguments : Argument.split (String.ofList after) = .ok args
  meaning : ∃ directive, Directive.interpret name args = .ok directive

theorem exists_bare (recognised : bareDirective? code = some (name, args)) :
    ∃ after, Bare code name args after := by
  obtain ⟨after, headed, arguments, meaning⟩ := bareDirective?_eq_some_iff.mp recognised
  exact ⟨after, headed, arguments, meaning⟩

namespace Headed

variable {after : List Char}

/-- Trimming leaves the name, and of what follows it all but blanks at the end. -/
theorem exists_trim (headed : Headed code name after) :
    ∃ kept, Text.trim code = name.toList ++ kept ∧ ∀ c ∈ kept.head?, Text.isBlank c = true := by
  obtain ⟨back, split, blank⟩ := Text.exists_trimEnd (Text.trimStart code)
  rw [← Text.trim, headed.spelled] at split
  rcases List.append_eq_append_iff.mp split with ⟨kept, whole, rest⟩ | ⟨lost, named, rest⟩
  · refine ⟨kept, whole, ?_⟩
    intro c front
    refine headed.ended c ?_
    rw [rest, List.head?_append, Option.mem_def.mp front, Option.some_or]
    rfl
  · -- A part of the name would have to be blank.
    have none : lost = [] := by
      refine List.eq_nil_iff_forall_not_mem.mpr fun c present => ?_
      have solid := (headed.solid c (named ▸ List.mem_append_right _ present)).2
      rw [blank c (rest ▸ List.mem_append_left _ present)] at solid
      cases solid
    subst none
    refine ⟨[], ?_, by simp⟩
    rw [List.append_nil, named, List.append_nil]

/-- The first word is the name, and trimming does not change that. -/
theorem firstWord_trim (headed : Headed code name after) :
    ∃ rest, Shape.firstWord (Text.trim code) = some (name, rest) := by
  obtain ⟨kept, whole, ended⟩ := headed.exists_trim
  obtain ⟨first, others, spelled, starts⟩ := headed.exists_first
  obtain ⟨word, rest⟩ := headed.word_eq ended
  have solid := (headed.solid first (spelled ▸ List.mem_cons_self)).2
  have untrimmed : Text.trimStart (name.toList ++ kept) = name.toList ++ kept := by
    rw [spelled, List.cons_append, Text.trimStart, List.dropWhile_cons_of_neg (by simp [solid])]
  refine ⟨kept, ?_⟩
  rw [whole, Shape.firstWord, untrimmed]
  rw [spelled, List.cons_append] at word rest ⊢
  dsimp only
  rw [if_pos starts, word, rest, ← spelled, String.ofList_toList]

end Headed

namespace Bare

variable {after : List Char} {c : Char}

theorem not_mem_of_brace (bare : Bare code name args after) (brace : IsBrace c) :
    c ∉ Text.trimStart code := by
  obtain ⟨directive, meaning⟩ := bare.meaning
  have absent := Directive.not_mem_of_interpret brace.unused meaning
  rw [List.forall_mem_cons] at absent
  rw [bare.spelled, List.mem_append]
  rintro (inName | inArguments)
  · exact absent.1 inName
  · have split := bare.arguments
    rw [Argument.split, String.toList_ofList] at split
    obtain ⟨arg, listed, inside⟩ := brace.kept.mem_splitFrom split inArguments
    exact absent.2 arg listed inside

theorem ofKeywords_trim (bare : Bare code name args after) :
    Shape.ofKeywords (String.ofList (Text.trim code)) = ⟨.statement, none⟩ := by
  obtain ⟨rest, word⟩ := bare.firstWord_trim
  rw [Shape.ofKeywords, String.toList_ofList, word]
  rcases bare.name_eq with rfl | rfl <;> rfl

theorem ofBraces_trim (bare : Bare code name args after) :
    Shape.ofBraces (String.ofList (Text.trim code)) = ⟨.statement, none⟩ := by
  have absent : ∀ {c}, IsBrace c → c ∉ Text.trim (Text.trim code) := by
    intro c brace present
    exact bare.not_mem_of_brace brace
      (Text.trimEnd_subset _ (Text.trim_subset _ present))
  have notFirst : (Text.trim (Text.trim code)).head? ≠ some '}' := by
    intro first
    exact absent (.inr rfl) (List.mem_of_mem_head? first)
  have notLast : (Text.trim (Text.trim code)).getLast? ≠ some '{' := by
    intro last
    exact absent (.inl rfl) (List.mem_of_mem_getLast? last)
  simp [Shape.ofBraces, notFirst, notLast]

/-- A code block that reads as a directive is a statement in either style. -/
theorem classify_trimmed (bare : Bare code name args after) (style : BlockStyle) :
    Shape.classify style (Text.trimmed (String.ofList code)) = ⟨.statement, none⟩ := by
  rw [Text.trimmed, String.toList_ofList]
  cases style with
  | keyword => exact bare.ofKeywords_trim
  | brace => exact bare.ofBraces_trim

end Bare

end Fragment

end Stencil
