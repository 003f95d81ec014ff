/-
# Options are read exactly

The options that a document sets out are described here without a reader: which keys it may have,
what each value may be, what each value stands for, and what holds where a key is missing. The
reader accepts exactly these documents and gives exactly these options. Where it refuses a
document, its error points at a value that is refused by itself, and neither the options nor the
error depend on the order of the keys.

One kind of refusal is left without a proper error. The report of a word that is no member of an
enumeration shows the value, and a whole number with too many digits cannot be shown. This can
happen in the two fields of enumerations only, and only if all fields before are in order.
-/

import Stencil.Config
import Stencil.Proofs.Fields

namespace Stencil

open Document (KeysAmong Sets Holds Hides HidesKey lookup?)

namespace Delimiters

/-- The names of the delimiters. -/
def fieldNames : List String := ["open", "close", "expression", "directive"]

/-- The four texts that entries set, missing ones by default. -/
structure SetTo (entries : List (Document × Document))
    (opener closer expressionMark directiveMark : String) : Prop where
  keys : KeysAmong fieldNames entries
  opener : Sets entries "open" Document.IsText "<#" opener
  closer : Sets entries "close" Document.IsText "#>" closer
  expressionMark : Sets entries "expression" Document.IsText "=" expressionMark
  directiveMark : Sets entries "directive" Document.IsText "@" directiveMark

/-- What delimiters a document describes. -/
def Described (document : Document) (delimiters : Delimiters) : Prop :=
  ∃ entries, document = .map entries ∧
    SetTo entries delimiters.opener delimiters.closer delimiters.expressionMark
      delimiters.directiveMark

/-- A mapping of names of delimiters to texts that, with the defaults, can be told apart. -/
def Acceptable (document : Document) : Prop :=
  ∃ entries opener closer expressionMark directiveMark, document = .map entries ∧
    SetTo entries opener closer expressionMark directiveMark ∧
    opener ≠ "" ∧ closer ≠ "" ∧ expressionMark ≠ "" ∧ directiveMark ≠ "" ∧
    opener ≠ closer ∧ expressionMark ≠ directiveMark

theorem exists_described_iff {document : Document} :
    (∃ delimiters, Described document delimiters) ↔ Acceptable document := by
  constructor
  · rintro ⟨delimiters, entries, is, set⟩
    exact ⟨entries, _, _, _, _, is, set, delimiters.opener_ne, delimiters.closer_ne,
      delimiters.expressionMark_ne, delimiters.directiveMark_ne, delimiters.delimiters_differ,
      delimiters.marks_differ⟩
  · rintro ⟨entries, opener, closer, expressionMark, directiveMark, is, set, opener_ne, closer_ne,
      expressionMark_ne, directiveMark_ne, delimiters_differ, marks_differ⟩
    exact ⟨{ opener, closer, expressionMark, directiveMark, opener_ne, closer_ne,
             expressionMark_ne, directiveMark_ne, delimiters_differ, marks_differ },
      entries, is, set⟩

theorem ofTexts_eq_ok_iff {opener closer expressionMark directiveMark : String}
    {delimiters : Delimiters} :
    ofTexts opener closer expressionMark directiveMark = .ok delimiters ↔
      delimiters.opener = opener ∧ delimiters.closer = closer ∧
        delimiters.expressionMark = expressionMark ∧ delimiters.directiveMark = directiveMark := by
  constructor
  · intro accepted
    simp only [ofTexts] at accepted
    repeat' split at accepted
    all_goals cases accepted
    exact ⟨rfl, rfl, rfl, rfl⟩
  · rintro ⟨rfl, rfl, rfl, rfl⟩
    simp [ofTexts, delimiters.opener_ne, delimiters.closer_ne, delimiters.expressionMark_ne,
      delimiters.directiveMark_ne, delimiters.delimiters_differ, delimiters.marks_differ]

section Body

variable {path : List String} {entries others : List (Document × Document)}

theorem reader_eq_ok_iff {document : Document} {delimiters : Delimiters} :
    reader path (.written document) = .ok delimiters ↔ Described document delimiters := by
  refine Reader.record_eq_ok_iff.trans ?_
  refine exists_congr fun entries => and_congr_right fun _ => ?_
  simp only [Reader.bind_eq_ok, Reader.Fields.getD_text_eq_ok_iff]
  constructor
  · rintro ⟨keys, opener, first, closer, second, expressionMark, third, directiveMark, fourth, made⟩
    split at made
    · rename_i accepted
      cases made
      obtain ⟨rfl, rfl, rfl, rfl⟩ := ofTexts_eq_ok_iff.mp accepted
      exact ⟨keys, first, second, third, fourth⟩
    · cases made
  · rintro ⟨keys, first, second, third, fourth⟩
    refine ⟨keys, _, first, _, second, _, third, _, fourth, ?_⟩
    rw [ofTexts_eq_ok_iff.mpr ⟨rfl, rfl, rfl, rfl⟩]
    rfl

theorem reader_steady : reader.Steady := by
  refine Reader.steady_record ?_
  intro path entries
  simp only [Reader.mapError_bind, Reader.Fields.getD_steady Reader.plain_text.steady path]
  refine bind_congr fun opener => bind_congr fun closer => bind_congr fun expressionMark =>
    bind_congr fun directiveMark => ?_
  split
  · rfl
  · exact Reader.fail_eq path (by simp)

/-- All that delimiters can be refused for: as a whole, or for one of the four values. -/
theorem refused_or_text_of_error {document : Document} {error : ConfigError}
    (fails : reader.run document = .error error) :
    Reader.Refused "Delimiters" fieldNames [] document error ∨
      (∃ report, error = ⟨[], .rejected report⟩ ∧ ∀ name ∈ fieldNames, ∀ part,
        document.at? [name] = some part → ∃ result, Reader.text.run part = .ok result) ∨
      ∃ name ∈ fieldNames, ∃ value, document.at? [name] = some value ∧
        Reader.text [name] (.written value) = .error error := by
  rw [Reader.run, reader] at fails
  rcases Reader.refused_or_of_record fails with refused | ⟨entries, rfl, known, fails⟩
  · exact .inl refused
  · have field {name default : String} (member : name ∈ fieldNames)
        (fails : Reader.Fields.getD ⟨[], entries⟩ name Reader.text default = .error error) :
        ∃ name ∈ fieldNames, ∃ value, (Document.map entries).at? [name] = some value ∧
          Reader.text [name] (.written value) = .error error := by
      obtain ⟨value, found, fails⟩ := Reader.Fields.getD_eq_error_iff.mp fails
      exact ⟨name, member, value, by simp [Document.at?, found], fails⟩
    simp only [Reader.bind_eq_error] at fails
    rcases fails with fails | ⟨_, first, fails | ⟨_, second, fails | ⟨_, third, fails |
      ⟨_, fourth, fails⟩⟩⟩⟩
    · exact .inr (.inr (field (by simp [fieldNames]) fails))
    · exact .inr (.inr (field (by simp [fieldNames]) fails))
    · exact .inr (.inr (field (by simp [fieldNames]) fails))
    · exact .inr (.inr (field (by simp [fieldNames]) fails))
    · split at fails
      · cases fails
      · cases fails
        refine .inr (.inl ⟨_, rfl, ?_⟩)
        have steady := Reader.plain_text.steady
        simp only [fieldNames, List.forall_mem_cons, Document.at?_map]
        exact ⟨Reader.Fields.holds_of_getD steady first, Reader.Fields.holds_of_getD steady second,
          Reader.Fields.holds_of_getD steady third, Reader.Fields.holds_of_getD steady fourth,
          by simp⟩

/-- Entries in another order describe the same delimiters. -/
theorem reader_perm (distinct : (entries.map Prod.fst).Nodup) (perm : entries.Perm others) :
    reader path (.written (.map entries)) = reader path (.written (.map others)) := by
  refine Reader.record_congr (perm.map Prod.fst) ?_
  simp only [Reader.Fields.getD_congr (Document.lookup?_perm distinct perm _)]
  rfl

end Body

end Delimiters

/-- The block styles with their words. -/
def BlockStyle.words : List (String × BlockStyle) := [("keyword", .keyword), ("brace", .brace)]

/-- The cleaning modes with their words. -/
def Cleaning.words : List (String × Cleaning) := [("block", .block), ("none", .none)]

namespace Options

/-- The names of the options that are on or off. -/
def flagNames : List String := ["autoescape", "debug", "doubled_delimiters", "bare_directives"]

/-- What options the entries of a document describe. -/
structure Described (entries : List (Document × Document)) (options : Options) : Prop where
  keys : KeysAmong fieldNames entries
  delimiters : Sets entries "delimiters" Delimiters.Described .standard options.delimiters
  blockStyle :
    Sets entries "block_style" (Reader.Spells BlockStyle.words) .keyword options.blockStyle
  autoescape : Sets entries "autoescape" Document.IsTruth true options.autoescape
  cleaning : Sets entries "cleanws" (Reader.Spells Cleaning.words) .none options.cleaning
  sink : Sets entries "sink" Document.IsText "_out" options.sink
  debug : Sets entries "debug" Document.IsTruth false options.debug
  doubling : Sets entries "doubled_delimiters" Document.IsTruth true options.doubling
  bareDirectives : Sets entries "bare_directives" Document.IsTruth true options.bareDirectives

/-- Entries that describe some options. -/
structure Acceptable (entries : List (Document × Document)) : Prop where
  keys : KeysAmong fieldNames entries
  delimiters : Holds entries "delimiters" Delimiters.Acceptable
  blockStyle : Holds entries "block_style" fun value =>
    ∃ style, Reader.Spells BlockStyle.words value style
  cleaning : Holds entries "cleanws" fun value =>
    ∃ mode, Reader.Spells Cleaning.words value mode
  sink : Holds entries "sink" fun value =>
    ∃ sink, value = .text sink ∧ Text.isIdentifier sink = true
  flags : ∀ name ∈ flagNames, Holds entries name fun value => ∃ flag, value = .bool flag

section Body

variable {entries others : List (Document × Document)} {fields : Reader.Fields}

theorem exists_described_iff : (∃ options, Described entries options) ↔ Acceptable entries := by
  constructor
  · rintro ⟨options, described⟩
    refine ⟨described.keys, ?_, Document.exists_sets_iff.mp ⟨_, described.blockStyle⟩,
      Document.exists_sets_iff.mp ⟨_, described.cleaning⟩, ?_, ?_⟩
    · intro value found
      exact Delimiters.exists_described_iff.mp
        ⟨_, (Document.Sets.of_some found).mp described.delimiters⟩
    · intro value found
      have is := (Document.Sets.of_some found).mp described.sink
      exact ⟨_, is, options.sink_identifier⟩
    · simp only [flagNames, List.forall_mem_cons]
      exact ⟨Document.exists_sets_iff.mp ⟨_, described.autoescape⟩,
        Document.exists_sets_iff.mp ⟨_, described.debug⟩,
        Document.exists_sets_iff.mp ⟨_, described.doubling⟩,
        Document.exists_sets_iff.mp ⟨_, described.bareDirectives⟩, by simp⟩
  · intro acceptable
    have flag {name : String} (default : Bool) (member : name ∈ flagNames) :
        ∃ flag, Sets entries name Document.IsTruth default flag :=
      Document.exists_sets_iff.mpr (acceptable.flags name member)
    obtain ⟨sink, sinks, sink_identifier⟩ : ∃ sink,
        Sets entries "sink" Document.IsText "_out" sink ∧ Text.isIdentifier sink = true := by
      cases found : lookup? "sink" entries with
      | some value =>
          obtain ⟨sink, is, identifier⟩ := acceptable.sink value found
          exact ⟨sink, (Document.Sets.of_some found).mpr is, identifier⟩
      | none => exact ⟨"_out", by simp [Sets, found], by decide⟩
    obtain ⟨delimiters, first⟩ : ∃ delimiters,
        Sets entries "delimiters" Delimiters.Described .standard delimiters :=
      Document.exists_sets_iff.mpr fun value found =>
        Delimiters.exists_described_iff.mpr (acceptable.delimiters value found)
    obtain ⟨blockStyle, second⟩ : ∃ style,
        Sets entries "block_style" (Reader.Spells BlockStyle.words) .keyword style :=
      Document.exists_sets_iff.mpr acceptable.blockStyle
    obtain ⟨cleaning, third⟩ : ∃ mode,
        Sets entries "cleanws" (Reader.Spells Cleaning.words) .none mode :=
      Document.exists_sets_iff.mpr acceptable.cleaning
    obtain ⟨autoescape, fourth⟩ := flag true (by decide : "autoescape" ∈ flagNames)
    obtain ⟨debug, fifth⟩ := flag false (by decide : "debug" ∈ flagNames)
    obtain ⟨doubling, sixth⟩ := flag true (by decide : "doubled_delimiters" ∈ flagNames)
    obtain ⟨bareDirectives, seventh⟩ := flag true (by decide : "bare_directives" ∈ flagNames)
    exact ⟨{ delimiters, blockStyle, autoescape, cleaning, sink, debug, doubling, bareDirectives,
             sink_identifier },
      acceptable.keys, first, second, fourth, third, sinks, fifth, sixth, seventh⟩

theorem getD_delimiters_eq_ok_iff {default result : Delimiters} :
    fields.getD "delimiters" Delimiters.reader default = .ok result ↔
      Sets fields.entries "delimiters" Delimiters.Described default result :=
  Reader.Fields.getD_eq_ok_iff fun _ _ => Delimiters.reader_eq_ok_iff

theorem getD_blockStyle_eq_ok_iff {default result : BlockStyle} :
    fields.getD "block_style" (Reader.choice BlockStyle.choice) default = .ok result ↔
      Sets fields.entries "block_style" (Reader.Spells BlockStyle.words) default result :=
  Reader.Fields.getD_eq_ok_iff fun _ _ => Reader.choice_eq_ok_iff (by decide)

theorem getD_cleaning_eq_ok_iff {default result : Cleaning} :
    fields.getD "cleanws" (Reader.choice Cleaning.choice) default = .ok result ↔
      Sets fields.entries "cleanws" (Reader.Spells Cleaning.words) default result :=
  Reader.Fields.getD_eq_ok_iff fun _ _ => Reader.choice_eq_ok_iff (by decide)

/-- Documents are read as the options that they describe. -/
theorem ofDocument_eq_ok_iff {document : Document} {options : Options} :
    ofDocument document = .ok options ↔
      ∃ entries, document = .map entries ∧ Described entries options := by
  rw [ofDocument, Reader.run, reader]
  refine Reader.record_eq_ok_iff.trans ?_
  refine exists_congr fun entries => and_congr_right fun _ => ?_
  simp only [Reader.bind_eq_ok, getD_delimiters_eq_ok_iff, getD_blockStyle_eq_ok_iff,
    getD_cleaning_eq_ok_iff, Reader.Fields.getD_bool_eq_ok_iff, Reader.Fields.getD_text_eq_ok_iff]
  constructor
  · rintro ⟨keys, _, delimiters, _, blockStyle, _, autoescape, _, cleaning, sink, sinks, _, debug,
      _, doubling, _, bareDirectives, made⟩
    unfold withSink at made
    by_cases identifier : Text.isIdentifier sink = true
    · rw [dif_pos identifier] at made
      cases made
      exact ⟨keys, delimiters, blockStyle, autoescape, cleaning, sinks, debug, doubling,
        bareDirectives⟩
    · rw [dif_neg identifier] at made
      cases made
  · rintro ⟨keys, delimiters, blockStyle, autoescape, cleaning, sink, debug, doubling,
      bareDirectives⟩
    refine ⟨keys, _, delimiters, _, blockStyle, _, autoescape, _, cleaning, _, sink, _, debug, _,
      doubling, _, bareDirectives, ?_⟩
    rw [withSink, dif_pos options.sink_identifier]
    rfl

/-- How the value at a path of options is read by itself. -/
inductive ReadBy : List String → (α : Type) → Reader α → Prop
  | whole : ReadBy [] Options Options.reader
  | delimiters : ReadBy ["delimiters"] Delimiters Delimiters.reader
  | delimiter {name : String} (named : name ∈ Delimiters.fieldNames) :
      ReadBy ["delimiters", name] String Reader.text
  | blockStyle : ReadBy ["block_style"] BlockStyle (Reader.choice BlockStyle.choice)
  | cleaning : ReadBy ["cleanws"] Cleaning (Reader.choice Cleaning.choice)
  | sink : ReadBy ["sink"] String Reader.text
  | flag {name : String} (named : name ∈ flagNames) : ReadBy [name] Bool Reader.bool

theorem ReadBy.length_le {path : List String} {α : Type} {reader : Reader α}
    (readBy : ReadBy path α reader) : path.length ≤ 2 := by
  cases readBy <;> simp

/-- The fields of the delimiters are read as texts. -/
theorem ReadBy.exists_ok {name : String} {α : Type} {reader : Reader α} {part : Document}
    (readBy : ReadBy ["delimiters", name] α reader)
    (fits : name ∈ Delimiters.fieldNames → ∃ result, Reader.text.run part = .ok result) :
    ∃ result, reader.run part = .ok result := by
  generalize path : ["delimiters", name] = path at readBy
  cases readBy with
  | delimiter named =>
      cases path
      exact fits named
  | whole | delimiters | blockStyle | cleaning | sink | flag => simp at path

/-- The fields of a value are all accepted by themselves. -/
def PartsFit (path : List String) (value : Document) : Prop :=
  ∀ (name : String) (α : Type) (reader : Reader α) (part : Document),
    ReadBy (path ++ [name]) α reader → value.at? [name] = some part →
      ∃ result, reader.run part = .ok result

/-- An error whose path leads to a value that is refused by itself, for the same reason. Unless
that value has foreign keys, nothing inside of it is refused by itself. -/
def Located (document : Document) (error : ConfigError) : Prop :=
  ∃ (α : Type) (reader : Reader α) (value : Document), ReadBy error.path α reader ∧
    document.at? error.path = some value ∧ reader.run value = .error ⟨[], error.problem⟩ ∧
    ((∀ keys, error.problem ≠ .unexpectedKeys keys) → PartsFit error.path value)

/-- A value that cannot be shown, at one of the places where it would have to be. -/
structure Overlong (entries : List (Document × Document)) : Prop where
  keys : KeysAmong fieldNames entries
  delimiters : Holds entries "delimiters" Delimiters.Acceptable
  hides : Hides entries "block_style" ∨
    (Holds entries "block_style" fun value => ∃ style, Reader.Spells BlockStyle.words value style) ∧
      (Holds entries "autoescape" fun value => ∃ flag, value = .bool flag) ∧
      Hides entries "cleanws"

/-- A document whose mistake cannot be reported, since a number with too many digits would have to
be shown: as a foreign key, as a foreign key of the delimiters, or as the value of an
enumeration. -/
inductive Unreportable : Document → Prop
  | key {entries : List (Document × Document)} (hidden : HidesKey entries) :
      Unreportable (.map entries)
  | delimiterKey {entries inner : List (Document × Document)} (keys : KeysAmong fieldNames entries)
      (found : lookup? "delimiters" entries = some (.map inner)) (hidden : HidesKey inner) :
      Unreportable (.map entries)
  | value {entries : List (Document × Document)} (long : Overlong entries) :
      Unreportable (.map entries)

theorem Unreportable.exists_map {document : Document} (unreportable : Unreportable document) :
    ∃ entries, document = .map entries := by
  cases unreportable <;> exact ⟨_, rfl⟩

section Location

variable {error : ConfigError}

theorem located_of_root {document : Document} (fails : ofDocument document = .error error)
    (root : error.path = [])
    (parts : (∀ keys, error.problem ≠ .unexpectedKeys keys) → PartsFit [] document) :
    Located document error := by
  obtain ⟨path, problem⟩ := error
  cases root
  exact ⟨Options, reader, document, .whole, rfl, fails, parts⟩

theorem located_of_field {α : Type} {name : String} {reader : Reader α} {default : α}
    (shown : error.problem ≠ .unshowable) (readBy : ReadBy [name] α reader) (plain : reader.Plain)
    (other : name ≠ "delimiters")
    (fails : Reader.Fields.getD ⟨[], entries⟩ name reader default = .error error) :
    Located (.map entries) error := by
  obtain ⟨value, found, refused⟩ := Reader.Fields.getD_eq_error_iff.mp fails
  obtain ⟨path, alone⟩ := plain.alone refused shown
  obtain ⟨_, problem⟩ := error
  cases path
  refine ⟨α, reader, value, readBy, (Document.at?_map name entries).trans found, alone, ?_⟩
  intro _ inner _ _ _ inside
  cases inside
  exact absurd rfl other

theorem located_of_delimiters {default : Delimiters} (shown : error.problem ≠ .unshowable)
    (fails : Reader.Fields.getD ⟨[], entries⟩ "delimiters" Delimiters.reader default =
      .error error) :
    Located (.map entries) error := by
  obtain ⟨value, found, refused⟩ := Reader.Fields.getD_eq_error_iff.mp fails
  obtain ⟨⟨path, problem⟩, alone, rfl⟩ := Delimiters.reader_steady.exists_inner refused
  rw [ConfigError.under_problem] at shown
  rw [ConfigError.under, if_neg shown]
  have here : (Document.map entries).at? ["delimiters"] = some value :=
    (Document.at?_map _ entries).trans found
  rcases Delimiters.refused_or_text_of_error alone with
    refused | ⟨report, same, fit⟩ | ⟨name, member, text, inside, refused⟩
  · cases refused.path_eq_nil
    refine ⟨Delimiters, Delimiters.reader, value, .delimiters, here, alone, ?_⟩
    intro known name _ _ _ _ inside
    rw [refused.at?_eq_none shown known name] at inside
    cases inside
  · cases same
    refine ⟨Delimiters, Delimiters.reader, value, .delimiters, here, alone, ?_⟩
    intro _ name _ _ part readBy inside
    exact readBy.exists_ok fun named => fit name named part inside
  · obtain ⟨rfl, alone⟩ := Reader.plain_text.alone refused shown
    refine ⟨String, Reader.text, text, .delimiter member, ?_, alone, ?_⟩
    · simpa [Document.at?, found] using inside
    · intro _ _ _ _ _ readBy
      exact absurd readBy.length_le (by simp)

/-- Wherever options are refused, the value at the path of the error is. -/
theorem located_of_error {document : Document} (shown : error.problem ≠ .unshowable)
    (fails : ofDocument document = .error error) : Located document error := by
  have refuses := fails
  rw [ofDocument, Reader.run, reader] at refuses
  rcases Reader.refused_or_of_record refuses with refused | ⟨entries, rfl, -, refuses⟩
  · refine located_of_root fails refused.path_eq_nil ?_
    intro known name _ _ _ _ inside
    rw [refused.at?_eq_none shown known name] at inside
    cases inside
  · -- One alternative for each field in the order of reading, and the last for the sink, which is
    -- looked at when all fields have been read.
    simp only [Reader.bind_eq_error] at refuses
    rcases refuses with refuses | ⟨_, first, refuses | ⟨_, second, refuses | ⟨_, third, refuses |
      ⟨_, fourth, refuses | ⟨_, fifth, refuses | ⟨_, sixth, refuses | ⟨_, seventh, refuses |
        ⟨_, eighth, refuses⟩⟩⟩⟩⟩⟩⟩⟩
    · exact located_of_delimiters shown refuses
    · exact located_of_field shown .blockStyle (Reader.plain_choice _) (by decide) refuses
    · exact located_of_field shown (.flag (by decide)) Reader.plain_bool (by decide) refuses
    · exact located_of_field shown .cleaning (Reader.plain_choice _) (by decide) refuses
    · exact located_of_field shown .sink Reader.plain_text (by decide) refuses
    · exact located_of_field shown (.flag (by decide)) Reader.plain_bool (by decide) refuses
    · exact located_of_field shown (.flag (by decide)) Reader.plain_bool (by decide) refuses
    · exact located_of_field shown (.flag (by decide)) Reader.plain_bool (by decide) refuses
    · split at refuses
      · cases refuses
      · cases refuses
        refine located_of_root fails rfl ?_
        have flags : ∀ name ∈ flagNames, Holds entries name fun part =>
            ∃ result, Reader.bool.run part = .ok result := by
          have steady := Reader.plain_bool.steady
          simp only [flagNames, List.forall_mem_cons]
          exact ⟨Reader.Fields.holds_of_getD steady third,
            Reader.Fields.holds_of_getD steady sixth, Reader.Fields.holds_of_getD steady seventh,
            Reader.Fields.holds_of_getD steady eighth, by simp⟩
        intro _ name _ _ part readBy inside
        rw [Document.at?_map] at inside
        cases readBy with
        | delimiters => exact Reader.Fields.holds_of_getD Delimiters.reader_steady first part inside
        | blockStyle =>
            exact Reader.Fields.holds_of_getD (Reader.plain_choice _).steady second part inside
        | cleaning =>
            exact Reader.Fields.holds_of_getD (Reader.plain_choice _).steady fourth part inside
        | sink => exact Reader.Fields.holds_of_getD Reader.plain_text.steady fifth part inside
        | flag named => exact flags name named part inside

end Location

section Length

theorem getD_delimiters_iff {path : List String} {default : Delimiters} :
    (∃ result, Reader.Fields.getD ⟨path, entries⟩ "delimiters" Delimiters.reader default =
      .ok result) ↔ Holds entries "delimiters" Delimiters.Acceptable := by
  simp only [getD_delimiters_eq_ok_iff, Document.exists_sets_iff, Delimiters.exists_described_iff]

theorem getD_blockStyle_iff {path : List String} {default : BlockStyle} :
    (∃ result, Reader.Fields.getD ⟨path, entries⟩ "block_style" (Reader.choice BlockStyle.choice)
      default = .ok result) ↔ Holds entries "block_style" fun value =>
        ∃ style, Reader.Spells BlockStyle.words value style := by
  simp only [getD_blockStyle_eq_ok_iff, Document.exists_sets_iff]

theorem getD_flag_iff {path : List String} {name : String} {default : Bool} :
    (∃ result, Reader.Fields.getD ⟨path, entries⟩ name Reader.bool default = .ok result) ↔
      Holds entries name fun value => ∃ flag, value = .bool flag := by
  simp only [Reader.Fields.getD_bool_eq_ok_iff, Document.exists_sets_iff, Document.IsTruth]

theorem exists_hidesKey_of_getD_delimiters {default : Delimiters} {error : ConfigError}
    (fails : fields.getD "delimiters" Delimiters.reader default = .error error)
    (unshowable : error.problem = .unshowable) :
    ∃ inner, lookup? "delimiters" fields.entries = some (.map inner) ∧ HidesKey inner := by
  obtain ⟨value, found, refused⟩ := Reader.Fields.getD_eq_error_iff.mp fails
  obtain ⟨error, alone, rfl⟩ := Delimiters.reader_steady.exists_inner refused
  rw [ConfigError.under_problem] at unshowable
  rcases Delimiters.refused_or_text_of_error alone with
    refused | ⟨report, rfl, -⟩ | ⟨name, -, text, -, refused⟩
  · obtain ⟨inner, rfl, hidden⟩ := refused.exists_hidesKey unshowable
    exact ⟨inner, found, hidden⟩
  · cases unshowable
  · exact absurd unshowable (Reader.text_ne_unshowable refused)

theorem getD_bool_ne_unshowable {name : String} {default : Bool} {error : ConfigError}
    (fails : fields.getD name Reader.bool default = .error error) :
    error.problem ≠ .unshowable := by
  obtain ⟨value, -, refused⟩ := Reader.Fields.getD_eq_error_iff.mp fails
  exact Reader.bool_ne_unshowable refused

theorem getD_choice_hides {α : Type} {members : Choice α} {name : String} {default : α}
    {error : ConfigError} (unshowable : error.problem = .unshowable)
    (fails : fields.getD name (Reader.choice members) default = .error error) :
    Hides fields.entries name := by
  obtain ⟨value, found, refused⟩ := Reader.Fields.getD_eq_error_iff.mp fails
  exact ⟨value, found, Reader.unshowable_of_choice refused unshowable⟩

theorem getD_choice_of_hides {α : Type} (members : Choice α) {name : String} (default : α)
    (hides : Hides fields.entries name) :
    fields.getD name (Reader.choice members) default = .error ⟨[], .unshowable⟩ := by
  obtain ⟨value, found, long⟩ := hides
  rw [Reader.Fields.getD_of_some found, Reader.choice_of_unshowable members long]

/-- Reporting fails for what would have to be shown only. -/
theorem unreportable_of_unshowable {document : Document} {error : ConfigError}
    (fails : ofDocument document = .error error) (unshowable : error.problem = .unshowable) :
    Unreportable document := by
  rw [ofDocument, Reader.run, reader] at fails
  rcases Reader.refused_or_of_record fails with refused | ⟨entries, rfl, known, fails⟩
  · obtain ⟨entries, rfl, hidden⟩ := refused.exists_hidesKey unshowable
    exact .key hidden
  · -- Whatever field fails, those before it have been read.
    simp only [Reader.bind_eq_error] at fails
    rcases fails with fails | ⟨_, first, fails | ⟨_, second, fails | ⟨_, third, fails |
      ⟨_, -, fails | ⟨_, -, fails | ⟨_, -, fails | ⟨_, -, fails | ⟨_, -, fails⟩⟩⟩⟩⟩⟩⟩⟩
    · obtain ⟨inner, found, hidden⟩ := exists_hidesKey_of_getD_delimiters fails unshowable
      exact .delimiterKey known found hidden
    · exact .value ⟨known, getD_delimiters_iff.mp ⟨_, first⟩,
        .inl (getD_choice_hides unshowable fails)⟩
    · exact absurd unshowable (getD_bool_ne_unshowable fails)
    · exact .value ⟨known, getD_delimiters_iff.mp ⟨_, first⟩,
        .inr ⟨getD_blockStyle_iff.mp ⟨_, second⟩, getD_flag_iff.mp ⟨_, third⟩,
          getD_choice_hides unshowable fails⟩⟩
    · obtain ⟨value, -, refused⟩ := Reader.Fields.getD_eq_error_iff.mp fails
      exact absurd unshowable (Reader.text_ne_unshowable refused)
    · exact absurd unshowable (getD_bool_ne_unshowable fails)
    · exact absurd unshowable (getD_bool_ne_unshowable fails)
    · exact absurd unshowable (getD_bool_ne_unshowable fails)
    · split at fails
      · cases fails
      · cases fails
        cases unshowable

/-- Where keys are texts, reporting fails for overlong values only. -/
theorem overlong_of_unshowable {document : Document} {error : ConfigError}
    (keyed : document.Keyed)
    (inside : ∀ value, document.at? ["delimiters"] = some value → value.Keyed)
    (fails : ofDocument document = .error error) (unshowable : error.problem = .unshowable) :
    ∃ entries, document = .map entries ∧ Overlong entries := by
  cases unreportable_of_unshowable fails unshowable with
  | key hidden => exact absurd hidden (Document.not_hidesKey_of_keyed keyed)
  | @delimiterKey entries inner _ found hidden =>
      have keyed := inside (.map inner) ((Document.at?_map _ entries).trans found)
      exact absurd hidden (Document.not_hidesKey_of_keyed keyed)
  | value long => exact ⟨_, rfl, long⟩

theorem unshowable_of_overlong (long : Overlong entries) :
    ofDocument (.map entries) = .error ⟨[], .unshowable⟩ := by
  rw [ofDocument, Reader.run, reader,
    Reader.record_of_known (Reader.foreignKeys_eq_nil_iff.mpr long.keys)]
  simp only [Reader.bind_eq_error]
  obtain ⟨_, first⟩ := getD_delimiters_iff.mpr long.delimiters
  rcases long.hides with hides | ⟨fits, flag, hides⟩
  · exact .inr ⟨_, first, .inl (getD_choice_of_hides _ _ hides)⟩
  · obtain ⟨_, second⟩ := getD_blockStyle_iff.mpr fits
    obtain ⟨_, third⟩ := getD_flag_iff.mpr flag
    exact .inr ⟨_, first, .inr ⟨_, second, .inr ⟨_, third, .inl (getD_choice_of_hides _ _ hides)⟩⟩⟩

theorem unshowable_of_unreportable {document : Document} (unreportable : Unreportable document) :
    ofDocument document = .error ⟨[], .unshowable⟩ := by
  cases unreportable with
  | key hidden =>
      rw [ofDocument, Reader.run, reader]
      exact Reader.record_of_hidesKey hidden
  | delimiterKey keys found hidden =>
      rw [ofDocument, Reader.run, reader,
        Reader.record_of_known (Reader.foreignKeys_eq_nil_iff.mpr keys)]
      refine Reader.bind_eq_error.mpr (.inl ?_)
      rw [Reader.Fields.getD_of_some found]
      exact Reader.record_of_hidesKey hidden
  | value long => exact unshowable_of_overlong long

theorem not_unreportable_of_error {document : Document} {error : ConfigError}
    (fails : ofDocument document = .error error) (shown : error.problem ≠ .unshowable) :
    ¬ Unreportable document := by
  intro unreportable
  cases fails.symm.trans (unshowable_of_unreportable unreportable)
  exact shown rfl

/-- A value that cannot be shown, where a word is asked for and nothing else is given. -/
theorem ofDocument_overlong {value : Document} (long : value.isShowable = false) :
    ofDocument (.map [(.text "cleanws", value)]) = .error ⟨[], .unshowable⟩ := by
  refine unshowable_of_overlong ⟨?_, ?_, .inr ⟨?_, ?_, value, rfl, long⟩⟩
  · simp [KeysAmong, fieldNames]
  · simp [Holds, lookup?]
  · simp [Holds, lookup?]
  · simp [Holds, lookup?]

end Length

section Order

/-- The same entry, or the delimiters with their entries in another order. -/
structure SameEntry (entry other : Document × Document) : Prop where
  key : entry.1 = other.1
  value : entry.2 = other.2 ∨ entry.1 = .text "delimiters" ∧
    ∃ inner outer, entry.2 = .map inner ∧ other.2 = .map outer ∧ inner.Perm outer

/-- Documents that differ in the order of their keys, or of those of their delimiters. -/
inductive Reordered : Document → Document → Prop
  | intro {entries middle others : List (Document × Document)} (perm : entries.Perm middle)
      (same : List.Forall₂ SameEntry middle others) : Reordered (.map entries) (.map others)

theorem keys_of_same (same : List.Forall₂ SameEntry entries others) :
    entries.map Prod.fst = others.map Prod.fst := by
  induction same with
  | nil => rfl
  | cons first _ ih => rw [List.map_cons, List.map_cons, first.key, ih]

theorem lookup?_of_same (same : List.Forall₂ SameEntry entries others) (name : String) :
    lookup? name entries = lookup? name others ∨ name = "delimiters" ∧
      ∃ inner outer, lookup? name entries = some (.map inner) ∧
        lookup? name others = some (.map outer) ∧ inner.Perm outer := by
  induction same with
  | nil => exact .inl rfl
  | @cons entry other _ _ first _ ih =>
      obtain ⟨key, value⟩ := entry
      obtain ⟨_, value'⟩ := other
      obtain ⟨rfl, values⟩ := first
      cases key with
      | text key =>
          by_cases here : key = name
          · subst here
            simp only [lookup?, if_true]
            rcases values with rfl | ⟨is, inner, outer, rfl, rfl, perm⟩
            · exact .inl rfl
            · exact .inr ⟨Document.text.inj is, inner, outer, rfl, rfl, perm⟩
          · simpa only [lookup?, if_neg here] using ih
      | null | bool | int | float | time | foreign | list | map => simpa only [lookup?] using ih

/-- Reading options does not depend on the order of keys. -/
theorem ofDocument_reordered {document other : Document} (keyed : document.Keyed)
    (inside : ∀ value, document.at? ["delimiters"] = some value → value.Keyed)
    (reordered : Reordered document other) : ofDocument other = ofDocument document := by
  obtain @⟨entries, middle, others, perm, same⟩ := reordered
  -- All that is read of the entries are their keys and the values at the names of the fields.
  have moved := Document.lookup?_perm keyed.2 perm
  have elsewhere {α : Type} {name : String} (apart : name ≠ "delimiters") (reader : Reader α)
      (default : α) : Reader.Fields.getD ⟨[], others⟩ name reader default =
        Reader.Fields.getD ⟨[], entries⟩ name reader default := by
    refine Reader.Fields.getD_congr ?_
    rw [moved]
    exact ((lookup?_of_same same name).resolve_right fun there => apart there.1).symm
  have delimiters (default : Delimiters) :
      Reader.Fields.getD ⟨[], others⟩ "delimiters" Delimiters.reader default =
        Reader.Fields.getD ⟨[], entries⟩ "delimiters" Delimiters.reader default := by
    rcases lookup?_of_same same "delimiters" with equal | ⟨-, inner, outer, first, second, perm⟩
    · refine Reader.Fields.getD_congr ?_
      rw [moved, equal]
    · have found : lookup? "delimiters" entries = some (.map inner) := (moved _).trans first
      have distinct := (inside (.map inner) (by simp [Document.at?, found])).2
      rw [Reader.Fields.getD_of_some second, Reader.Fields.getD_of_some found]
      exact (Delimiters.reader_perm distinct perm).symm
  have keys : (others.map Prod.fst).Perm (entries.map Prod.fst) := by
    rw [← keys_of_same same]
    exact (perm.map Prod.fst).symm
  rw [ofDocument, ofDocument, Reader.run, Reader.run, reader]
  refine Reader.record_congr keys ?_
  simp only [delimiters, elsewhere (by decide : "block_style" ≠ "delimiters"),
    elsewhere (by decide : "autoescape" ≠ "delimiters"),
    elsewhere (by decide : "cleanws" ≠ "delimiters"), elsewhere (by decide : "sink" ≠ "delimiters"),
    elsewhere (by decide : "debug" ≠ "delimiters"),
    elsewhere (by decide : "doubled_delimiters" ≠ "delimiters"),
    elsewhere (by decide : "bare_directives" ≠ "delimiters")]
  rfl

end Order

end Body

end Options

/-- A document is read as the options that it describes, and it is accepted exactly if it describes
some: its keys are names of options, each value fits its option, the sink is an identifier and the
delimiters can be told apart. Otherwise the error leads to a value that is refused by itself for
the same reason, unless the value of an enumeration cannot be shown and all before it is in order.
The order of the keys does not matter. -/
theorem options_read_exactly (document : Document) (keyed : document.Keyed)
    (inside : ∀ value, document.at? ["delimiters"] = some value → value.Keyed) :
    (∀ options, Options.ofDocument document = .ok options ↔
      ∃ entries, document = .map entries ∧ Options.Described entries options) ∧
    ((∃ options, Options.ofDocument document = .ok options) ↔
      ∃ entries, document = .map entries ∧ Options.Acceptable entries) ∧
    ((∃ error, Options.ofDocument document = .error error ∧ error.problem = .unshowable) ↔
      ∃ entries, document = .map entries ∧ Options.Overlong entries) ∧
    (∀ error, Options.ofDocument document = .error error → error.problem ≠ .unshowable →
      Options.Located document error) ∧
    ∀ other, Options.Reordered document other →
      Options.ofDocument other = Options.ofDocument document := by
  refine ⟨fun _ => Options.ofDocument_eq_ok_iff, ?_, ⟨?_, ?_⟩, ?_, ?_⟩
  · simp only [Options.ofDocument_eq_ok_iff, ← Options.exists_described_iff]
    constructor
    · rintro ⟨options, entries, is, described⟩
      exact ⟨entries, is, options, described⟩
    · rintro ⟨entries, is, options, described⟩
      exact ⟨options, entries, is, described⟩
  · rintro ⟨error, fails, unshowable⟩
    exact Options.overlong_of_unshowable keyed inside fails unshowable
  · rintro ⟨entries, rfl, long⟩
    exact ⟨_, Options.unshowable_of_overlong long, rfl⟩
  · intro error fails shown
    exact Options.located_of_error shown fails
  · intro other reordered
    exact Options.ofDocument_reordered keyed inside reordered

/-- Two things are wrong, and the first field in the order of the options is reported, although
its key comes last. -/
theorem options_read_exactly_twice_wrong :
    let marks : List (Document × Document) :=
      [(.text "directive", .text "="), (.text "open", .text "<%")]
    let document : Document :=
      .map [(.text "cleanws", .bool true), (.text "delimiters", .map marks)]
    let other : Document :=
      .map [(.text "delimiters", .map marks.reverse), (.text "cleanws", .bool true)]
    let error : ConfigError := ⟨["delimiters"], .rejected OptionFault.sameMarks.message⟩
    document.Keyed ∧ (∀ value, document.at? ["delimiters"] = some value → value.Keyed) ∧
    Options.Reordered document other ∧
    Options.ofDocument document = .error error ∧ Options.Located document error ∧
    Options.ofDocument other = .error error := by
  intro marks document other error
  have keyed : document.Keyed := by
    simp [document, Document.Keyed]
  have inside : ∀ value, document.at? ["delimiters"] = some value → value.Keyed := by
    have here : document.at? ["delimiters"] = some (.map marks) := rfl
    rw [here]
    rintro value ⟨⟩
    simp [marks, Document.Keyed]
  have reordered : Options.Reordered document other :=
    .intro (List.Perm.swap _ _ _)
      (.cons ⟨rfl, .inr ⟨rfl, _, _, rfl, rfl, (List.reverse_perm marks).symm⟩⟩
        (.cons ⟨rfl, .inl rfl⟩ .nil))
  have fails : Options.ofDocument document = .error error := rfl
  obtain ⟨-, -, -, located, ordered⟩ := options_read_exactly document keyed inside
  exact ⟨keyed, inside, reordered, fails, located error fails (by simp [error]),
    (ordered other reordered).trans fails⟩

/-- The smallest number that cannot be shown, in place of a word. -/
theorem options_refused_without_report :
    let document : Document := .map [(.text "cleanws", .int (Nat.pow 10 4300 : Nat))]
    document.Keyed ∧ Options.ofDocument document = .error ⟨[], .unshowable⟩ := by
  have keyed (value : Document) : (Document.map [(.text "cleanws", value)]).Keyed := by
    simp [Document.Keyed]
  have long : Document.isShowable (.int (Nat.pow 10 4300 : Nat)) = false := by
    decide +kernel
  exact ⟨keyed _, Options.ofDocument_overlong long⟩

end Stencil
