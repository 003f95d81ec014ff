/-
# What comes of loading options

An options file is loaded strictly if options come of it in two cases only, where nothing is in it
and where a mapping is in it that reads as options, and if in all other cases its author gets a
report that names the file. Loading is not quite that strict, and this module says by how much.

Two things go wrong. Whatever counts as empty is taken for nothing: an empty list, an empty text,
zero or false leave all options at their defaults, although none of them is a mapping. In the place
of the delimiters the same values are refused. And a report that would have to show a number with
too many digits fails, so that loading ends without one. For all other documents loading is strict.

None of this depends on how documents are read: the reader may be any function from texts to
documents and faults.
-/

import Stencil.Load
import Stencil.Proofs.Configuration
import Stencil.Yaml.Document

namespace Stencil

namespace Document

/-- Without content, and yet neither nothing nor a mapping. -/
inductive Hollow : Document → Prop
  | untrue : Hollow (.bool false)
  | zero : Hollow (.int 0)
  | fraction {x : Float} (zero : (x == 0.0) = true) : Hollow (.float x)
  | text : Hollow (.text "")
  /-- No bytes, or a set without members. -/
  | foreign {value : ForeignValue} (empty : value.empty = true) : Hollow (.foreign value)
  | list : Hollow (.list [])

theorem not_hollow_null : ¬ Hollow .null :=
  nofun

theorem not_hollow_map (entries : List (Document × Document)) : ¬ Hollow (.map entries) :=
  nofun

/-- A document that counts as empty is nothing, hollow, or a mapping without entries. -/
theorem isEmpty_iff {document : Document} :
    document.isEmpty = true ↔ document = .null ∨ document.Hollow ∨ document = .map [] := by
  constructor
  · intro empty
    cases document with
    | null => exact .inl rfl
    | bool value =>
        obtain rfl : value = false := by simpa [isEmpty] using empty
        exact .inr (.inl .untrue)
    | int n =>
        obtain rfl : n = 0 := by simpa [isEmpty] using empty
        exact .inr (.inl .zero)
    | float x => exact .inr (.inl (.fraction empty))
    | text s =>
        obtain rfl : s = "" := by simpa [isEmpty] using empty
        exact .inr (.inl .text)
    | time value => cases empty
    | foreign value => exact .inr (.inl (.foreign empty))
    | list items =>
        obtain rfl : items = [] := by simpa [isEmpty] using empty
        exact .inr (.inl .list)
    | map entries =>
        obtain rfl : entries = [] := by simpa [isEmpty] using empty
        exact .inr (.inr rfl)
  · rintro (rfl | hollow | rfl)
    · rfl
    · cases hollow with
      | fraction zero => exact zero
      | foreign empty => exact empty
      | untrue | zero | text | list => rfl
    · rfl

end Document

/-- The file at a path is there, is a text, and holds the document for a reader. -/
def Disk.Stores (disk : Disk) (read : DocumentReader) (path : Path) (document : Document) : Prop :=
  ∃ bytes text, disk path = some bytes ∧ Disk.decode bytes = some text ∧ read text = .ok document

namespace FileFault

/-- Whether a fault is a mistake in what an options file holds. A file that is missing, or that
cannot be read at all, has none. -/
def isOptionsMistake : FileFault → Bool
  | .notYaml .. | .notMapping _ | .badOptions .. => true
  | .notText _ | .noTemplate _ | .noConfig _ | .badValue _ => false

/-- The report of a fault shows a path. -/
def Names (fault : FileFault) (path : Path) : Prop :=
  path.describe.toList <:+: fault.message.toList

theorem notMapping_names (path : Path) : (notMapping path).Names path := by
  have shown : (notMapping path).message = "YAML must be a mapping: " ++ path.describe := rfl
  rw [Names, shown, String.toList_append]
  exact (List.suffix_append _ _).isInfix

theorem badOptions_names (path : Path) (error : ConfigError) :
    (badOptions path error).Names path := by
  have shown : (badOptions path error).message = path.describe ++ ": " ++ error.message := rfl
  rw [Names, shown, String.toList_append, String.toList_append, List.append_assoc]
  exact (List.prefix_append _ _).isInfix

end FileFault

/-- The options that a document stands for: the defaults if it is nothing, and else what it reads
as, being a mapping. -/
def Options.GivenBy (document : Document) (options : Options) : Prop :=
  document = .null ∧ options = .standard ∨
    ∃ entries, document = .map entries ∧ Options.ofDocument document = .ok options

/-- A strict outcome of loading a document from a file: the options that the document stands for,
or a report that names the file. -/
structure LoadedStrictly (path : Path) (document : Document) (outcome : Except FileFault Options) :
    Prop where
  accepts : ∀ options, outcome = .ok options ↔ Options.GivenBy document options
  refuses : (∀ options, ¬ Options.GivenBy document options) →
    ∃ fault, outcome = .error fault ∧ fault.isOptionsMistake = true ∧ fault.Names path

/-- All that can come of loading a document from a file. -/
inductive Loaded (path : Path) : Document → Except FileFault Options → Prop
  | nothing : Loaded path .null (.ok .standard)
  | hollow {document : Document} (hollow : document.Hollow) : Loaded path document (.ok .standard)
  | options {entries : List (Document × Document)} {options : Options}
      (described : Options.Described entries options) : Loaded path (.map entries) (.ok options)
  | notMapping {document : Document} (something : document ≠ .null) (solid : ¬ document.Hollow)
      (other : ∀ entries, document ≠ .map entries) :
      Loaded path document (.error (.notMapping path))
  | badOptions {entries : List (Document × Document)} {error : ConfigError}
      (refused : Options.ofDocument (.map entries) = .error error)
      (reportable : ¬ Options.Unreportable (.map entries)) :
      Loaded path (.map entries) (.error (.badOptions path error))
  | unreportable {document : Document} (unreportable : Options.Unreportable document) :
      Loaded path document (.error (.badValue .unshowable))

section Outcome

variable {path : Path} {document : Document} {entries : List (Document × Document)}

theorem Options.ofDocument_map_nil : Options.ofDocument (.map []) = .ok .standard :=
  rfl

theorem optionsOf_of_isEmpty (empty : document.isEmpty = true) :
    optionsOf path document = .ok .standard := by
  simp only [optionsOf, if_pos empty, Options.ofDocument_map_nil]
  rfl

theorem optionsOf_map :
    optionsOf path (.map entries) =
      (Options.ofDocument (.map entries)).mapError (optionsFault path) := by
  cases entries <;> rfl

theorem optionsOf_of_ne_map (solid : document.isEmpty = false)
    (other : ∀ entries, document ≠ .map entries) :
    optionsOf path document = .error (.notMapping path) := by
  cases document with
  | map entries => exact absurd rfl (other entries)
  | null | bool | int | float | text | time | foreign | list =>
      simp only [optionsOf, solid, Bool.false_eq_true, if_false]

theorem loaded_map (path : Path) (entries : List (Document × Document)) :
    Loaded path (.map entries) (optionsOf path (.map entries)) := by
  rw [optionsOf_map]
  cases read : Options.ofDocument (.map entries) with
  | ok options =>
      obtain ⟨_, same, described⟩ := Options.ofDocument_eq_ok_iff.mp read
      cases same
      exact .options described
  | error error =>
      change Loaded path (.map entries) (.error (optionsFault path error))
      by_cases unshowable : error.problem = .unshowable
      · rw [optionsFault, if_pos unshowable]
        exact .unreportable (Options.unreportable_of_unshowable read unshowable)
      · rw [optionsFault, if_neg unshowable]
        exact .badOptions read (Options.not_unreportable_of_error read unshowable)

/-- The outcome depends on the document alone, and every document has one. -/
theorem loaded_optionsOf (path : Path) (document : Document) :
    Loaded path document (optionsOf path document) := by
  by_cases empty : document.isEmpty = true
  · rcases Document.isEmpty_iff.mp empty with rfl | hollow | rfl
    · exact .nothing
    · rw [optionsOf_of_isEmpty empty]
      exact .hollow hollow
    · exact loaded_map path []
  · by_cases mapping : ∃ entries, document = .map entries
    · obtain ⟨entries, rfl⟩ := mapping
      exact loaded_map path entries
    · have other : ∀ entries, document ≠ .map entries := fun entries is => mapping ⟨entries, is⟩
      rw [optionsOf_of_ne_map (by simpa using empty) other]
      refine .notMapping ?_ ?_ other
      · rintro rfl
        exact empty rfl
      · intro hollow
        exact empty (Document.isEmpty_iff.mpr (.inr (.inl hollow)))

/-- The cases exclude each other. -/
theorem Loaded.optionsOf_eq {outcome : Except FileFault Options}
    (loaded : Loaded path document outcome) : optionsOf path document = outcome := by
  cases loaded with
  | nothing => exact optionsOf_of_isEmpty rfl
  | hollow hollow =>
      exact optionsOf_of_isEmpty (Document.isEmpty_iff.mpr (.inr (.inl hollow)))
  | options described =>
      rw [optionsOf_map, Options.ofDocument_eq_ok_iff.mpr ⟨_, rfl, described⟩]
      rfl
  | notMapping something solid other =>
      refine optionsOf_of_ne_map ?_ other
      rw [← Bool.not_eq_true, Document.isEmpty_iff]
      rintro (is | hollow | is)
      · exact something is
      · exact solid hollow
      · exact other [] is
  | badOptions refused reportable =>
      have shown := fun unshowable =>
        reportable (Options.unreportable_of_unshowable refused unshowable)
      rw [optionsOf_map, refused]
      exact congrArg Except.error (if_neg shown)
  | unreportable unreportable =>
      obtain ⟨entries, rfl⟩ := unreportable.exists_map
      rw [optionsOf_map, Options.unshowable_of_unreportable unreportable]
      rfl

theorem optionsOf_eq_iff {outcome : Except FileFault Options} :
    optionsOf path document = outcome ↔ Loaded path document outcome := by
  refine ⟨?_, Loaded.optionsOf_eq⟩
  rintro rfl
  exact loaded_optionsOf path document

theorem Disk.Stores.loadOptions_eq {disk : Disk} {read : DocumentReader}
    (stored : disk.Stores read path document) :
    loadOptions read disk path = optionsOf path document := by
  obtain ⟨bytes, text, found, decoded, holds⟩ := stored
  simp only [loadOptions, found, textOf, decoded, bind, Except.bind, holds]
  rfl

end Outcome

namespace Options

variable {document : Document} {entries : List (Document × Document)} {options : Options}

theorem givenBy_null_iff : GivenBy .null options ↔ options = .standard := by
  simp [GivenBy]

theorem givenBy_map_iff :
    GivenBy (.map entries) options ↔ ofDocument (.map entries) = .ok options := by
  simp [GivenBy]

/-- Only nothing and mappings stand for options. -/
theorem not_givenBy (something : document ≠ .null) (other : ∀ entries, document ≠ .map entries) :
    ¬ GivenBy document options := by
  rintro (⟨is, -⟩ | ⟨entries, is, -⟩)
  · exact something is
  · exact other entries is

theorem Unreportable.not_givenBy (unreportable : Unreportable document) :
    ¬ GivenBy document options := by
  obtain ⟨entries, rfl⟩ := unreportable.exists_map
  rw [givenBy_map_iff, unshowable_of_unreportable unreportable]
  exact nofun

end Options

section Strictness

variable {path : Path} {document : Document} {outcome : Except FileFault Options}

theorem strict_of_ok {options : Options}
    (given : ∀ other, Options.GivenBy document other ↔ other = options) :
    LoadedStrictly path document (.ok options) where
  accepts other := by rw [given, Except.ok.injEq, eq_comm]
  refuses none := absurd ((given options).mpr rfl) (none options)

theorem strict_of_error {fault : FileFault}
    (none : ∀ options, ¬ Options.GivenBy document options)
    (mistake : fault.isOptionsMistake = true) (names : fault.Names path) :
    LoadedStrictly path document (.error fault) where
  accepts options := iff_of_false nofun (none options)
  refuses _ := ⟨fault, rfl, mistake, names⟩

/-- An outcome is strict unless it is one of the two that should not be. -/
theorem Loaded.strict_iff (loaded : Loaded path document outcome) :
    LoadedStrictly path document outcome ↔ ¬ document.Hollow ∧ ¬ Options.Unreportable document := by
  cases loaded with
  | nothing =>
      have strict : LoadedStrictly path .null (.ok .standard) :=
        strict_of_ok fun _ => Options.givenBy_null_iff
      exact iff_of_true strict ⟨Document.not_hollow_null, nofun⟩
  | hollow hollow =>
      refine iff_of_false ?_ fun exceptions => exceptions.1 hollow
      intro strict
      -- The defaults would have to come of nothing or of a mapping.
      rcases (strict.accepts .standard).mp rfl with ⟨rfl, -⟩ | ⟨entries, rfl, -⟩
      · exact Document.not_hollow_null hollow
      · exact Document.not_hollow_map entries hollow
  | @options entries options described =>
      have read : Options.ofDocument (.map entries) = .ok options :=
        Options.ofDocument_eq_ok_iff.mpr ⟨entries, rfl, described⟩
      have strict : LoadedStrictly path (.map entries) (.ok options) := by
        refine strict_of_ok fun other => ?_
        rw [Options.givenBy_map_iff, read, Except.ok.injEq, eq_comm]
      refine iff_of_true strict ⟨Document.not_hollow_map entries, fun unreportable => ?_⟩
      exact unreportable.not_givenBy (Options.givenBy_map_iff.mpr read)
  | notMapping something solid other =>
      have strict : LoadedStrictly path document (.error (.notMapping path)) :=
        strict_of_error (fun _ => Options.not_givenBy something other) rfl
          (FileFault.notMapping_names path)
      refine iff_of_true strict ⟨solid, fun unreportable => ?_⟩
      obtain ⟨entries, is⟩ := unreportable.exists_map
      exact other entries is
  | @badOptions entries error refused reportable =>
      have strict : LoadedStrictly path (.map entries) (.error (.badOptions path error)) := by
        refine strict_of_error (fun options given => ?_) rfl (FileFault.badOptions_names path error)
        cases refused.symm.trans (Options.givenBy_map_iff.mp given)
      exact iff_of_true strict ⟨Document.not_hollow_map entries, reportable⟩
  | unreportable unreportable =>
      refine iff_of_false ?_ fun exceptions => exceptions.2 unreportable
      intro strict
      -- The document stands for no options, but the fault is none that an author is told of.
      obtain ⟨fault, is, mistake, -⟩ := strict.refuses fun _ => unreportable.not_givenBy
      cases is
      cases mistake

end Strictness

/-- Whatever the reader is, what comes of loading an options file is determined by the document in
it, case by case. It is strict, that is, options come of nothing and of the mappings that read as
options, and all else is reported under the name of the file, exactly if the document is not hollow
and the report of its mistake would not have to show a number with too many digits. -/
theorem options_loaded_strictly_iff (read : DocumentReader) (disk : Disk) (path : Path)
    (document : Document) (stored : disk.Stores read path document) :
    (∀ outcome, loadOptions read disk path = outcome ↔ Loaded path document outcome) ∧
      (LoadedStrictly path document (loadOptions read disk path) ↔
        ¬ document.Hollow ∧ ¬ Options.Unreportable document) := by
  rw [stored.loadOptions_eq]
  exact ⟨fun _ => optionsOf_eq_iff, (loaded_optionsOf path document).strict_iff⟩

namespace Disk

/-- Lines that end in line feeds only are left as they are. -/
theorem unifyLineEnds_eq_self {cs : List Char} (plain : '\r' ∉ cs) : unifyLineEnds cs = cs := by
  fun_induction unifyLineEnds cs with
  | case1 => rfl
  | case2 cs _ | case3 cs _ _ => exact absurd List.mem_cons_self plain
  | case4 c cs _ _ ih => rw [ih fun later => plain (List.mem_cons_of_mem c later)]

theorem decode_toUTF8 {text : String} (plain : '\r' ∉ text.toList) :
    decode text.toUTF8 = some text := by
  have valid : text.toUTF8.IsValidUTF8 := text.isValidUTF8
  have back : String.fromUTF8 text.toUTF8 valid = text := rfl
  simp only [decode, String.fromUTF8?, dif_pos valid, back, Option.map_some,
    unifyLineEnds_eq_self plain, String.ofList_toList]

/-- A disk with one file. -/
def only (path : Path) (text : String) : Disk :=
  fun other => if other = path then some text.toUTF8 else none

theorem stores_only {text : String} {document : Document} {read : DocumentReader}
    (plain : '\r' ∉ text.toList) (holds : read text = .ok document) (path : Path) :
    (only path text).Stores read path document :=
  ⟨text.toUTF8, text, if_pos rfl, decode_toUTF8 plain, holds⟩

end Disk

/-- An empty list in the place of the delimiters is reported. -/
theorem options_loaded_strictly_iff_inner_list :
    let path := Path.ofText optionsFile
    let disk := Disk.only path "'delimiters': []"
    let document : Document := .map [(.text "delimiters", .list [])]
    let error : ConfigError := ⟨["delimiters"], .notMapping "Delimiters" "list"⟩
    disk.Stores Yaml.read path document ∧ ¬ document.Hollow ∧ ¬ Options.Unreportable document ∧
      loadOptions Yaml.read disk path = .error (.badOptions path error) ∧
      LoadedStrictly path document (loadOptions Yaml.read disk path) := by
  intro path disk document error
  have signs : Yaml.signsOf "'delimiters': []" =
      [.blockMap, .key, .scalar "delimiters" false, .value, .listOpen, .listClose, .blockEnd] := by
    decide +kernel
  have node : Yaml.nodeOf "'delimiters': []" =
      .ok (some (.map [] [(.scalar "delimiters" false, .list [])] none)) := by
    rw [Yaml.nodeOf, signs]
    rfl
  have holds : Yaml.read "'delimiters': []" = .ok document := by
    rw [Yaml.read, node]
    rfl
  have stored : disk.Stores Yaml.read path document := Disk.stores_only (by decide) holds path
  have refused : Options.ofDocument document = .error error := rfl
  have solid : ¬ document.Hollow := Document.not_hollow_map _
  have reportable : ¬ Options.Unreportable document :=
    Options.not_unreportable_of_error refused (by simp [error])
  obtain ⟨cases, strict⟩ := options_loaded_strictly_iff Yaml.read disk path document stored
  exact ⟨stored, solid, reportable, (cases _).mpr (.badOptions refused reportable),
    strict.mpr ⟨solid, reportable⟩⟩

/-- A reader that knows one text, and finds nothing in any other. -/
def DocumentReader.knowing (text : String) (document : Document) : DocumentReader :=
  fun other => .ok (if other = text then document else .null)

theorem DocumentReader.knowing_self (text : String) (document : Document) :
    knowing text document text = .ok document :=
  congrArg Except.ok (if_pos rfl)

namespace LongNumber

/-- A line of an options file with a number of so many digits in base sixteen, where a word is asked
for. -/
def line (digits : Nat) : String :=
  "cleanws: 0x" ++ String.ofList (List.replicate digits 'f')

/-- The number in the line. -/
def number (digits : Nat) : Nat :=
  Nat.pow 16 digits - 1

/-- The document in the line. -/
def entry (digits : Nat) : Document :=
  .map [(.text "cleanws", .int (number digits))]

/-- A reader that knows the line. -/
def reader (digits : Nat) : DocumentReader :=
  .knowing (line digits) (entry digits)

theorem not_mem_line (digits : Nat) : '\r' ∉ (line digits).toList := by
  simp [line]

theorem unreportable_entry : Options.Unreportable (entry 3600) := by
  have long : Document.isShowable (.int (number 3600)) = false := by decide +kernel
  exact Options.unreportable_of_unshowable (Options.ofDocument_overlong long) rfl

end LongNumber

/-- An empty list in the place of all options is not reported, and neither is a number of 3600
digits in base sixteen in the place of a word. -/
theorem options_not_loaded_strictly :
    let path := Path.ofText optionsFile
    let hollow := Disk.only path "[]"
    let long := Disk.only path (LongNumber.line 3600)
    (hollow.Stores Yaml.read path (.list []) ∧
      loadOptions Yaml.read hollow path = .ok .standard ∧
      ¬ LoadedStrictly path (.list []) (loadOptions Yaml.read hollow path)) ∧
    (long.Stores (LongNumber.reader 3600) path (LongNumber.entry 3600) ∧
      loadOptions (LongNumber.reader 3600) long path = .error (.badValue .unshowable) ∧
      ¬ LoadedStrictly path (LongNumber.entry 3600)
        (loadOptions (LongNumber.reader 3600) long path)) := by
  intro path hollow long
  have signs : Yaml.signsOf "[]" = [.listOpen, .listClose] := by decide +kernel
  have holds : Yaml.read "[]" = .ok (.list []) := by
    rw [Yaml.read, Yaml.nodeOf, signs]
    rfl
  have loadedList : Loaded path (.list []) (.ok .standard) := .hollow .list
  have loadedNumber : Loaded path (LongNumber.entry 3600) (.error (.badValue .unshowable)) :=
    .unreportable LongNumber.unreportable_entry
  have storedList : hollow.Stores Yaml.read path (.list []) :=
    Disk.stores_only (by decide) holds path
  have storedNumber : long.Stores (LongNumber.reader 3600) path (LongNumber.entry 3600) :=
    Disk.stores_only (LongNumber.not_mem_line 3600) (DocumentReader.knowing_self _ _) path
  rw [storedList.loadOptions_eq, loadedList.optionsOf_eq, storedNumber.loadOptions_eq,
    loadedNumber.optionsOf_eq]
  refine ⟨⟨storedList, rfl, ?_⟩, storedNumber, rfl, ?_⟩
  · intro strict
    exact (loadedList.strict_iff.mp strict).1 .list
  · intro strict
    exact (loadedNumber.strict_iff.mp strict).2 LongNumber.unreportable_entry

end Stencil
