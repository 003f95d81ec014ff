/-
# The commands agree

The three commands read the same two files in different orders, and go different ways from
there: `compile` runs the whole pipeline and writes a report, `check` runs it for its errors,
and `dump` may stop before there are instructions. On one template they nevertheless come to
the same verdict, which is an exit code and a complaint on the error stream. The verdict on
several templates is put together from the verdicts on each.

The order matters where both files are at fault, so a template that is missing needs options
that can be loaded. And there is one fault of an options file that aborts every command
instead of being reported: a wrong value with too many digits to be shown.
-/

import Stencil.Command.Run
import Stencil.Proofs.Independence
import Stencil.Proofs.Loading
import Stencil.Proofs.Showing

namespace Stencil

/-- The file that the options for a template are read from, if there is any. -/
def optionsPath? (disk : Disk) (template : Path) (config : Option String) : Option Path :=
  match config with
  | none | some "" => findOptions disk template.parent
  | some name => some (Path.ofText name)

section OptionsPath

variable {read : DocumentReader} {disk : Disk} {template path : Path} {config : Option String}

theorem optionsFor_of_none (absent : optionsPath? disk template config = none) :
    optionsFor read disk template config = .ok .standard := by
  simp only [optionsPath?] at absent
  split at absent
  · simp only [optionsFor, absent]
  · simp only [optionsFor, absent]
  · cases absent

/-- Only a file that was asked for by name can be missing. -/
theorem optionsFor_of_some (found : optionsPath? disk template config = some path) :
    optionsFor read disk template config =
      if (disk path).isSome then loadOptions read disk path else .error (.noConfig path) := by
  have present (beside : findOptions disk template.parent = some path) :
      (disk path).isSome = true := by
    simp only [findOptions] at beside
    split at beside
    · cases beside
      assumption
    · cases beside
  simp only [optionsPath?] at found
  split at found
  · simp only [optionsFor, found, present found, if_true]
  · simp only [optionsFor, found, present found, if_true]
  · rename_i name nonempty
    cases found
    simp only [optionsFor]

end OptionsPath

namespace Command

/-- If the reader refuses a text, it does so for a mistake of the text. -/
def FailsProperly (read : DocumentReader) (text : String) : Prop :=
  ∀ fault, read text ≠ .error (.value fault)

/-- A file, if it is there, is a text on which the reader does not fail improperly. -/
def OptionsLegible (read : DocumentReader) (disk : Disk) (path : Path) : Prop :=
  ∀ bytes, disk path = some bytes →
    ∃ text, Disk.decode bytes = some text ∧ FailsProperly read text

/-- What is asked of the files that a command reads for a template: they are texts, the template
has no more characters than an index can count, and not both of them are at fault. -/
structure Legible (read : DocumentReader) (disk : Disk) (config : Option String)
    (template : String) : Prop where
  source : ∀ bytes, disk (Path.ofText template) = some bytes →
    ∃ text, Disk.decode bytes = some text ∧ text.length ≤ Span.maxWidth
  options : ∀ path ∈ optionsPath? disk (Path.ofText template) config, OptionsLegible read disk path
  either : (disk (Path.ofText template)).isSome = true ∨
    ∃ options, optionsFor read disk (Path.ofText template) config = .ok options

/-- The options for a template are in a document with a mistake that cannot be reported, since the
wrong value has too many digits to be shown. -/
def Unshowable (read : DocumentReader) (disk : Disk) (config : Option String)
    (template : String) : Prop :=
  ∃ path ∈ optionsPath? disk (Path.ofText template) config,
    ∃ document, disk.Stores read path document ∧ Options.Unreportable document

section Faults

variable {read : DocumentReader} {disk : Disk} {config : Option String} {template : String}
  {path : Path} {fault : FileFault}

/-- What is wrong with an options file is a mistake of its author, or cannot be reported. -/
theorem isMistake_or_of_loadOptions (legible : OptionsLegible read disk path)
    (refused : loadOptions read disk path = .error fault) :
    fault.isMistake = true ∨
      ∃ document, disk.Stores read path document ∧ Options.Unreportable document := by
  cases found : disk path with
  | none =>
      simp only [loadOptions, found] at refused
      cases refused
  | some bytes =>
      obtain ⟨text, decoded, proper⟩ := legible bytes found
      cases holds : read text with
      | ok document =>
          have stored : disk.Stores read path document := ⟨bytes, text, found, decoded, holds⟩
          rw [stored.loadOptions_eq, optionsOf_eq_iff] at refused
          cases refused with
          | notMapping | badOptions => exact .inl rfl
          | unreportable unreportable => exact .inr ⟨document, stored, unreportable⟩
      | error unread =>
          simp only [loadOptions, found, textOf, decoded, bind, Except.bind, holds] at refused
          cases refused
          cases unread with
          | value valueFault => exact absurd holds (proper valueFault)
          | _ => exact .inl rfl

theorem Legible.isMistake_or_of_optionsFor (legible : Legible read disk config template)
    (refused : optionsFor read disk (Path.ofText template) config = .error fault) :
    fault.isMistake = true ∨ Unshowable read disk config template := by
  cases found : optionsPath? disk (Path.ofText template) config with
  | none =>
      rw [optionsFor_of_none found] at refused
      cases refused
  | some path =>
      rw [optionsFor_of_some found] at refused
      split at refused
      · refine (isMistake_or_of_loadOptions (legible.options path found) refused).imp_right ?_
        exact fun unreportable => ⟨path, found, unreportable⟩
      · cases refused
        exact .inl rfl

theorem Unshowable.optionsFor_eq (unshowable : Unshowable read disk config template) :
    optionsFor read disk (Path.ofText template) config = .error (.badValue .unshowable) := by
  obtain ⟨path, found, document, stored, unreportable⟩ := unshowable
  have present : (disk path).isSome = true := by
    obtain ⟨bytes, -, there, -⟩ := stored
    rw [there]
    rfl
  rw [optionsFor_of_some found, if_pos present, stored.loadOptions_eq]
  exact (Loaded.unreportable unreportable).optionsOf_eq

/-- A template that is there is read, and one that is missing has options. -/
theorem Legible.cases_of_readTemplate (legible : Legible read disk config template) :
    (∃ source, readTemplate disk (Path.ofText template) = .ok source ∧
      source.length ≤ Span.maxWidth) ∨
    readTemplate disk (Path.ofText template) = .error (.noTemplate (Path.ofText template)) ∧
      ∃ options, optionsFor read disk (Path.ofText template) config = .ok options := by
  cases found : disk (Path.ofText template) with
  | some bytes =>
      obtain ⟨text, decoded, countable⟩ := legible.source bytes found
      exact .inl ⟨text, by simp only [readTemplate, found, textOf, decoded], countable⟩
  | none =>
      refine .inr ⟨by simp only [readTemplate, found], ?_⟩
      exact legible.either.resolve_left (by simp [found])

end Faults

/-- A command that exits with a code and a complaint. -/
def Exits (code : Nat) (complaint : String) (transcript : Transcript) : Prop :=
  transcript.ending = .exit code ∧ transcript.stderr = complaint

/-- The line that says that a template is in order. -/
def okLine (template : String) : String :=
  s!"{(Path.ofText template).describe}: ok\n"

/-- What all commands make of a template. -/
structure Verdict (read : DocumentReader) (disk : Disk) (config : Option String)
    (template : String) (code : Nat) (complaint : String) : Prop where
  zero_or : code = 0 ∨ code = failureCode
  compile : ∀ debug pretty,
    Exits code complaint (run read disk (.compile template config debug pretty))
  dump : ∀ listing, Exits code complaint (run read disk (.dump template config listing))
  check : Exits code complaint (checkOne read disk config template)
  output : (checkOne read disk config template).stdout = if code = 0 then okLine template else ""

section OneTemplate

variable {read : DocumentReader} {disk : Disk} {config : Option String}
  {template source : String} {options : Options}

/-- A fault that is a mistake of a file, and that all commands meet. -/
theorem verdict_of_refused {fault : FileFault} (mistake : fault.isMistake = true)
    (compile : ∀ debug pretty,
      run read disk (.compile template config debug pretty) = refused fault)
    (dump : ∀ listing, run read disk (.dump template config listing) = refused fault)
    (check : checkOne read disk config template = refused fault) :
    Verdict read disk config template failureCode (errorLine fault.message) := by
  have transcript : refused fault = ⟨"", errorLine fault.message, .exit failureCode⟩ := by
    rw [refused, if_pos mistake]
  rw [transcript] at check
  refine ⟨.inr rfl, fun debug pretty => ?_, fun listing => ?_, ?_, ?_⟩
  · rw [compile, transcript]
    exact ⟨rfl, rfl⟩
  · rw [dump, transcript]
    exact ⟨rfl, rfl⟩
  · rw [check]
    exact ⟨rfl, rfl⟩
  · rw [check, if_neg (by decide)]

/-- The debug flag does not change how a source is read. -/
theorem failure_ofText_debug (options : Options) (debug : Bool) (source : String) :
    (Parse.ofText (if debug then { options with debug := true } else options) source).failure =
      (Parse.ofText options source).failure := by
  cases debug with
  | false => rfl
  | true =>
      have alike : options.ReadAlike { options with debug := true } := ⟨rfl, rfl, rfl, rfl⟩
      obtain ⟨-, -, -, same⟩ := Parse.exists_carries_of_readAlike alike source
      exact same

theorem failed_eq {error : TemplateError} {name text output : String}
    {stdout : TemplateError → Except PlaceFault String}
    (diagnosed : Diagnostic.ofError error source name = .ok text)
    (shown : stdout error = .ok output) :
    failed (.parse (.template error)) source name stdout =
      ⟨output, text ++ "\n", .exit failureCode⟩ := by
  simp only [failed, shown, reported, diagnosed]

/-- An error of a template is reported by all commands, whether they get as far as instructions
or not. -/
theorem verdict_of_error {error : TemplateError} {text : String}
    (opened : readTemplate disk (Path.ofText template) = .ok source)
    (loaded : optionsFor read disk (Path.ofText template) config = .ok options)
    (fails : (Parse.ofText options source).failure = some (.template error))
    (diagnosed : Diagnostic.ofError error source (Path.ofText template).describe = .ok text) :
    Verdict read disk config template failureCode (text ++ "\n") := by
  have within := (Parse.within_ofText options source).2 error fails
  have compiles := compile_of_failure fails (Path.ofText template).describe
  have checked : checkOne read disk config template = ⟨"", text ++ "\n", .exit failureCode⟩ := by
    simp only [checkOne, opened, loaded, compiles]
    exact failed_eq diagnosed rfl
  refine ⟨.inr rfl, fun debug pretty => ?_, fun listing => ?_, ?_, ?_⟩
  · obtain ⟨report, reports, -⟩ := Report.showsError within (Path.ofText template).describe
    have compiles' := compile_of_failure ((failure_ofText_debug options debug source).trans fails)
      (Path.ofText template).describe
    simp only [run, runCompile, opened, loaded, compiles']
    rw [failed_eq diagnosed (by rw [reports]; rfl)]
    exact ⟨rfl, rfl⟩
  · have dumped : run read disk (.dump template config listing) =
        ⟨"", text ++ "\n", .exit failureCode⟩ := by
      cases listing with
      | true =>
          simp only [run, runDump, opened, loaded, if_true, compiles, Except.map]
          exact failed_eq diagnosed rfl
      | false =>
          simp only [run, runDump, opened, loaded, Bool.false_eq_true, if_false,
            cleanNodes_eq_error_iff.mpr fails, Except.map]
          exact failed_eq diagnosed rfl
    rw [dumped]
    exact ⟨rfl, rfl⟩
  · rw [checked]
    exact ⟨rfl, rfl⟩
  · rw [checked, if_neg (by decide)]

theorem exits_written {output : Except PlaceFault String} {text : String}
    (shown : output = .ok text) : Exits 0 "" (written output) := by
  rw [shown]
  exact ⟨rfl, rfl⟩

/-- A template that compiles is in order for all commands. -/
theorem verdict_of_compiled (opened : readTemplate disk (Path.ofText template) = .ok source)
    (loaded : optionsFor read disk (Path.ofText template) config = .ok options)
    (succeeds : (Parse.ofText options source).failure = none) :
    Verdict read disk config template 0 "" := by
  obtain ⟨outcomes, compiled, -⟩ := exists_compile succeeds (Path.ofText template).describe
  refine ⟨.inl rfl, fun debug pretty => ?_, fun listing => ?_, ?_, ?_⟩
  · obtain ⟨outcomes', compiled', -⟩ := exists_compile
      ((failure_ofText_debug options debug source).trans succeeds) (Path.ofText template).describe
    obtain ⟨report, entries, reports, -⟩ := Report.showsProgram (within_of_compile compiled')
    simp only [run, runCompile, opened, loaded, compiled']
    exact exits_written (by rw [reports]; rfl)
  · cases listing with
    | true =>
        obtain ⟨lines, shown, -⟩ := View.showsListing (within_of_compile compiled)
        simp only [run, runDump, opened, loaded, if_true, compiled, Except.map]
        exact exits_written (by rw [shown])
    | false =>
        obtain ⟨nodes, cleaned, parsed, cleans, -⟩ := exists_of_compile compiled
        obtain ⟨lines, shown, -⟩ := View.showsParts (Node.showable_of_clean parsed cleans)
        simp only [run, runDump, opened, loaded, Bool.false_eq_true, if_false,
          cleanNodes_eq_ok_iff.mpr ⟨nodes, parsed, cleans⟩, Except.map]
        exact exits_written (by rw [shown])
  · simp only [checkOne, opened, loaded, compiled]
    exact exits_written rfl
  · simp only [checkOne, opened, loaded, compiled, written, if_true, okLine]

/-- All commands come to one verdict on a template whose files can be read, unless its options
cannot be shown. -/
theorem Legible.exists_verdict (legible : Legible read disk config template)
    (showable : ¬ Unshowable read disk config template) :
    ∃ code complaint, Verdict read disk config template code complaint := by
  rcases legible.cases_of_readTemplate with ⟨source, opened, countable⟩ | ⟨missing, options, loaded⟩
  · cases loaded : optionsFor read disk (Path.ofText template) config with
    | error fault =>
        have mistake := (legible.isMistake_or_of_optionsFor loaded).resolve_right showable
        refine ⟨_, _, verdict_of_refused mistake (fun debug pretty => ?_) (fun listing => ?_) ?_⟩
        · simp only [run, runCompile, loaded]
        · simp only [run, runDump, opened, loaded]
        · simp only [checkOne, opened, loaded]
    | ok options =>
        cases parsed : (Parse.ofText options source).failure with
        | none => exact ⟨_, _, verdict_of_compiled opened loaded parsed⟩
        | some failure =>
            obtain ⟨error, rfl⟩ := Parse.exists_template_of_failure parsed
            have within := (Parse.within_ofText options source).2 error parsed
            obtain ⟨location, excerpt, -, diagnosed⟩ :=
              Diagnostic.shows within countable (Path.ofText template).describe
            exact ⟨_, _, verdict_of_error opened loaded parsed diagnosed⟩
  · -- Only `compile` looks at the options first, and they are in order.
    have mistake : (FileFault.noTemplate (Path.ofText template)).isMistake = true := rfl
    refine ⟨_, _, verdict_of_refused mistake (fun debug pretty => ?_) (fun listing => ?_) ?_⟩
    · simp only [run, runCompile, missing, loaded]
    · simp only [run, runDump, missing]
    · simp only [checkOne, missing]

/-- Options that cannot be shown abort the check of a template. -/
theorem Legible.aborts_of_unshowable (legible : Legible read disk config template)
    (unshowable : Unshowable read disk config template) :
    (checkOne read disk config template).ending = .abort (.file (.badValue .unshowable)) := by
  rcases legible.cases_of_readTemplate with ⟨source, opened, -⟩ | ⟨-, options, loaded⟩
  · simp only [checkOne, opened, unshowable.optionsFor_eq]
    rfl
  · cases loaded.symm.trans unshowable.optionsFor_eq

end OneTemplate

/-- The commands agree on some templates. The flags of `compile` are arbitrary. -/
structure Agree (read : DocumentReader) (disk : Disk) (config : Option String)
    (templates : List String) (debug pretty : Bool) : Prop where
  /-- `check` succeeds if `compile` succeeds on each template, and fails otherwise. -/
  code : (run read disk (.check templates config)).ending =
    .exit (if ∀ template ∈ templates,
      (run read disk (.compile template config debug pretty)).ending = .exit 0
    then 0 else failureCode)
  /-- `check` writes a line for each template on which `compile` succeeds. -/
  output : (run read disk (.check templates config)).stdout =
    String.join ((templates.filter fun template =>
      (run read disk (.compile template config debug pretty)).ending = .exit 0).map okLine)
  /-- `check` complains as `compile` does. -/
  complaints : (run read disk (.check templates config)).stderr =
    String.join (templates.map fun template =>
      (run read disk (.compile template config debug pretty)).stderr)
  /-- `dump` exits and complains as `compile` does. -/
  dumps : ∀ template ∈ templates, ∀ listing, ∃ code,
    (run read disk (.compile template config debug pretty)).ending = .exit code ∧
    (run read disk (.dump template config listing)).ending = .exit code ∧
    (run read disk (.dump template config listing)).stderr =
      (run read disk (.compile template config debug pretty)).stderr

namespace Transcript

variable {first second : Transcript}

theorem followedBy_of_exit {code other : Nat} (exits : first.ending = .exit code)
    (exits' : second.ending = .exit other) :
    first.followedBy second =
      ⟨first.stdout ++ second.stdout, first.stderr ++ second.stderr, .exit (max code other)⟩ := by
  simp only [followedBy, exits, exits']

/-- Two transcripts come to an exit only if both do. -/
theorem exists_exit_of_followedBy {code : Nat}
    (exits : (first.followedBy second).ending = .exit code) :
    (∃ code, first.ending = .exit code) ∧ ∃ code, second.ending = .exit code := by
  cases ends : first.ending with
  | abort cause =>
      simp only [followedBy, ends] at exits
      cases exits
  | exit code =>
      cases ends' : second.ending with
      | abort cause =>
          simp only [followedBy, ends, ends'] at exits
          cases exits
      | exit other => exact ⟨⟨code, rfl⟩, other, rfl⟩

end Transcript

section ManyTemplates

variable {read : DocumentReader} {disk : Disk} {config : Option String}
  {templates : List String} {debug pretty : Bool}

/-- One more template in front. -/
theorem Agree.cons {template : String} {code : Nat} {complaint : String}
    (verdict : Verdict read disk config template code complaint)
    (agree : Agree read disk config templates debug pretty) :
    Agree read disk config (template :: templates) debug pretty := by
  obtain ⟨exits, complains⟩ := verdict.compile debug pretty
  have checks : run read disk (.check (template :: templates) config) =
      ⟨(checkOne read disk config template).stdout ++
          (run read disk (.check templates config)).stdout,
        (checkOne read disk config template).stderr ++
          (run read disk (.check templates config)).stderr,
        .exit (max code _)⟩ :=
    Transcript.followedBy_of_exit verdict.check.1 agree.code
  refine ⟨?_, ?_, ?_, ?_⟩
  · rw [checks]
    simp only [List.forall_mem_cons, exits]
    rcases verdict.zero_or with rfl | rfl
    · simp
    · split <;> simp [failureCode]
  · rw [checks, verdict.output, agree.output]
    rcases verdict.zero_or with rfl | rfl
    · simp [exits]
    · simp [exits, failureCode]
  · rw [checks, verdict.check.2, agree.complaints, List.map_cons, complains, String.join_cons]
  · rw [List.forall_mem_cons]
    refine ⟨fun listing => ⟨code, exits, (verdict.dump listing).1, ?_⟩, agree.dumps⟩
    exact (verdict.dump listing).2.trans complains.symm

theorem agree_of_verdicts
    (verdicts : ∀ template ∈ templates, ∃ code complaint,
      Verdict read disk config template code complaint) :
    Agree read disk config templates debug pretty := by
  induction templates with
  | nil => exact ⟨rfl, rfl, rfl, by simp⟩
  | cons template rest ih =>
      rw [List.forall_mem_cons] at verdicts
      obtain ⟨⟨code, complaint, verdict⟩, later⟩ := verdicts
      exact (ih later).cons verdict

/-- A check that exits has exited from each of its templates. -/
theorem exists_exit_of_runCheck {code : Nat}
    (exits : (runCheck read disk config templates).ending = .exit code) :
    ∀ template ∈ templates, ∃ code, (checkOne read disk config template).ending = .exit code := by
  induction templates generalizing code with
  | nil => simp
  | cons template rest ih =>
      obtain ⟨here, code, later⟩ := Transcript.exists_exit_of_followedBy exits
      exact List.forall_mem_cons.mpr ⟨here, ih later⟩

/-- Where the commands agree, all options that are wrong can be shown. -/
theorem Legible.not_unshowable {template : String} (legible : Legible read disk config template)
    (agree : Agree read disk config templates debug pretty) (listed : template ∈ templates) :
    ¬ Unshowable read disk config template := by
  intro unshowable
  obtain ⟨code, exits⟩ := exists_exit_of_runCheck agree.code template listed
  rw [legible.aborts_of_unshowable unshowable] at exits
  cases exits

end ManyTemplates

/-- The files of a directory. -/
def diskOf (files : List (String × ByteArray)) : Disk :=
  fun path => (files.find? fun file => Path.ofText file.1 = path).map Prod.snd

/-- Whatever the reader of documents is, the commands agree on templates whose files can be read,
exactly if for none of them the document in the options file has a mistake that cannot be
reported. -/
theorem commands_agree (read : DocumentReader) (disk : Disk) (config : Option String)
    (templates : List String) (debug pretty : Bool)
    (legible : ∀ template ∈ templates, Legible read disk config template) :
    Agree read disk config templates debug pretty ↔
      ∀ template ∈ templates, ¬ Unshowable read disk config template := by
  constructor
  · intro agree template listed
    exact (legible template listed).not_unshowable agree listed
  · intro showable
    exact agree_of_verdicts fun template listed =>
      (legible template listed).exists_verdict (showable template listed)

/-- Of three templates one compiles, one has an error and one is missing. -/
theorem commands_agree_mixed :
    let disk := diskOf [("a.tt", "x\n<#= y #>".toUTF8), ("b.tt", "<# if z".toUTF8),
      ("t4c.yaml", "cleanws: block\n".toUTF8)]
    let templates := ["a.tt", "b.tt", "c.tt"]
    (∀ template ∈ templates, Legible Yaml.read disk none template) ∧
      (∀ template ∈ templates, ¬ Unshowable Yaml.read disk none template) ∧
      Agree Yaml.read disk none templates true false := by
  intro disk templates
  have first : disk (Path.ofText "a.tt") = some "x\n<#= y #>".toUTF8 := by decide +kernel
  have second : disk (Path.ofText "b.tt") = some "<# if z".toUTF8 := by decide +kernel
  have third : disk (Path.ofText "c.tt") = none := by decide +kernel
  have stored : disk (Path.ofText "t4c.yaml") = some "cleanws: block\n".toUTF8 := by
    decide +kernel
  have beside : ∀ template ∈ templates,
      optionsPath? disk (Path.ofText template) none = some (Path.ofText "t4c.yaml") := by
    decide +kernel
  have readable : (Yaml.read "cleanws: block\n").isOk = true := by decide +kernel
  have loaded : (loadOptions Yaml.read disk (Path.ofText "t4c.yaml")).isOk = true := by
    decide +kernel
  have loads (template : String) (listed : template ∈ templates) :
      ∃ options, optionsFor Yaml.read disk (Path.ofText template) none = .ok options := by
    rw [optionsFor_of_some (beside template listed), stored]
    cases outcome : loadOptions Yaml.read disk (Path.ofText "t4c.yaml") with
    | ok options => exact ⟨options, rfl⟩
    | error fault =>
        rw [outcome] at loaded
        cases loaded
  have texts : ∀ template ∈ templates, ∀ bytes, disk (Path.ofText template) = some bytes →
      ∃ text, Disk.decode bytes = some text ∧ text.length ≤ Span.maxWidth := by
    simp only [templates, List.forall_mem_cons, first, second, third]
    refine ⟨?_, ?_, by simp, by simp⟩
    · rintro _ ⟨⟩
      exact ⟨_, Disk.decode_toUTF8 (by decide), by decide +kernel⟩
    · rintro _ ⟨⟩
      exact ⟨_, Disk.decode_toUTF8 (by decide), by decide +kernel⟩
  have legible (template : String) (listed : template ∈ templates) :
      Legible Yaml.read disk none template := by
    refine ⟨texts template listed, ?_, .inr (loads template listed)⟩
    intro path found bytes held
    cases (beside template listed).symm.trans found
    cases stored.symm.trans held
    refine ⟨_, Disk.decode_toUTF8 (by decide), ?_⟩
    intro fault refused
    rw [refused] at readable
    cases readable
  have showable (template : String) (listed : template ∈ templates) :
      ¬ Unshowable Yaml.read disk none template := by
    intro unshowable
    obtain ⟨options, loaded⟩ := loads template listed
    cases loaded.symm.trans unshowable.optionsFor_eq
  exact ⟨legible, showable,
    (commands_agree Yaml.read disk none templates true false legible).mpr showable⟩

/-- A wrong value that cannot be shown aborts all commands, although both files are texts and the
document is read. -/
theorem not_agree_of_unreportable {text : String} {document : Document}
    (plain : '\r' ∉ text.toList) (unreportable : Options.Unreportable document) :
    let read := DocumentReader.knowing text document
    let disk := diskOf [("t.tt", "x".toUTF8), ("t4c.yaml", text.toUTF8)]
    Legible read disk none "t.tt" ∧ ¬ Agree read disk none ["t.tt"] false false := by
  intro read disk
  have other : Path.ofText "t.tt" ≠ Path.ofText "t4c.yaml" := by decide +kernel
  have template : disk (Path.ofText "t.tt") = some "x".toUTF8 := by simp [disk, diskOf]
  have options : disk (Path.ofText "t4c.yaml") = some text.toUTF8 := by
    simp [disk, diskOf, other]
  have beside : optionsPath? disk (Path.ofText "t.tt") none = some (Path.ofText "t4c.yaml") := by
    have candidate : (Path.ofText "t.tt").parent.child optionsFile = Path.ofText "t4c.yaml" := by
      decide +kernel
    simp only [optionsPath?, findOptions, candidate, options, Option.isSome_some, if_true]
  have legible : Legible read disk none "t.tt" := by
    refine ⟨?_, ?_, .inl (by rw [template]; rfl)⟩
    · intro bytes found
      cases template.symm.trans found
      exact ⟨"x", Disk.decode_toUTF8 (by decide), by decide +kernel⟩
    · intro path found bytes held
      cases beside.symm.trans found
      cases options.symm.trans held
      exact ⟨text, Disk.decode_toUTF8 plain, nofun⟩
  have stored : disk.Stores read (Path.ofText "t4c.yaml") document :=
    ⟨_, text, options, Disk.decode_toUTF8 plain, DocumentReader.knowing_self text document⟩
  have unshowable : Unshowable read disk none "t.tt" :=
    ⟨_, beside, document, stored, unreportable⟩
  exact ⟨legible, fun agree => legible.not_unshowable agree List.mem_cons_self unshowable⟩

/-- An option is set to a number of 3600 digits in base sixteen. -/
theorem commands_disagree_long_number :
    let read := LongNumber.reader 3600
    let disk := diskOf [("t.tt", "x".toUTF8), ("t4c.yaml", (LongNumber.line 3600).toUTF8)]
    Legible read disk none "t.tt" ∧ ¬ Agree read disk none ["t.tt"] false false :=
  not_agree_of_unreportable (LongNumber.not_mem_line 3600) LongNumber.unreportable_entry

end Command

end Stencil
