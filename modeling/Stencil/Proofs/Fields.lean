/-
# Reading fields

A reader of a record looks up its fields by their names, so all it can see of a mapping are the
values at these names and the keys that are none of them. This module says what reading one field
comes to, and what that means for a record as a whole. Two mappings with the same keys and the
same values at the names are read alike, whatever the order of their entries. An error names the
path of the value that it is about, and that value is refused for the same reason when it is read
by itself. The one exception are values with too many digits to be shown, whose error has no path.
-/

import Mathlib.Data.List.Nodup
import Stencil.Reader

namespace Stencil

namespace Document

/-- The keys are all among the names. -/
def KeysAmong (names : List String) (entries : List (Document × Document)) : Prop :=
  ∀ entry ∈ entries, ∃ name ∈ names, entry.1 = .text name

/-- No key stands twice, and all keys are texts. Every mapping of a JSON document is such. -/
def Keyed : Document → Prop
  | .map entries =>
    (∀ entry ∈ entries, ∃ key, entry.1 = .text key) ∧ (entries.map Prod.fst).Nodup
  | _ => True

/-- The value at a path of keys. -/
def at? : List String → Document → Option Document
  | [], document => some document
  | name :: rest, .map entries => (lookup? name entries).bind (at? rest)
  | _ :: _, _ => none

/-- A document that is this text. -/
def IsText (document : Document) (value : String) : Prop :=
  document = .text value

/-- A document that is this truth value. -/
def IsTruth (document : Document) (value : Bool) : Prop :=
  document = .bool value

/-- The value of a field, if it is there, is as asked for. -/
def Holds (entries : List (Document × Document)) (name : String) (Fits : Document → Prop) : Prop :=
  ∀ value, lookup? name entries = some value → Fits value

/-- The value of a field is there and cannot be shown. -/
def Hides (entries : List (Document × Document)) (name : String) : Prop :=
  ∃ value, lookup? name entries = some value ∧ value.isShowable = false

/-- Some key cannot be shown. -/
def HidesKey (entries : List (Document × Document)) : Prop :=
  ∃ entry ∈ entries, entry.1.isShowable = false

/-- What a field sets: what its value means, or the default if it is missing. -/
def Sets {α : Type} (entries : List (Document × Document)) (name : String)
    (Means : Document → α → Prop) (default value : α) : Prop :=
  match lookup? name entries with
  | some given => Means given value
  | none => value = default

section Entries

variable {α : Type} {name : String} {value : Document} {entries others : List (Document × Document)}

theorem mem_of_lookup? (found : lookup? name entries = some value) :
    (.text name, value) ∈ entries := by
  fun_induction lookup? name entries with
  | case1 => cases found
  | case2 first rest =>
      cases found
      exact List.mem_cons_self
  | case3 key first rest other ih => exact List.mem_cons_of_mem _ (ih found)
  | case4 entry rest other ih => exact List.mem_cons_of_mem _ (ih found)

theorem lookup?_ne_none (present : (.text name, value) ∈ entries) :
    lookup? name entries ≠ none := by
  fun_induction lookup? name entries with
  | case1 => cases present
  | case2 => simp
  | case3 key first rest other ih =>
      refine ih ((List.mem_cons.mp present).resolve_left ?_)
      rintro same
      cases same
      exact other rfl
  | case4 entry rest other ih =>
      refine ih ((List.mem_cons.mp present).resolve_left ?_)
      intro same
      exact other name value same.symm

/-- Where no key stands twice, looking up is finding the entry. -/
theorem lookup?_eq_some_iff (distinct : (entries.map Prod.fst).Nodup) :
    lookup? name entries = some value ↔ (.text name, value) ∈ entries := by
  refine ⟨mem_of_lookup?, ?_⟩
  intro present
  obtain ⟨found, is⟩ := Option.ne_none_iff_exists'.mp (lookup?_ne_none present)
  have same := List.inj_on_of_nodup_map distinct (mem_of_lookup? is) present rfl
  rw [is, (Prod.mk.inj same).2]

theorem lookup?_perm (distinct : (entries.map Prod.fst).Nodup) (perm : entries.Perm others)
    (name : String) : lookup? name entries = lookup? name others := by
  have distinct' : (others.map Prod.fst).Nodup := (perm.map Prod.fst).nodup_iff.mp distinct
  refine Option.ext ?_
  intro value
  rw [lookup?_eq_some_iff distinct, lookup?_eq_some_iff distinct', perm.mem_iff]

theorem Sets.of_some {Means : Document → α → Prop} {default result : α}
    (found : lookup? name entries = some value) :
    Sets entries name Means default result ↔ Means value result := by
  rw [Sets, found]

/-- A field can be set unless its value means nothing. -/
theorem exists_sets_iff {Means : Document → α → Prop} {default : α} :
    (∃ result, Sets entries name Means default result) ↔
      Holds entries name fun value => ∃ result, Means value result := by
  unfold Sets Holds
  split
  · rename_i found
    simp [found]
  · rename_i missing
    simp [missing]

@[simp]
theorem at?_map (name : String) (entries : List (Document × Document)) :
    (map entries).at? [name] = lookup? name entries := by
  cases found : lookup? name entries <;> simp [at?, found]

/-- Keys that are texts can be shown. -/
theorem not_hidesKey_of_keyed (keyed : (map entries).Keyed) : ¬ HidesKey entries := by
  rintro ⟨entry, present, long⟩
  obtain ⟨key, is⟩ := keyed.1 entry present
  rw [is] at long
  cases long

theorem areShowable_eq_all (items : List Document) : areShowable items = items.all isShowable := by
  induction items with
  | nil => rfl
  | cons item rest ih => rw [areShowable, ih, List.all_cons]

end Entries

end Document

/-- The error of a value that is read as a part of another one. -/
def ConfigError.under (path : List String) (error : ConfigError) : ConfigError :=
  if error.problem = .unshowable then error else ⟨path ++ error.path, error.problem⟩

theorem ConfigError.under_under (path inner : List String) (error : ConfigError) :
    (error.under inner).under path = error.under (path ++ inner) := by
  by_cases unshowable : error.problem = .unshowable
  · simp [under, unshowable]
  · simp [under, unshowable]

theorem ConfigError.under_problem (path : List String) (error : ConfigError) :
    (error.under path).problem = error.problem := by
  unfold under
  split <;> rfl

namespace Reader

variable {α β : Type}

section Steps

variable {ε : Type} {first : Except ε α} {next : α → Except ε β}

theorem bind_eq_ok {result : β} :
    (first >>= next) = .ok result ↔ ∃ value, first = .ok value ∧ next value = .ok result := by
  cases first <;> simp [bind, Except.bind]

theorem bind_eq_error {error : ε} :
    (first >>= next) = .error error ↔
      first = .error error ∨ ∃ value, first = .ok value ∧ next value = .error error := by
  cases first <;> simp [bind, Except.bind]

end Steps

section Values

variable {path : List String} {document : Document}

@[simp]
theorem bool_eq_ok_iff {value : Bool} :
    bool path (.written document) = .ok value ↔ document = .bool value := by
  cases document <;> simp [bool, fail]

@[simp]
theorem text_eq_ok_iff {value : String} :
    text path (.written document) = .ok value ↔ document = .text value := by
  cases document <;> simp [text, fail]

theorem bool_ne_unshowable {given : Given} {error : ConfigError}
    (refused : bool path given = .error error) : error.problem ≠ .unshowable := by
  unfold bool at refused
  split at refused <;> cases refused
  simp

theorem text_ne_unshowable {given : Given} {error : ConfigError}
    (refused : text path given = .error error) : error.problem ≠ .unshowable := by
  unfold text at refused
  split at refused <;> cases refused
  simp

/-- The member of an enumeration that a text spells, by its word or by its name in any case. -/
def Spells (members : List (String × α)) (document : Document) (meaning : α) : Prop :=
  ∃ spelled word, document = .text spelled ∧ (word, meaning) ∈ members ∧
    (spelled = word ∨ Text.upper spelled = Text.upper word)

theorem spells_of_memberOf? {group : String} {members : List (String × α)} {meaning : α}
    (found : memberOf? (.ofWords group members) (.written document) = some meaning) :
    Spells members document meaning := by
  cases document with
  | text spelled =>
      obtain ⟨⟨symbol, _⟩, hit, rfl⟩ := Option.map_eq_some_iff.mp found
      rcases Option.or_eq_some_iff.mp hit with byWord | ⟨-, byName⟩
      · obtain ⟨⟨word, meaning⟩, member, same⟩ :=
          List.mem_map.mp (List.mem_of_find?_eq_some byWord)
        cases same
        have is : word = spelled := by simpa using List.find?_some byWord
        exact ⟨spelled, word, rfl, member, .inl is.symm⟩
      · obtain ⟨⟨word, meaning⟩, member, same⟩ :=
          List.mem_map.mp (List.mem_of_find?_eq_some byName)
        cases same
        have is : Text.upper word = Text.upper spelled := by simpa using List.find?_some byName
        exact ⟨spelled, word, rfl, member, .inr is.symm⟩
  | null | bool | int | float | time | foreign | list | map => cases found

theorem memberOf?_ne_none {group : String} {members : List (String × α)} {meaning : α}
    (spells : Spells members document meaning) :
    memberOf? (.ofWords group members) (.written document) ≠ none := by
  obtain ⟨spelled, word, rfl, member, same⟩ := spells
  intro missing
  have unnamed := (Option.or_eq_none_iff.mp (Option.map_eq_none_iff.mp missing)).2
  have differs := List.find?_eq_none.mp unnamed _ (List.mem_map_of_mem member)
  rcases same with rfl | same
  · simp at differs
  · simp [same] at differs

/-- Where the names differ, a text spells one member at most. -/
theorem Spells.unique {members : List (String × α)} {meaning other : α}
    (distinct : (members.map fun member => Text.upper member.1).Nodup)
    (first : Spells members document meaning) (second : Spells members document other) :
    meaning = other := by
  obtain ⟨spelled, word, rfl, member, same⟩ := first
  obtain ⟨_, word', is, member', same'⟩ := second
  cases is
  have named : Text.upper spelled = Text.upper word := same.elim (congrArg Text.upper) id
  have named' : Text.upper spelled = Text.upper word' := same'.elim (congrArg Text.upper) id
  have both := List.inj_on_of_nodup_map distinct member member' (named.symm.trans named')
  exact (Prod.mk.inj both).2

theorem choice_eq_ok_iff {group : String} {members : List (String × α)} {meaning : α}
    (distinct : (members.map fun member => Text.upper member.1).Nodup) :
    choice (.ofWords group members) path (.written document) = .ok meaning ↔
      Spells members document meaning := by
  unfold choice
  constructor
  · intro accepted
    split at accepted
    · rename_i found
      cases accepted
      exact spells_of_memberOf? found
    · split at accepted <;> cases accepted
  · intro spells
    split
    · rename_i other found
      rw [(spells_of_memberOf? found).unique distinct spells]
    · rename_i missing
      exact absurd missing (memberOf?_ne_none spells)

/-- Only a text is ever a member, and a text can always be shown. -/
theorem choice_of_unshowable (members : Choice α) (long : document.isShowable = false) :
    choice members path (.written document) = .error ⟨[], .unshowable⟩ := by
  have missing : memberOf? members (.written document) = none := by
    cases document with
    | text spelled => cases long
    | null | bool | int | float | time | foreign | list | map => rfl
  simp only [choice, missing, Given.isShowable, long, Bool.false_eq_true, if_false, fail]

theorem unshowable_of_choice {members : Choice α} {error : ConfigError}
    (refused : choice members path (.written document) = .error error)
    (unshowable : error.problem = .unshowable) : document.isShowable = false := by
  unfold choice at refused
  split at refused
  · cases refused
  · split at refused
    · cases refused
      cases unshowable
    · rename_i long
      simpa [Given.isShowable] using long

end Values

section Paths

theorem fail_eq (path : List String) {problem : ConfigProblem} (shown : problem ≠ .unshowable) :
    (fail path problem : Except ConfigError α) =
      (fail [] problem).mapError (ConfigError.under path) := by
  change _ = Except.error (ConfigError.under path ⟨[], problem⟩)
  rw [ConfigError.under, if_neg shown, List.append_nil, fail]

/-- The path is only put in front of the paths of errors. -/
def Steady (reader : Reader α) : Prop :=
  ∀ path given, reader path given = (reader [] given).mapError (ConfigError.under path)

theorem Steady.exists_inner {reader : Reader α} (steady : reader.Steady) {path : List String}
    {given : Given} {error : ConfigError} (refused : reader path given = .error error) :
    ∃ inner, reader [] given = .error inner ∧ error = inner.under path := by
  rw [steady] at refused
  cases alone : reader [] given with
  | ok value =>
      rw [alone] at refused
      cases refused
  | error inner =>
      rw [alone] at refused
      cases refused
      exact ⟨inner, rfl, rfl⟩

theorem Steady.run_eq_ok {reader : Reader α} (steady : reader.Steady) {path : List String}
    {document : Document} {result : α} (accepted : reader path (.written document) = .ok result) :
    reader.run document = .ok result := by
  rw [steady] at accepted
  rw [run]
  cases alone : reader [] (.written document) with
  | ok value =>
      rw [alone] at accepted
      exact accepted
  | error inner =>
      rw [alone] at accepted
      cases accepted

/-- The value is accepted or refused as a whole. -/
def Plain (reader : Reader α) : Prop :=
  ∀ given, (∃ value, ∀ path, reader path given = .ok value) ∨
    (∃ problem, problem ≠ .unshowable ∧ ∀ path, reader path given = fail path problem) ∨
    ∀ path, reader path given = fail [] .unshowable

theorem Plain.steady {reader : Reader α} (plain : reader.Plain) : reader.Steady := by
  intro path given
  rcases plain given with ⟨value, accepts⟩ | ⟨problem, shown, fails⟩ | fails
  · rw [accepts path, accepts []]
    rfl
  · rw [fails path, fails []]
    exact fail_eq path shown
  · rw [fails path, fails []]
    rfl

/-- Such a value is refused for the same reason when it is read by itself. -/
theorem Plain.alone {reader : Reader α} (plain : reader.Plain) {path : List String} {given : Given}
    {error : ConfigError} (refused : reader path given = .error error)
    (shown : error.problem ≠ .unshowable) :
    error.path = path ∧ reader [] given = .error ⟨[], error.problem⟩ := by
  rcases plain given with ⟨value, accepts⟩ | ⟨problem, -, fails⟩ | fails
  · rw [accepts path] at refused
    cases refused
  · rw [fails path] at refused
    cases refused
    exact ⟨rfl, fails []⟩
  · rw [fails path] at refused
    cases refused
    exact absurd rfl shown

theorem plain_bool : bool.Plain := by
  intro given
  cases given with
  | written document =>
      cases document with
      | bool value => exact .inl ⟨value, fun _ => rfl⟩
      | null | int | float | text | time | foreign | list | map =>
          exact .inr (.inl ⟨_, by simp, fun _ => rfl⟩)
  | symbol => exact .inr (.inl ⟨_, by simp, fun _ => rfl⟩)

theorem plain_text : text.Plain := by
  intro given
  cases given with
  | written document =>
      cases document with
      | text value => exact .inl ⟨value, fun _ => rfl⟩
      | null | bool | int | float | time | foreign | list | map =>
          exact .inr (.inl ⟨_, by simp, fun _ => rfl⟩)
  | symbol => exact .inr (.inl ⟨_, by simp, fun _ => rfl⟩)

theorem plain_choice (members : Choice α) : (choice members).Plain := by
  intro given
  unfold choice
  split
  · exact .inl ⟨_, fun _ => rfl⟩
  · split
    · exact .inr (.inl ⟨_, by simp, fun _ => rfl⟩)
    · exact .inr (.inr fun _ => rfl)

theorem mapError_bind {ε ε' : Type} (first : Except ε α) (next : α → Except ε β) (f : ε → ε') :
    (first >>= next).mapError f = first.mapError f >>= fun value => (next value).mapError f := by
  cases first <;> rfl

end Paths

namespace Fields

variable {fields : Fields} {name : String} {reader : Reader α} {default : α} {value : Document}

theorem getD_of_some (found : Document.lookup? name fields.entries = some value) :
    fields.getD name reader default = reader (fields.path ++ [name]) (.written value) := by
  simp only [getD, get?, found]
  cases reader (fields.path ++ [name]) (.written value) <;> rfl

theorem getD_of_none (missing : Document.lookup? name fields.entries = none) :
    fields.getD name reader default = .ok default := by
  rw [getD, get?, missing]
  rfl

/-- What a field is read as follows from what its reader accepts. -/
theorem getD_eq_ok_iff {Means : Document → α → Prop} {result : α}
    (accepts : ∀ value result,
      reader (fields.path ++ [name]) (.written value) = .ok result ↔ Means value result) :
    fields.getD name reader default = .ok result ↔
      Document.Sets fields.entries name Means default result := by
  cases found : Document.lookup? name fields.entries with
  | some value => rw [getD_of_some found, accepts, Document.Sets.of_some found]
  | none => simp [getD_of_none found, Document.Sets, found, eq_comm]

theorem getD_bool_eq_ok_iff {default result : Bool} :
    fields.getD name bool default = .ok result ↔
      Document.Sets fields.entries name Document.IsTruth default result :=
  getD_eq_ok_iff fun _ _ => bool_eq_ok_iff

theorem getD_text_eq_ok_iff {default result : String} :
    fields.getD name text default = .ok result ↔
      Document.Sets fields.entries name Document.IsText default result :=
  getD_eq_ok_iff fun _ _ => text_eq_ok_iff

/-- A field is refused for its value only. -/
theorem getD_eq_error_iff {error : ConfigError} :
    fields.getD name reader default = .error error ↔
      ∃ value, Document.lookup? name fields.entries = some value ∧
        reader (fields.path ++ [name]) (.written value) = .error error := by
  cases found : Document.lookup? name fields.entries with
  | some value => simp [getD_of_some found]
  | none => simp [getD_of_none found]

/-- Where a field is read, its value is accepted by itself. -/
theorem holds_of_getD {result : α} (steady : reader.Steady)
    (accepted : fields.getD name reader default = .ok result) :
    Document.Holds fields.entries name fun part => ∃ result, reader.run part = .ok result := by
  intro part found
  rw [getD_of_some found] at accepted
  exact ⟨result, steady.run_eq_ok accepted⟩

theorem getD_congr {path : List String} {entries others : List (Document × Document)}
    (same : Document.lookup? name entries = Document.lookup? name others) :
    getD ⟨path, entries⟩ name reader default = getD ⟨path, others⟩ name reader default := by
  simp only [getD, get?, same]

theorem getD_steady (steady : reader.Steady) (path : List String)
    (entries : List (Document × Document)) (name : String) (default : α) :
    getD ⟨path, entries⟩ name reader default =
      (getD ⟨[], entries⟩ name reader default).mapError (ConfigError.under path) := by
  cases found : Document.lookup? name entries with
  | some value =>
      rw [getD_of_some found, getD_of_some found, steady (path ++ [name]), steady ([] ++ [name])]
      cases reader [] (.written value) with
      | ok result => rfl
      | error error => exact congrArg Except.error (error.under_under path [name]).symm
  | none =>
      rw [getD_of_none found, getD_of_none found]
      rfl

end Fields

section Records

variable {label : String} {names : List String} {body : Fields → Except ConfigError α}
  {path : List String} {entries others : List (Document × Document)}

theorem foreignKeys_eq_nil_iff :
    foreignKeys names entries = [] ↔ Document.KeysAmong names entries := by
  simp only [foreignKeys, List.filter_eq_nil_iff, Document.KeysAmong, List.forall_mem_map]
  refine forall₂_congr ?_
  intro entry _
  cases entry.1 <;> simp

theorem record_of_known (known : foreignKeys names entries = []) :
    record label names body path (.written (.map entries)) = body ⟨path, entries⟩ := by
  rw [record, known]

theorem record_of_foreign (foreign : foreignKeys names entries ≠ []) :
    record label names body path (.written (.map entries)) =
      if Document.areShowable (foreignKeys names entries) then
        fail path (.unexpectedKeys (sortedTexts (foreignKeys names entries)))
      else fail [] .unshowable := by
  cases keys : foreignKeys names entries with
  | nil => exact absurd keys foreign
  | cons key rest => rw [record, keys]

/-- A key that cannot be shown is always foreign, since the names are texts. -/
theorem areShowable_foreignKeys_eq_false_iff :
    Document.areShowable (foreignKeys names entries) = false ↔ Document.HidesKey entries := by
  rw [Document.areShowable_eq_all, List.all_eq_false]
  constructor
  · rintro ⟨key, foreign, long⟩
    obtain ⟨entry, present, rfl⟩ := List.mem_map.mp (List.mem_filter.mp foreign).1
    exact ⟨entry, present, by simpa using long⟩
  · rintro ⟨⟨key, value⟩, present, long⟩
    refine ⟨key, List.mem_filter.mpr ⟨List.mem_map_of_mem present, ?_⟩, by simp [long]⟩
    cases key with
    | text => cases long
    | null | bool | int | float | time | foreign | list | map => rfl

theorem record_of_hidesKey (hidden : Document.HidesKey entries) :
    record label names body path (.written (.map entries)) = fail [] .unshowable := by
  have long : Document.areShowable (foreignKeys names entries) = false :=
    areShowable_foreignKeys_eq_false_iff.mpr hidden
  have foreign : foreignKeys names entries ≠ [] := by
    intro none
    rw [none] at long
    cases long
  rw [record_of_foreign foreign, long]
  rfl

/-- All that a record can be refused for, its fields apart. -/
inductive Refused (label : String) (names : List String) (path : List String) :
    Document → ConfigError → Prop
  | kind {document : Document} (other : ∀ entries, document ≠ .map entries) :
      Refused label names path document ⟨path, .notMapping label document.kind⟩
  | keys {entries : List (Document × Document)} (foreign : foreignKeys names entries ≠ []) :
      Refused label names path (.map entries)
        ⟨path, .unexpectedKeys (sortedTexts (foreignKeys names entries))⟩
  | unshowable {entries : List (Document × Document)}
      (long : Document.areShowable (foreignKeys names entries) = false) :
      Refused label names path (.map entries) ⟨[], .unshowable⟩

theorem refused_or_of_record {document : Document} {error : ConfigError}
    (fails : record label names body path (.written document) = .error error) :
    Refused label names path document error ∨
      ∃ entries, document = .map entries ∧ Document.KeysAmong names entries ∧
        body ⟨path, entries⟩ = .error error := by
  cases document with
  | map entries =>
      by_cases known : foreignKeys names entries = []
      · rw [record_of_known known] at fails
        exact .inr ⟨entries, rfl, foreignKeys_eq_nil_iff.mp known, fails⟩
      · rw [record_of_foreign known] at fails
        split at fails
        · cases fails
          exact .inl (.keys known)
        · rename_i long
          cases fails
          exact .inl (.unshowable (by simpa using long))
  | null | bool | int | float | text | time | foreign | list =>
      cases fails
      exact .inl (.kind (by simp))

theorem record_eq_ok_iff {document : Document} {result : α} :
    record label names body path (.written document) = .ok result ↔
      ∃ entries, document = .map entries ∧ Document.KeysAmong names entries ∧
        body ⟨path, entries⟩ = .ok result := by
  constructor
  · intro accepted
    cases document with
    | map entries =>
        by_cases known : foreignKeys names entries = []
        · rw [record_of_known known] at accepted
          exact ⟨entries, rfl, foreignKeys_eq_nil_iff.mp known, accepted⟩
        · rw [record_of_foreign known] at accepted
          split at accepted <;> cases accepted
    | null | bool | int | float | text | time | foreign | list => cases accepted
  · rintro ⟨entries, rfl, known, accepted⟩
    rw [record_of_known (foreignKeys_eq_nil_iff.mpr known), accepted]

theorem Refused.path_eq_nil {document : Document} {error : ConfigError}
    (refused : Refused label names [] document error) : error.path = [] := by
  cases refused <;> rfl

/-- Without foreign keys, only what has no fields is refused. -/
theorem Refused.at?_eq_none {document : Document} {error : ConfigError}
    (refused : Refused label names path document error) (shown : error.problem ≠ .unshowable)
    (known : ∀ keys, error.problem ≠ .unexpectedKeys keys) (name : String) :
    document.at? [name] = none := by
  cases refused with
  | kind other =>
      cases document with
      | map entries => exact absurd rfl (other entries)
      | null | bool | int | float | text | time | foreign | list => rfl
  | keys foreign => exact absurd rfl (known _)
  | unshowable long => exact absurd rfl shown

/-- Of a record as a whole, only a key can be too long for the report. -/
theorem Refused.exists_hidesKey {document : Document} {error : ConfigError}
    (refused : Refused label names path document error) (unshowable : error.problem = .unshowable) :
    ∃ entries, document = .map entries ∧ Document.HidesKey entries := by
  cases refused with
  | kind | keys => cases unshowable
  | unshowable long => exact ⟨_, rfl, areShowable_foreignKeys_eq_false_iff.mp long⟩

theorem steady_record
    (steady : ∀ path entries,
      body ⟨path, entries⟩ = (body ⟨[], entries⟩).mapError (ConfigError.under path)) :
    (record label names body).Steady := by
  intro path given
  cases given with
  | written document =>
      cases document with
      | map entries =>
          by_cases known : foreignKeys names entries = []
          · rw [record_of_known known, record_of_known known]
            exact steady path entries
          · rw [record_of_foreign known, record_of_foreign known]
            split
            · exact fail_eq path (by simp)
            · rfl
      | null | bool | int | float | text | time | foreign | list => exact fail_eq path (by simp)
  | symbol => exact fail_eq path (by simp)

theorem pairwise_mergeSort_le {le : String → String → Bool} (is : ∀ a b, le a b = true ↔ a ≤ b)
    (texts : List String) : (texts.mergeSort le).Pairwise (· ≤ ·) := by
  refine (List.pairwise_mergeSort ?_ ?_ texts).imp fun {a b} => (is a b).mp
  · intro a b c
    rw [is, is, is]
    exact String.le_trans
  · intro a b
    rw [Bool.or_eq_true, is, is]
    exact String.le_total a b

/-- Keys are named in an order of their own. -/
theorem sortedTexts_perm {keys others : List Document} (perm : keys.Perm others) :
    sortedTexts keys = sortedTexts others := by
  have sorted (keys : List Document) : (sortedTexts keys).Pairwise (· ≤ ·) := by
    refine pairwise_mergeSort_le ?_ _
    intro a b
    rw [Bool.not_eq_true', decide_eq_false_iff_not, String.not_lt]
  have same : (sortedTexts keys).Perm (sortedTexts others) :=
    (List.mergeSort_perm _ _).trans
      ((perm.map Document.keyText).trans (List.mergeSort_perm _ _).symm)
  exact same.eq_of_pairwise (fun _ _ _ _ => String.le_antisymm) (sorted keys) (sorted others)

/-- A record does not depend on the order of the entries, as far as its fields do not. -/
theorem record_congr (keys : (entries.map Prod.fst).Perm (others.map Prod.fst))
    (same : body ⟨path, entries⟩ = body ⟨path, others⟩) :
    record label names body path (.written (.map entries)) =
      record label names body path (.written (.map others)) := by
  have perm : (foreignKeys names entries).Perm (foreignKeys names others) := keys.filter _
  by_cases known : foreignKeys names entries = []
  · have known' : foreignKeys names others = [] := by
      rw [known] at perm
      exact perm.nil_eq.symm
    rw [record_of_known known, record_of_known known', same]
  · have foreign : foreignKeys names others ≠ [] := by
      intro none
      rw [none] at perm
      exact known perm.eq_nil
    rw [record_of_foreign known, record_of_foreign foreign, sortedTexts_perm perm,
      Document.areShowable_eq_all, Document.areShowable_eq_all, perm.all_eq]

end Records

end Reader

end Stencil
