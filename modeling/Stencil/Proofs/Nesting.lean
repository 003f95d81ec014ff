/-
# Openings and closings that belong together

In a list of roles an opening and a closing belong together if what stands between
them is nested. This is said of the list as a whole and of places in it, without a
stack; the stack of a reader that goes from left to right is then shown to hold the
openings that have no closing yet.

Pairs are told apart by levels: the level at a place is the number of openings less
the number of closings before it. Between the two ends of a pair the level is never
below the level right after the opening, and all the lemmas on two pairs in one list
are arithmetic from there.
-/

import Mathlib.Data.Set.Card
import Stencil.Shape

namespace Stencil

/-- Roles in which every opening has its closing, and the other way round. -/
inductive Nested : List Role → Prop
  | nil : Nested []
  | plain {role : Role} {rest : List Role} (notOpens : role ≠ .opens) (notCloses : role ≠ .closes)
      (further : Nested rest) : Nested (role :: rest)
  | pair {inner rest : List Role} (inside : Nested inner) (further : Nested rest) :
      Nested (.opens :: (inner ++ .closes :: rest))

/-- The places of an opening and a closing that belong together. -/
def Pairs (roles : List Role) (first last : Nat) : Prop :=
  ∃ before inner after : List Role, roles = before ++ .opens :: (inner ++ .closes :: after) ∧
    Nested inner ∧ first = before.length ∧ last = before.length + inner.length + 1

/-- The pairs with a place strictly between their ends. -/
def around (roles : List Role) (place : Nat) : Set (Nat × Nat) :=
  {ends | Pairs roles ends.1 ends.2 ∧ ends.1 < place ∧ place < ends.2}

/-- The place of an opening without a closing. -/
def Unclosed (roles : List Role) (place : Nat) : Prop :=
  roles[place]? = some .opens ∧ ∀ last, ¬ Pairs roles place last

/-- The place of the last opening without a closing. -/
def Innermost (roles : List Role) (place : Nat) : Prop :=
  Unclosed roles place ∧ ∀ other, Unclosed roles other → other ≤ place

theorem Innermost.unique {roles : List Role} {place other : Nat} (innermost : Innermost roles place)
    (innermost' : Innermost roles other) : place = other :=
  Nat.le_antisymm (innermost'.2 place innermost.1) (innermost.2 other innermost'.1)

namespace Nested

theorem append {roles more : List Role} (nested : Nested roles) (further : Nested more) :
    Nested (roles ++ more) := by
  induction nested with
  | nil => exact further
  | plain notOpens notCloses _ ih => exact .plain notOpens notCloses ih
  | pair inside _ _ ih =>
      have extended := pair inside ih
      simpa only [List.cons_append, List.append_assoc] using extended

theorem singleton {role : Role} (notOpens : role ≠ .opens) (notCloses : role ≠ .closes) :
    Nested [role] :=
  .plain notOpens notCloses .nil

/-- Nested roles between an opening and a closing are nested with them. -/
theorem enclose {inner : List Role} (nested : Nested inner) :
    Nested (.opens :: (inner ++ [.closes])) :=
  .pair nested .nil

end Nested

section Levels

/-- By how much a role changes the level. -/
def Role.rise : Role → Int
  | .opens => 1
  | .closes => -1
  | .continues | .statement => 0

@[simp] theorem Role.rise_opens : Role.rise .opens = 1 := rfl

@[simp] theorem Role.rise_closes : Role.rise .closes = -1 := rfl

theorem Role.rise_plain {role : Role} (notOpens : role ≠ .opens) (notCloses : role ≠ .closes) :
    role.rise = 0 := by
  cases role <;> first | rfl | contradiction

/-- The openings less the closings before a place. -/
def level (roles : List Role) (place : Nat) : Int :=
  ((roles.take place).map Role.rise).sum

@[simp] theorem level_zero (roles : List Role) : level roles 0 = 0 := rfl

@[simp] theorem level_nil (place : Nat) : level [] place = 0 := by
  simp [level]

@[simp] theorem level_cons_succ (role : Role) (rest : List Role) (place : Nat) :
    level (role :: rest) (place + 1) = role.rise + level rest place := by
  simp [level]

theorem level_append_of_le {roles : List Role} {place : Nat} (inside : place ≤ roles.length)
    (more : List Role) : level (roles ++ more) place = level roles place := by
  rw [level, List.take_append_of_le_length inside, level]

theorem level_append_add (roles more : List Role) (place : Nat) :
    level (roles ++ more) (roles.length + place) =
      level roles roles.length + level more place := by
  rw [level, List.take_length_add_append, List.map_append, List.sum_append, level, level,
    List.take_length]

variable {roles : List Role}

theorem Nested.level_length (nested : Nested roles) : level roles roles.length = 0 := by
  induction nested with
  | nil => rfl
  | plain notOpens notCloses _ ih =>
      rw [List.length_cons, level_cons_succ, Role.rise_plain notOpens notCloses, ih]
      rfl
  | @pair inner rest _ _ ihInside ih =>
      rw [List.length_cons, level_cons_succ, List.length_append, level_append_add, ihInside,
        List.length_cons, level_cons_succ, ih]
      rfl

/-- Nested roles never go below the level they start at. -/
theorem Nested.level_nonneg (nested : Nested roles) (place : Nat) : 0 ≤ level roles place := by
  induction nested generalizing place with
  | nil => simp
  | plain notOpens notCloses _ ih =>
      cases place with
      | zero => simp
      | succ place =>
          rw [level_cons_succ, Role.rise_plain notOpens notCloses]
          have := ih place
          omega
  | @pair inner rest inside _ ihInside ih =>
      cases place with
      | zero => simp
      | succ place =>
          rw [level_cons_succ, Role.rise_opens]
          by_cases within : place ≤ inner.length
          · rw [level_append_of_le within]
            have := ihInside place
            omega
          · -- The place is after the closing, which takes back what the opening added.
            obtain ⟨beyond, rfl⟩ : ∃ beyond, place = inner.length + (beyond + 1) :=
              ⟨place - inner.length - 1, by omega⟩
            rw [level_append_add, inside.level_length, level_cons_succ, Role.rise_closes]
            have := ih beyond
            omega

end Levels

namespace Pairs

variable {roles : List Role} {first last : Nat}

theorem lt (pairs : Pairs roles first last) : first < last := by
  obtain ⟨before, inner, after, -, -, rfl, rfl⟩ := pairs
  omega

theorem getElem?_first (pairs : Pairs roles first last) : roles[first]? = some .opens := by
  obtain ⟨before, inner, after, rfl, -, rfl, -⟩ := pairs
  simp

theorem getElem?_last (pairs : Pairs roles first last) : roles[last]? = some .closes := by
  obtain ⟨before, inner, after, rfl, -, -, rfl⟩ := pairs
  rw [List.getElem?_append_right (by omega),
    show before.length + inner.length + 1 - before.length = inner.length + 1 by omega,
    List.getElem?_cons_succ, List.getElem?_append_right (Nat.le_refl _), Nat.sub_self]
  rfl

theorem last_lt (pairs : Pairs roles first last) : last < roles.length :=
  (List.getElem?_eq_some_iff.mp pairs.getElem?_last).1

/-- A pair is a matter of the roles up to its closing. -/
theorem append (pairs : Pairs roles first last) (more : List Role) :
    Pairs (roles ++ more) first last := by
  obtain ⟨before, inner, after, rfl, nested, hfirst, hlast⟩ := pairs
  exact ⟨before, inner, after ++ more, by simp, nested, hfirst, hlast⟩

theorem of_append {more : List Role} (pairs : Pairs (roles ++ more) first last)
    (inside : last < roles.length) : Pairs roles first last := by
  obtain ⟨before, inner, after, split, nested, hfirst, hlast⟩ := pairs
  -- Both the pair and what is before it, and the roles, are initial parts of one list.
  have whole : before ++ .opens :: (inner ++ [.closes]) <+: roles ++ more :=
    ⟨after, by simp [split]⟩
  have shorter : (before ++ Role.opens :: (inner ++ [.closes])).length ≤ roles.length := by
    simp only [List.length_append, List.length_cons, List.length_nil]
    omega
  obtain ⟨rest, rfl⟩ :=
    List.prefix_of_prefix_length_le whole (List.prefix_append roles more) shorter
  exact ⟨before, inner, rest, by simp, nested, hfirst, hlast⟩

/-- The pairs before a place are those with both ends before it. -/
theorem take_iff {place : Nat} :
    Pairs (roles.take place) first last ↔ Pairs roles first last ∧ last < place := by
  have split : roles.take place ++ roles.drop place = roles := List.take_append_drop place roles
  constructor
  · intro pairs
    have within := pairs.last_lt
    rw [List.length_take] at within
    have extended := pairs.append (roles.drop place)
    rw [split] at extended
    exact ⟨extended, by omega⟩
  · rintro ⟨pairs, before⟩
    have within := pairs.last_lt
    rw [← split] at pairs
    exact pairs.of_append (by rw [List.length_take]; omega)

/-- A pair stays a pair when roles are put in front. -/
theorem prepend (pairs : Pairs roles first last) (front : List Role) :
    Pairs (front ++ roles) (front.length + first) (front.length + last) := by
  obtain ⟨before, inner, after, rfl, nested, rfl, rfl⟩ := pairs
  refine ⟨front ++ before, inner, after, by simp, nested, by simp, ?_⟩
  rw [List.length_append]
  omega

/-- The levels at the ends of a pair, and between them. -/
theorem levels (pairs : Pairs roles first last) :
    level roles (first + 1) = level roles first + 1 ∧
      level roles last = level roles (first + 1) ∧
      level roles (last + 1) = level roles first ∧
      ∀ place, first < place → place ≤ last → level roles (first + 1) ≤ level roles place := by
  obtain ⟨before, inner, after, rfl, nested, rfl, rfl⟩ := pairs
  -- All places are measured from the opening on.
  have start : level (before ++ .opens :: (inner ++ .closes :: after)) before.length =
      level before before.length := level_append_of_le (Nat.le_refl _) _
  have within : ∀ offset, offset ≤ inner.length →
      level (before ++ .opens :: (inner ++ .closes :: after)) (before.length + (offset + 1)) =
        level before before.length + (1 + level inner offset) := by
    intro offset inside
    rw [level_append_add, level_cons_succ, Role.rise_opens, level_append_of_le inside]
  have beyond : level (before ++ .opens :: (inner ++ .closes :: after))
      (before.length + (inner.length + 1 + 1)) =
        level before before.length + (1 + (0 + (-1 + 0))) := by
    rw [level_append_add, level_cons_succ, Role.rise_opens, level_append_add,
      nested.level_length, level_cons_succ, Role.rise_closes, level_zero]
  have first' := within 0 (Nat.zero_le _)
  have last' := within inner.length (Nat.le_refl _)
  rw [level_zero, Nat.zero_add] at first'
  rw [nested.level_length, ← Nat.add_assoc] at last'
  rw [← Nat.add_assoc, ← Nat.add_assoc] at beyond
  refine ⟨by omega, by omega, by omega, ?_⟩
  intro place after' until'
  obtain ⟨offset, rfl⟩ : ∃ offset, place = before.length + (offset + 1) :=
    ⟨place - before.length - 1, by omega⟩
  have here := within offset (by omega)
  have above := nested.level_nonneg offset
  omega

/-- An opening has one closing. -/
theorem last_unique {other : Nat} (pairs : Pairs roles first last)
    (pairs' : Pairs roles first other) : last = other := by
  obtain ⟨rise, level_last, level_after, above⟩ := pairs.levels
  obtain ⟨rise', level_last', level_after', above'⟩ := pairs'.levels
  have lt := pairs.lt
  have lt' := pairs'.lt
  rcases Nat.lt_trichotomy last other with earlier | same | later
  · have := above' (last + 1) (by omega) (by omega)
    omega
  · exact same
  · have := above (other + 1) (by omega) (by omega)
    omega

/-- The pairs of a list do not cross: of two, one is inside the other or they are
apart. -/
theorem apart_or_inside {first' last' : Nat} (pairs : Pairs roles first last)
    (pairs' : Pairs roles first' last') (order : first < first') :
    last < first' ∨ last' < last := by
  obtain ⟨rise, level_last, level_after, above⟩ := pairs.levels
  obtain ⟨rise', level_last', level_after', above'⟩ := pairs'.levels
  by_cases apart : last < first'
  · exact .inl apart
  · have start := above first' order (by omega)
    have lt' := pairs'.lt
    refine .inr (Nat.lt_of_not_le ?_)
    intro crosses
    have distinct : first' ≠ last := by
      intro same
      have opening := pairs'.getElem?_first
      rw [same, pairs.getElem?_last] at opening
      cases opening
    have := above' last (by omega) crosses
    omega

/-- A closing has one opening. -/
theorem first_unique {other : Nat} (pairs : Pairs roles first last)
    (pairs' : Pairs roles other last) : first = other := by
  have lt := pairs.lt
  have lt' := pairs'.lt
  rcases Nat.lt_trichotomy first other with earlier | same | later
  · have := pairs.apart_or_inside pairs' earlier
    omega
  · exact same
  · have := pairs'.apart_or_inside pairs later
    omega

end Pairs

/-- Every closing is the end of a pair, and every opening is the start of one but for
those at the given places. -/
structure Accounted (roles : List Role) (places : List Nat) : Prop where
  closing : ∀ last, roles[last]? = some .closes → ∃ first, Pairs roles first last
  opening : ∀ first, roles[first]? = some .opens →
    first ∈ places ∨ ∃ last, Pairs roles first last

namespace Accounted

theorem nil : Accounted [] [] :=
  ⟨by simp, by simp⟩

theorem opens : Accounted [.opens] [0] :=
  ⟨by simp [List.getElem?_singleton], by simp [List.getElem?_singleton]⟩

theorem plain {role : Role} (notOpens : role ≠ .opens) (notCloses : role ≠ .closes) :
    Accounted [role] [] :=
  ⟨by simp [List.getElem?_singleton, notCloses], by simp [List.getElem?_singleton, notOpens]⟩

theorem append {roles more : List Role} {places others : List Nat}
    (accounted : Accounted roles places) (further : Accounted more others) :
    Accounted (roles ++ more) (places ++ others.map (roles.length + ·)) := by
  constructor
  · intro last is
    rcases Nat.lt_or_ge last roles.length with within | beyond
    · rw [List.getElem?_append_left within] at is
      obtain ⟨first, pairs⟩ := accounted.closing last is
      exact ⟨first, pairs.append more⟩
    · obtain ⟨offset, rfl⟩ := Nat.exists_eq_add_of_le beyond
      rw [List.getElem?_append_right beyond, Nat.add_sub_cancel_left] at is
      obtain ⟨first, pairs⟩ := further.closing offset is
      exact ⟨roles.length + first, pairs.prepend roles⟩
  · intro first is
    rcases Nat.lt_or_ge first roles.length with within | beyond
    · rw [List.getElem?_append_left within] at is
      rcases accounted.opening first is with listed | ⟨last, pairs⟩
      · exact .inl (List.mem_append_left _ listed)
      · exact .inr ⟨last, pairs.append more⟩
    · obtain ⟨offset, rfl⟩ := Nat.exists_eq_add_of_le beyond
      rw [List.getElem?_append_right beyond, Nat.add_sub_cancel_left] at is
      rcases further.opening offset is with listed | ⟨last, pairs⟩
      · exact .inl (List.mem_append_right _ (List.mem_map.mpr ⟨offset, listed, rfl⟩))
      · exact .inr ⟨roles.length + last, pairs.prepend roles⟩

/-- Where nothing is left open inside, a pair around it accounts for its own ends. -/
theorem enclose {inner : List Role} (nested : Nested inner) (accounted : Accounted inner []) :
    Accounted (.opens :: (inner ++ [.closes])) [] := by
  have around : Pairs (.opens :: (inner ++ [.closes])) 0 (inner.length + 1) :=
    ⟨[], inner, [], rfl, nested, rfl, by simp⟩
  have inside {first last : Nat} (pairs : Pairs inner first last) :
      Pairs (.opens :: (inner ++ [.closes])) (1 + first) (1 + last) :=
    (pairs.append [.closes]).prepend [.opens]
  constructor
  · intro last is
    cases last with
    | zero => cases is
    | succ offset =>
        rw [List.getElem?_cons_succ] at is
        rcases Nat.lt_or_ge offset inner.length with within | beyond
        · rw [List.getElem?_append_left within] at is
          obtain ⟨first, pairs⟩ := accounted.closing offset is
          exact ⟨1 + first, Nat.add_comm 1 offset ▸ inside pairs⟩
        · have bound := (List.getElem?_eq_some_iff.mp is).1
          rw [List.length_append, List.length_singleton] at bound
          obtain rfl : offset = inner.length := by omega
          exact ⟨0, around⟩
  · intro first is
    cases first with
    | zero => exact .inr ⟨_, around⟩
    | succ offset =>
        rw [List.getElem?_cons_succ] at is
        rcases Nat.lt_or_ge offset inner.length with within | beyond
        · rw [List.getElem?_append_left within] at is
          rcases accounted.opening offset is with listed | ⟨last, pairs⟩
          · cases listed
          · exact .inr ⟨1 + last, Nat.add_comm 1 offset ▸ inside pairs⟩
        · rw [List.getElem?_append_right beyond, List.getElem?_singleton] at is
          split at is <;> cases is

end Accounted

/-- In nested roles every opening and every closing is the end of a pair. -/
theorem Nested.accounted {roles : List Role} (nested : Nested roles) : Accounted roles [] := by
  induction nested with
  | nil => exact .nil
  | plain notOpens notCloses _ ih => exact (Accounted.plain notOpens notCloses).append ih
  | pair inside _ ihInside ih =>
      have joined := (Accounted.enclose inside ihInside).append ih
      simpa only [List.cons_append, List.append_assoc, List.nil_append, List.map_nil,
        List.append_nil] using joined

/-- Roles that are nested but for openings at the given places, which have no closing
yet. -/
inductive Opened : List Role → List Nat → Prop
  | closed {roles : List Role} (nested : Nested roles) : Opened roles []
  | opens {roles inner : List Role} {places : List Nat} (outer : Opened roles places)
      (nested : Nested inner) : Opened (roles ++ .opens :: inner) (places ++ [roles.length])

namespace Opened

variable {roles : List Role} {places : List Nat}

/-- Nested roles that follow change nothing. -/
theorem append_nested {more : List Role} (opened : Opened roles places) (nested : Nested more) :
    Opened (roles ++ more) places := by
  cases opened with
  | closed before => exact .closed (before.append nested)
  | opens outer inside =>
      rw [List.append_assoc, List.cons_append]
      exact .opens outer (inside.append nested)

theorem append_opens (opened : Opened roles places) :
    Opened (roles ++ [.opens]) (places ++ [roles.length]) :=
  .opens opened .nil

theorem append_plain {role : Role} (opened : Opened roles places) (notOpens : role ≠ .opens)
    (notCloses : role ≠ .closes) : Opened (roles ++ [role]) places :=
  opened.append_nested (.singleton notOpens notCloses)

/-- The last opening without a closing, if there is one: what is before it, and the
nested roles after it. -/
theorem exists_outer {place : Nat} (opened : Opened roles (places ++ [place])) :
    ∃ before inner, roles = before ++ .opens :: inner ∧ Nested inner ∧ place = before.length ∧
      Opened before places := by
  generalize listed : places ++ [place] = all at opened
  cases opened with
  | closed _ => simp at listed
  | opens outer nested =>
      obtain ⟨rfl, same⟩ := List.append_inj' listed rfl
      exact ⟨_, _, rfl, nested, List.singleton_inj.mp same, outer⟩

/-- A closing belongs to the last opening without one. -/
theorem pairs_closes {place : Nat} (opened : Opened roles (places ++ [place])) :
    Pairs (roles ++ [.closes]) place roles.length := by
  obtain ⟨before, inner, rfl, nested, rfl, -⟩ := opened.exists_outer
  refine ⟨before, inner, [], by simp, nested, rfl, ?_⟩
  rw [List.length_append, List.length_cons, Nat.add_assoc]

theorem pairs_of_take {place last : Nat} (opened : Opened (roles.take last) (places ++ [place]))
    (is : roles[last]? = some .closes) : Pairs roles place last := by
  have pairs := opened.pairs_closes
  have within := (List.getElem?_eq_some_iff.mp is).1
  have extended : roles.take last ++ [.closes] = roles.take (last + 1) := by
    rw [List.take_add_one, is]
    rfl
  rw [extended, List.length_take, Nat.min_eq_left (Nat.le_of_lt within)] at pairs
  exact (Pairs.take_iff.mp pairs).1

theorem append_closes {place : Nat} (opened : Opened roles (places ++ [place])) :
    Opened (roles ++ [.closes]) places := by
  obtain ⟨before, inner, rfl, nested, -, outer⟩ := opened.exists_outer
  rw [List.append_assoc, List.cons_append]
  exact outer.append_nested nested.enclose

theorem accounted (opened : Opened roles places) : Accounted roles places := by
  induction opened with
  | closed nested => exact nested.accounted
  | opens _ nested ih => exact ih.append (Accounted.opens.append nested.accounted)

/-- From an opening without a closing on, the level stays above the one before it. -/
theorem level_lt {place : Nat} (opened : Opened roles places) (listed : place ∈ places) :
    roles[place]? = some .opens ∧
      ∀ later, place < later → level roles place < level roles later := by
  induction opened with
  | closed _ => cases listed
  | @opens roles inner places _ nested ih =>
      -- Behind the last opening nothing falls below the level it has raised.
      have beyond : ∀ later, roles.length < later →
          level roles roles.length < level (roles ++ .opens :: inner) later := by
        intro later after
        obtain ⟨offset, rfl⟩ : ∃ offset, later = roles.length + (offset + 1) :=
          ⟨later - roles.length - 1, by omega⟩
        rw [level_append_add, level_cons_succ, Role.rise_opens]
        have := nested.level_nonneg offset
        omega
      rcases List.mem_append.mp listed with listed | listed
      · obtain ⟨is, above⟩ := ih listed
        have within := (List.getElem?_eq_some_iff.mp is).1
        refine ⟨by rw [List.getElem?_append_left within, is], ?_⟩
        intro later after
        rw [level_append_of_le (Nat.le_of_lt within)]
        by_cases inside : later ≤ roles.length
        · rw [level_append_of_le inside]
          exact above later after
        · have := above roles.length within
          have := beyond later (by omega)
          omega
      · obtain rfl := List.mem_singleton.mp listed
        refine ⟨by simp, ?_⟩
        intro later after
        rw [level_append_of_le (Nat.le_refl _)]
        exact beyond later after

theorem lt_length {place : Nat} (opened : Opened roles places) (listed : place ∈ places) :
    place < roles.length :=
  (List.getElem?_eq_some_iff.mp (opened.level_lt listed).1).1

/-- The places are those of the openings without a closing, and no others. -/
theorem mem_iff (opened : Opened roles places) (place : Nat) :
    place ∈ places ↔ Unclosed roles place := by
  constructor
  · intro listed
    obtain ⟨is, above⟩ := opened.level_lt listed
    refine ⟨is, ?_⟩
    intro last pairs
    -- A closing would bring the level back to where it was before the opening.
    obtain ⟨-, -, level_after, -⟩ := pairs.levels
    have lt := pairs.lt
    have := above (last + 1) (by omega)
    omega
  · rintro ⟨is, unpaired⟩
    rcases opened.accounted.opening place is with listed | ⟨last, pairs⟩
    · exact listed
    · exact absurd pairs (unpaired last)

/-- The places stand in the order of the list. -/
theorem pairwise (opened : Opened roles places) : places.Pairwise (· < ·) := by
  induction opened with
  | closed _ => exact .nil
  | opens outer _ ih =>
      refine List.pairwise_append.mpr ⟨ih, List.pairwise_singleton .., ?_⟩
      intro place listed other last
      obtain rfl := List.mem_singleton.mp last
      exact outer.lt_length listed

theorem innermost {place : Nat} (opened : Opened roles (places ++ [place])) :
    Innermost roles place := by
  refine ⟨(opened.mem_iff place).mp (by simp), ?_⟩
  intro other unclosed
  rcases List.mem_append.mp ((opened.mem_iff other).mpr unclosed) with earlier | same
  · exact Nat.le_of_lt ((List.pairwise_append.mp opened.pairwise).2.2 other earlier place (by simp))
  · exact Nat.le_of_eq (List.mem_singleton.mp same)

/-- Where everything is closed at last, the openings without a closing before a place are
those of the pairs around it. -/
theorem mem_iff_around {place : Nat} (opened : Opened (roles.take place) places)
    (all : Accounted roles []) (notCloses : roles[place]? ≠ some .closes) (first : Nat) :
    first ∈ places ↔ ∃ last, (first, last) ∈ around roles place := by
  constructor
  · intro listed
    obtain ⟨is, unpaired⟩ := (opened.mem_iff first).mp listed
    have before : first < place := by
      have := opened.lt_length listed
      rw [List.length_take] at this
      omega
    rw [List.getElem?_take_of_lt before] at is
    obtain ⟨last, pairs⟩ := (all.opening first is).resolve_left (by simp)
    refine ⟨last, pairs, before, ?_⟩
    -- The closing is neither before the place nor at it.
    rcases Nat.lt_trichotomy last place with earlier | rfl | later
    · exact absurd (Pairs.take_iff.mpr ⟨pairs, earlier⟩) (unpaired last)
    · exact absurd pairs.getElem?_last notCloses
    · exact later
  · rintro ⟨last, pairs, before, after⟩
    refine (opened.mem_iff first).mpr ⟨?_, ?_⟩
    · rw [List.getElem?_take_of_lt before]
      exact pairs.getElem?_first
    · intro last' pairs'
      obtain ⟨pairs', earlier⟩ := Pairs.take_iff.mp pairs'
      have := pairs.last_unique pairs'
      omega

/-- A place lies inside as many pairs as there are openings without a closing before
it. -/
theorem ncard_around {place : Nat} (opened : Opened (roles.take place) places)
    (all : Accounted roles []) (notCloses : roles[place]? ≠ some .closes) :
    (around roles place).ncard = places.length := by
  have distinct : Set.InjOn Prod.fst (around roles place) := by
    rintro ⟨first, last⟩ ⟨pairs, -, -⟩ ⟨first', last'⟩ ⟨pairs', -, -⟩ (rfl : first = first')
    exact congrArg (Prod.mk first) (pairs.last_unique pairs')
  have starts : Prod.fst '' around roles place = (places.toFinset : Set Nat) := by
    ext first
    simp only [Set.mem_image, Prod.exists, exists_and_right, exists_eq_right, List.coe_toFinset,
      Set.mem_ofPred_eq]
    exact (opened.mem_iff_around all notCloses first).symm
  have nodup : places.Nodup := opened.pairwise.imp Nat.ne_of_lt
  rw [← distinct.ncard_image, starts, Set.ncard_coe_finset,
    List.toFinset_card_of_nodup nodup]

/-- The last opening without a closing before a place is that of the innermost pair
around it. -/
theorem exists_innermost {place first : Nat}
    (opened : Opened (roles.take place) (places ++ [first])) (all : Accounted roles [])
    (notCloses : roles[place]? ≠ some .closes) :
    ∃ last, (first, last) ∈ around roles place ∧
      ∀ ends ∈ around roles place, ends.1 ≤ first ∧ last ≤ ends.2 := by
  obtain ⟨last, inside⟩ := (opened.mem_iff_around all notCloses first).mp (by simp)
  refine ⟨last, inside, ?_⟩
  rintro ⟨first', last'⟩ inside'
  have listed := (opened.mem_iff_around all notCloses first').mpr ⟨last', inside'⟩
  obtain ⟨pairs, before, after⟩ := inside
  obtain ⟨pairs', before', after'⟩ := inside'
  have atMost := opened.innermost.2 first' ((opened.mem_iff first').mp listed)
  refine ⟨atMost, ?_⟩
  rcases Nat.lt_or_eq_of_le atMost with order | rfl
  · have := pairs'.apart_or_inside pairs order
    omega
  · exact Nat.le_of_eq (pairs.last_unique pairs')

end Opened

end Stencil
