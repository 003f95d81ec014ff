/-
# Scanning on demand

A feed scans no further than it has to. While tokens of the last batch are
pending it hands those out; only when they are used up, and another token is
asked for, does it scan up to the end of the next construct. An error is
therefore met only by whoever asks for a token beyond it.
-/

import Stencil.Scan
import Stencil.TokenSource

namespace Stencil

/-- A scan that has been carried as far as its tokens were asked for. -/
structure Feed where
  options : Options
  /-- The offset reached. -/
  position : Nat
  /-- The source from there on; `none` once the last batch is made. -/
  unread : Option (List Char)
  /-- The tokens that are ready to be handed out. -/
  pending : List Token := []

namespace Feed

/-- The feed of a whole source. -/
def ofText (options : Options) (source : String) : Feed :=
  ⟨options, 0, some source.toList, []⟩

/-- How much of the source is unread; nothing is less than an empty rest. -/
def unreadSize (feed : Feed) : Nat :=
  match feed.unread with
  | none => 0
  | some cs => cs.length + 1

/-- The next token, scanning on where none is pending. -/
def next (feed : Feed) : Except TemplateError (Option (Token × Feed)) :=
  match feed.pending with
  | token :: tokens => .ok (some (token, { feed with pending := tokens }))
  | [] =>
    match _unread : feed.unread with
    | none => .ok none
    | some cs =>
      match _step : Scan.step feed.options feed.position cs with
      | .broken error => .error error
      | .final batch => next ⟨feed.options, batch.position, none, batch.tokens⟩
      | .more batch rest => next ⟨feed.options, batch.position, some rest, batch.tokens⟩
termination_by feed.unreadSize
decreasing_by
  · simp only [unreadSize, _unread]
    exact Nat.succ_pos cs.length
  · simp only [unreadSize, _unread]
    exact Nat.succ_lt_succ (Scan.length_lt_of_step_more _step)

/-- What scanning the unread source delivers. -/
def remainder (feed : Feed) : Scan :=
  match feed.unread with
  | none => ⟨[], none⟩
  | some cs => Scan.scanFrom feed.options feed.position cs

/-- The tokens that a feed hands out when it is asked to the end. -/
def upcoming (feed : Feed) : List Token :=
  feed.pending ++ feed.remainder.tokens

/-- Asking for a token shows the first of those to come, or how the feed ends if none
are. Scanning on changes neither. -/
theorem upcoming_next (feed : Feed) :
    match feed.next with
    | .error error => feed.upcoming = [] ∧ feed.remainder.failure = some error
    | .ok none => feed.upcoming = [] ∧ feed.remainder.failure = none
    | .ok (some (token, rest)) =>
      feed.upcoming = token :: rest.upcoming ∧
        feed.remainder.failure = rest.remainder.failure := by
  fun_induction next feed with
  | case1 feed token tokens pending => simp [upcoming, remainder, pending]
  | case2 feed pending unread => simp [upcoming, remainder, pending, unread, Scan.tokens]
  | case3 feed pending cs unread error stepped =>
      simp [upcoming, remainder, pending, unread, Scan.scanFrom_of_broken stepped, Scan.fail,
        Scan.tokens]
  | case4 feed pending cs unread batch stepped ih =>
      have refilled : feed.upcoming = batch.tokens ++ [] := by
        simp [upcoming, remainder, pending, unread, Scan.scanFrom_of_final stepped, Scan.tokens]
      have ending : feed.remainder.failure = none := by
        simp [remainder, unread, Scan.scanFrom_of_final stepped]
      rw [refilled, ending]
      exact ih
  | case5 feed pending cs unread batch rest stepped ih =>
      have refilled : feed.upcoming =
          batch.tokens ++ (Scan.scanFrom feed.options batch.position rest).tokens := by
        simp [upcoming, remainder, pending, unread, Scan.scanFrom_of_more stepped]
      have ending : feed.remainder.failure =
          (Scan.scanFrom feed.options batch.position rest).failure := by
        simp [remainder, unread, Scan.scanFrom_of_more stepped]
      rw [refilled, ending]
      exact ih

instance : TokenSource Feed where
  next := next
  left feed := feed.upcoming.length
  left_lt := by
    intro source rest token h
    have handed := upcoming_next source
    rw [h] at handed
    rw [handed.1]
    exact Nat.lt_succ_self rest.upcoming.length

end Feed

end Stencil
