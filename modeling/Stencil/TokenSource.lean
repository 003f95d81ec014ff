/-
# Sources of tokens

A parser does not need to know where its tokens come from. It asks for one token
at a time, and the source hands one out, has no more, or breaks off with an error
of the template. Every source is finite: each token handed out leaves fewer to
come, which is what lets a parser over any source terminate.
-/

import Stencil.TemplateError
import Stencil.Token

namespace Stencil

/-- What hands out tokens one at a time. -/
class TokenSource (σ : Type) where
  /-- The next token and the source after it; `none` after the last token. -/
  next : σ → Except TemplateError (Option (Token × σ))
  /-- A bound on the number of tokens to come. -/
  left : σ → Nat
  left_lt : ∀ {source rest : σ} {token : Token},
    next source = .ok (some (token, rest)) → left rest < left source

namespace TokenSource

/-- The next token of a list. -/
def nextOfList : List Token → Except TemplateError (Option (Token × List Token))
  | [] => .ok none
  | token :: rest => .ok (some (token, rest))

/-- A list hands out its tokens from the front, and never breaks off. -/
instance : TokenSource (List Token) where
  next := nextOfList
  left := List.length
  left_lt := by
    intro source rest token h
    cases source with
    | nil => simp [nextOfList] at h
    | cons first others =>
        simp only [nextOfList, Except.ok.injEq, Option.some.injEq, Prod.mk.injEq] at h
        rw [← h.2]
        exact Nat.lt_succ_self others.length

end TokenSource

end Stencil
