/-
SqlNotebook/Text/Quote.lean

Quoted regions.  Outside a region a single or a double quote opens one, and the
same character closes it again; the other kind of quote is an ordinary
character in between.
-/

namespace SqlNotebook

/-- Whether a character opens a quoted region. -/
def isQuote (c : Char) : Bool :=
  c = '\'' || c = '"'

/-- Where a scan for quoted regions stands: outside of all of them, or inside
the one that the given character has opened and will close. -/
abbrev QuoteState := Option Char

namespace QuoteState

/-- The state behind the character `c`. -/
def next : QuoteState → Char → QuoteState
  | none, c => if isQuote c then some c else none
  | some quote, c => if c = quote then none else some quote

/-- The state behind a text. -/
def after (state : QuoteState) (s : List Char) : QuoteState :=
  s.foldl next state

@[simp] theorem after_nil (state : QuoteState) : state.after [] = state := rfl

@[simp] theorem after_cons (state : QuoteState) (c : Char) (s : List Char) :
    state.after (c :: s) = (state.next c).after s := rfl

theorem after_append (state : QuoteState) (s t : List Char) :
    state.after (s ++ t) = (state.after s).after t :=
  List.foldl_append

/-- Inside of a region, only the quote that has opened it matters. -/
theorem after_inside {quote : Char} {s : List Char} (h : quote ∉ s) :
    after (some quote) s = some quote := by
  induction s with
  | nil => rfl
  | cons c s ih =>
    rw [List.mem_cons, not_or] at h
    rw [after_cons, next, if_neg fun hc => h.1 hc.symm]
    exact ih h.2

/-- Behind a region that is closed, the scan is outside of quotes again. -/
theorem after_region {quote : Char} {inside : List Char} (hquote : isQuote quote)
    (hinside : quote ∉ inside) (s : List Char) :
    after none (quote :: (inside ++ quote :: s)) = after none s := by
  rw [after_cons, next, if_pos hquote, after_append, after_inside hinside, after_cons, next,
    if_pos rfl]

end QuoteState

end SqlNotebook
