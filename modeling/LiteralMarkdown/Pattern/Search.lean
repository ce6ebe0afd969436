import LiteralMarkdown.Pattern.Ends

/-!
# Searching the ends of a match

`Pattern.search` finds the first end of a match that passes a test, without listing the ends behind
it. The main statement is `search_eq_findSome?`: the search finds what the list of ends has first.
-/

namespace LiteralMarkdown

namespace Cursor

/-- The first hit of a test on the ends of something repeated exactly `n` times, given how the first
hit on its own ends is found. -/
def timesSearch (search : (Cursor → Option Cursor) → Cursor → Option Cursor)
    (test : Cursor → Option Cursor) : Nat → Cursor → Option Cursor
  | 0, c => test c
  | n + 1, c => search (timesSearch search test n) c

/-- The first hit of a test on the ends of something repeated any number of times. -/
def repeatSearch (search : (Cursor → Option Cursor) → Cursor → Option Cursor) (greed : Greed)
    (test : Cursor → Option Cursor) : (fuel : List Char) → Cursor → Option Cursor
  | [], c => test c
  | _ :: fuel, c =>
    let onward (e : Cursor) : Option Cursor :=
      if c.position < e.position then repeatSearch search greed test fuel e else none
    match greed with
    | .greedy =>
      match search onward c with
      | some hit => some hit
      | none => test c
    | .lazy =>
      match test c with
      | some hit => some hit
      | none => search onward c

end Cursor

/-- The first hit of a test on the ends of a match from a cursor. -/
def Pattern.search : Pattern → (test : Cursor → Option Cursor) → Cursor → Option Cursor
  | .empty, test, c => test c
  | .chars allowed, test, c =>
    match c.step? allowed with
    | none => none
    | some e => test e
  | .seq first second, test, c => first.search (second.search test) c
  | .alt first second, test, c =>
    match first.search test c with
    | some hit => some hit
    | none => second.search test c
  | .group label body, test, c => body.search (fun e => test (c.keep label e)) c
  | .scope body, test, c => body.search test c
  | .backref label, test, c =>
    match c.overCapture? label with
    | none => none
    | some e => test e
  | .atLeast least greed body, test, c =>
    Cursor.timesSearch body.search
      (fun e => Cursor.repeatSearch body.search greed test e.rest e) least c
  | .optional body, test, c =>
    match body.search test c with
    | some hit => some hit
    | none => test c
  | .notAhead body, test, c => if (body.search some c).isNone then test c else none
  | .wordBoundary, test, c => if c.atWordBoundary then test c else none
  | .start, test, c => if c.position = 0 then test c else none

/-! ## The search finds what the list has first -/

/-- A first hit in lists that stand for the members of a list is found member by member. -/
theorem findSome?_flatMap {α β γ : Type} (f : α → List β) (test : β → Option γ) (as : List α) :
    (as.flatMap f).findSome? test = as.findSome? fun a => (f a).findSome? test := by
  induction as with
  | nil => rfl
  | cons a as ih =>
    rw [List.flatMap_cons, List.findSome?_append, ih, List.findSome?_cons]
    cases (f a).findSome? test <;> rfl

/-- A first hit among the members that pass a condition is a first hit of the test that asks for the
condition first. -/
theorem findSome?_filter {α γ : Type} (condition : α → Bool) (test : α → Option γ) (as : List α) :
    (as.filter condition).findSome? test =
      as.findSome? fun a => if condition a then test a else none := by
  induction as with
  | nil => rfl
  | cons a as ih => cases h : condition a <;> simp [List.findSome?_cons, h, ih]

theorem Cursor.timesSearch_eq {search : (Cursor → Option Cursor) → Cursor → Option Cursor}
    {ends : Cursor → List Cursor} (h : ∀ test c, search test c = (ends c).findSome? test)
    (test : Cursor → Option Cursor) (n : Nat) (c : Cursor) :
    timesSearch search test n c = (timesEnds ends n c).findSome? test := by
  induction n generalizing c with
  | zero => simp [timesSearch, timesEnds]
  | succ n ih =>
    have hn : timesSearch search test n = fun e => (timesEnds ends n e).findSome? test := funext ih
    simp only [timesSearch, timesEnds, h, hn, findSome?_flatMap]

theorem Cursor.repeatSearch_eq {search : (Cursor → Option Cursor) → Cursor → Option Cursor}
    {ends : Cursor → List Cursor} (h : ∀ test c, search test c = (ends c).findSome? test)
    (greed : Greed) (test : Cursor → Option Cursor) (fuel : List Char) (c : Cursor) :
    repeatSearch search greed test fuel c = (repeatEnds ends greed fuel c).findSome? test := by
  induction fuel generalizing c with
  | nil => simp [repeatSearch, repeatEnds]
  | cons x fuel ih =>
    have hon : search (fun e =>
        if c.position < e.position then repeatSearch search greed test fuel e else none) c =
          (((ends c).filter fun e => c.position < e.position).flatMap
            (repeatEnds ends greed fuel)).findSome? test := by
      rw [h, findSome?_flatMap, findSome?_filter]
      congr 1
      funext e
      simp [ih]
    cases greed with
    | greedy =>
      simp only [repeatSearch, repeatEnds, hon, List.findSome?_append]
      cases List.findSome? test _ <;> simp
    | lazy =>
      simp only [repeatSearch, repeatEnds, hon, List.findSome?_cons]
      cases test c <;> rfl

/-- The search finds the first hit of the test in the list of ends. -/
theorem Pattern.search_eq_findSome? (p : Pattern) (test : Cursor → Option Cursor) (c : Cursor) :
    p.search test c = (p.ends c).findSome? test := by
  induction p generalizing test c with
  | empty => simp [search, ends]
  | chars allowed => cases h : c.step? allowed <;> simp [search, ends, h]
  | seq first second hf hs =>
    have : second.search test = fun e => (second.ends e).findSome? test := funext (hs test)
    simp only [search, ends, hf, this, findSome?_flatMap]
  | alt first second hf hs =>
    simp only [search, ends, hf, hs, List.findSome?_append]
    cases List.findSome? test (first.ends c) <;> simp
  | group label body hb => simp [search, ends, hb, List.findSome?_map, Function.comp_def]
  | scope body hb => simp [search, ends, hb]
  | backref label => cases h : c.overCapture? label <;> simp [search, ends, h]
  | atLeast least greed body hb =>
    simp only [search, ends, Cursor.timesSearch_eq hb, findSome?_flatMap]
    congr 1
    funext e
    exact Cursor.repeatSearch_eq hb greed test _ e
  | optional body hb =>
    simp only [search, ends, hb, List.findSome?_append]
    cases List.findSome? test (body.ends c) <;> simp
  | notAhead body hb =>
    simp only [search, ends, hb]
    cases body.ends c <;> simp
  | wordBoundary => simp only [search, ends]; split <;> simp
  | start => simp only [search, ends]; split <;> simp

end LiteralMarkdown
