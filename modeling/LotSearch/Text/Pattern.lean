import LotSearch.Text.Blank
import LotSearch.Text.Digit
import LotSearch.Text.Word

/-!
# Patterns in text

A pattern is a small expression over characters with an order of preference: of two branches
the first is tried first, and a repetition takes as much as it can.  A search finds the
leftmost place where the pattern fits and, at that place, the most preferred fit, together with
the parts of the text that its groups cover.
-/

namespace LotSearch

/-- A part of a text: where it begins, the text from there on, and how many of its characters
the part covers. -/
structure Span where
  start : Nat
  onward : Text
  length : Nat
deriving Repr, DecidableEq, Inhabited

namespace Span

def text (s : Span) : Text := s.onward.take s.length

/-- The position behind the last character of a span. -/
def stop (s : Span) : Nat := s.start + s.length

end Span

/-- A place between two characters of a text, with the groups that were covered on the way
there, the latest first. -/
structure Place where
  previous : Option Char
  position : Nat
  rest : Text
  groups : List (Nat × Span)

/-- The place behind the next character. -/
def Place.advance (c : Char) (rest : Text) (s : Place) : Place :=
  ⟨some c, s.position + 1, rest, s.groups⟩

inductive Pattern where
  /-- Fits everywhere and covers nothing. -/
  | empty
  /-- One character of a class. -/
  | one (accepts : Char → Bool)
  /-- One pattern and then another. -/
  | seq (first second : Pattern)
  /-- The first pattern if it leads to a fit, else the second. -/
  | either (first second : Pattern)
  /-- As many characters of a class as lead to a fit. -/
  | many (accepts : Char → Bool)
  /-- A pattern whose covered part is remembered under a number. -/
  | group (number : Nat) (body : Pattern)
  /-- A word boundary. -/
  | edge
  /-- A place that is not between two characters of a class. -/
  | outside (accepts : Char → Bool)

namespace Pattern

/-- The fit that `next` finds behind the greatest number of characters of a class. -/
def fitMany (accepts : Char → Bool) (next : Place → Option Place) (groups : List (Nat × Span)) :
    Option Char → Nat → Text → Option Place
  | previous, position, [] => next ⟨previous, position, [], groups⟩
  | previous, position, c :: rest =>
      match if accepts c then fitMany accepts next groups (some c) (position + 1) rest
        else none with
      | some found => some found
      | none => next ⟨previous, position, c :: rest, groups⟩

/-- The most preferred fit of a pattern at a place from which `next` goes on. -/
def fit : Pattern → (Place → Option Place) → Place → Option Place
  | empty, next, s => next s
  | one accepts, next, s =>
      match s.rest with
      | [] => none
      | c :: rest => if accepts c then next (s.advance c rest) else none
  | seq first second, next, s => first.fit (second.fit next) s
  | either first second, next, s =>
      match first.fit next s with
      | some found => some found
      | none => second.fit next s
  | many accepts, next, s => fitMany accepts next s.groups s.previous s.position s.rest
  | group number body, next, s =>
      body.fit (fun s' =>
        let covered : Span := ⟨s.position, s.rest, s'.position - s.position⟩
        next { s' with groups := (number, covered) :: s'.groups }) s
  | edge, next, s => if Text.boundary s.previous s.rest.head? then next s else none
  | outside accepts, next, s =>
      if s.previous.any accepts && s.rest.head?.any accepts then none else next s

def literal : Text → Pattern
  | [] => empty
  | [c] => one (· == c)
  | c :: t => seq (one (· == c)) (literal t)

/-- The first of several patterns that leads to a fit. -/
def anyOf : List Pattern → Pattern
  | [] => one fun _ => false
  | [p] => p
  | p :: ps => either p (anyOf ps)

/-- The pattern if it leads to a fit, else nothing. -/
def optional (p : Pattern) : Pattern := either p empty

def repeated (accepts : Char → Bool) : Pattern := seq (one accepts) (many accepts)

def times : Nat → Pattern → Pattern
  | 0, _ => empty
  | 1, p => p
  | n + 1, p => seq p (times n p)

/-- At least one and at most `n + 1` repetitions. -/
def upTo : Nat → Pattern → Pattern
  | 0, p => p
  | n + 1, p => seq p (optional (upTo n p))

def among (chars : Text) : Pattern := one chars.contains

instance : Coe String Pattern := ⟨fun s => literal s.toList⟩

instance : Append Pattern := ⟨seq⟩

def wholeWords (p : Pattern) : Pattern := edge ++ p ++ edge

def blanks : Pattern := repeated isBlank

def anyBlanks : Pattern := many isBlank

/-- A decimal digit of any script. -/
def digit : Pattern := one isDigit

end Pattern

/-- A fit of a pattern in a text: where it begins and the place where it ends. -/
structure Fit where
  start : Nat
  finish : Place

namespace Fit

/-- The part covered by a group, when the group took part in the fit. -/
def group? (number : Nat) (f : Fit) : Option Span := f.finish.groups.lookup number

def groupText? (number : Nat) (f : Fit) : Option Text := (f.group? number).map Span.text

end Fit

namespace Pattern

/-- The fit that begins at a place, if there is one. -/
def fitAt (p : Pattern) (previous : Option Char) (position : Nat) (t : Text) : Option Fit :=
  (p.fit some ⟨previous, position, t, []⟩).map fun finish => ⟨position, finish⟩

/-- The leftmost fit from a place on. -/
def findFrom (p : Pattern) : Option Char → Nat → Text → Option Fit
  | previous, position, [] => p.fitAt previous position []
  | previous, position, c :: t =>
      match p.fitAt previous position (c :: t) with
      | some found => some found
      | none => findFrom p (some c) (position + 1) t

/-- The leftmost fit in a text. -/
def find (p : Pattern) (t : Text) : Option Fit := p.findFrom none 0 t

def occursIn (p : Pattern) (t : Text) : Bool := (p.find t).isSome

/-- The fits from a place on, each beginning where the one before it ended, at most `fuel`. -/
def findAllFrom (p : Pattern) : Nat → Option Char → Nat → Text → List Fit
  | 0, _, _, _ => []
  | fuel + 1, previous, position, t =>
      match p.findFrom previous position t with
      | none => []
      | some found =>
          found :: findAllFrom p fuel found.finish.previous found.finish.position found.finish.rest

/-- The fits of a pattern that covers at least one character, from left to right without
overlap. -/
def findAll (p : Pattern) (t : Text) : List Fit := p.findAllFrom t.length none 0 t

end Pattern

end LotSearch
