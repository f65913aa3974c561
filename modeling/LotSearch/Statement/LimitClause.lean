import LotSearch.Text.Case
import LotSearch.Text.Digit
import LotSearch.Text.Word
import LotSearch.Statement.Comment

/-!
# The clause that bounds the rows

A statement may end in `LIMIT` with a count or `ALL`, followed by an `OFFSET` with a count.  The
clause is found where a statement ends in one after a word boundary, and split off in front of
the word `LIMIT`.
-/

namespace LotSearch.Statement

/-- A row bound as it is written: the count, and the offset part with the blanks before it. -/
structure LimitClause where
  /-- The digits of the count, and nothing for all rows. -/
  count : Option Text
  offset : Text
deriving Repr, DecidableEq

namespace LimitClause

/-- The bound as a number, when it is written in ASCII digits and fits 64 bits. -/
def rows? (clause : LimitClause) : Option Int :=
  clause.count.bind (Text.integerWithin? minInt64 maxInt64)

/-- The text behind at least one blank and all that follow it. -/
def afterBlanks? : Text → Option Text
  | [] => none
  | c :: t => if isBlank c then some (Text.trimStart t) else none

/-- The offset part of a clause: nothing, or blanks, `OFFSET`, blanks, digits, to the end. -/
def isOffset (t : Text) : Bool :=
  t.isEmpty ||
    match (afterBlanks? t).bind (Text.afterFolded? "offset".toList) with
    | none => false
    | some t =>
        match afterBlanks? t with
        | none => false
        | some digits => !digits.isEmpty && digits.all isDigit

/-- Reads a text that is a clause from its first character to its last. -/
def read? (t : Text) : Option LimitClause := do
  let t ← Text.afterFolded? "limit".toList t
  let t ← afterBlanks? t
  let digits := t.takeWhile isDigit
  if digits.isEmpty then
    let t ← Text.afterFolded? "all".toList t
    if isOffset t then some ⟨none, t⟩ else none
  else
    let t := t.dropWhile isDigit
    if isOffset t then some ⟨some digits, t⟩ else none

end LimitClause

/-- Splits a text, given the character before it, into what stands before the clause that ends
it and the clause. -/
def splitLimitAfter? : Option Char → Text → Option (Text × LimitClause)
  | _, [] => none
  | previous, c :: t =>
      match if Text.boundary previous (some c) then LimitClause.read? (c :: t) else none with
      | some clause => some ([], clause)
      | none => (splitLimitAfter? (some c) t).map fun (before, clause) => (c :: before, clause)

/-- Splits a statement into what stands before the clause that ends it and the clause. -/
def splitLimit? (statement : Text) : Option (Text × LimitClause) :=
  splitLimitAfter? none statement

/-- The bound of the clause that ends a statement, as a number. -/
def limit? (sql : Text) : Option Int := (splitLimit? (body sql)).bind fun (_, c) => c.rows?

end LotSearch.Statement
