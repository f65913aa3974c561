import LotSearch.Text.Case
import LotSearch.Text.Pattern

/-!
# The words of requests

A request is read by looking for phrases in its lower-case form.  This module lists the phrases
as patterns: those that name a kind of property, those that compare with an amount, and those
that give a year, a place, a district or a number of results.
-/

namespace LotSearch.Vocabulary

open Pattern

def hyphen : Pattern := among ['-', ' ']

def plural (word : String) : Pattern := word ++ optional "s"

def compound (first second : String) : Pattern := first ++ hyphen ++ second

/-- A compound of two parts that may also be written as one word. -/
def joinedCompound (first second : String) : Pattern := first ++ optional hyphen ++ second

/-! Phrases for kinds of properties. -/

def underdeveloped : Pattern := wholeWords <| anyOf
  [joinedCompound "under" "developed", joinedCompound "under" "built",
    joinedCompound "under" "utili" ++ among ['s', 'z'] ++ "ed", "development potential"]

def vacant : Pattern := wholeWords <| anyOf
  ["vacant", plural "empty lot", "unbuilt", "undeveloped " ++ anyOf ["land", plural "lot"]]

def commercial : Pattern := wholeWords <| anyOf
  ["commercial", "retail", plural "office", plural "storefront", plural "store"]

def residential : Pattern := wholeWords <| anyOf
  ["residential", plural "home", plural "house", "housing", plural "apartment", plural "condo",
    compound "single" "family", compound "one" "family", compound "two" "family",
    joinedCompound "multi" "family"]

def singleFamily : Pattern := wholeWords <| anyOf
  [compound "single" "family", compound "one" "family", "detached"]

def multiFamily : Pattern := wholeWords <| anyOf
  [joinedCompound "multi" "family", plural "apartment", joinedCompound "walk" "up" ++ optional "s",
    plural "elevator building"]

def mixedUse : Pattern := wholeWords (joinedCompound "mixed" "use")

def landValue : Pattern := wholeWords <| anyOf
  [compound "land" "value", "value ratio", compound "land" "to" ++ hyphen ++ "total"]

def airRights : Pattern := wholeWords <| anyOf
  ["air rights", "development rights", plural "tdr", "transferable"]

def year : Pattern := times 4 digit

def preWarWord : Pattern := joinedCompound "pre" "war"

def historicWord : Pattern := anyOf ["historic" ++ optional "al", plural "landmark"]

def historic : Pattern := wholeWords <| anyOf
  ["historic" ++ optional "al", plural "landmark", preWarWord,
    "old" ++ optional "er" ++ " " ++
      anyOf [plural "building", "properties", "homes", "houses"],
    optional "built " ++ "before " ++ year, "prior to " ++ year]

def preWar : Pattern := wholeWords preWarWord

def historicKeyword : Pattern := wholeWords historicWord

def largeLot : Pattern := wholeWords <|
  anyOf ["large", "big", "huge", "oversized"] ++ " " ++
    anyOf [plural "lot", plural "parcel", plural "site"]

/-! Phrases with a year. -/

/-- A year after a phrase for an earlier time; the year is group 1. -/
def beforeYear : Pattern :=
  edge ++ anyOf ["before", "prior to", "older than"] ++ blanks ++ group 1 year ++ edge

def newerPhrases : List String := ["built after", "constructed after", "built since", "newer than"]

def olderPhrases : List String := ["built before", "constructed before", "older than"]

/-- A phrase about the time of construction and a year; they are groups 1 and 2. -/
def yearBuilt : Pattern :=
  edge ++ group 1 (anyOf ((newerPhrases ++ olderPhrases).map fun p => literal p.toList)) ++ blanks
    ++ group 2 year ++ edge

/-! Places and districts. -/

def boroughName : Pattern := wholeWords <| anyOf
  ["manhattan", "new york county", "the bronx", "bronx county", "bronx", "brooklyn",
    "kings county", "queens county", "queens", "staten island", "richmond county"]

def boroughCode : Pattern := wholeWords <| anyOf ["MN", "BX", "BK", "QN", "SI"]

/-- A letter of ASCII up to simple case folding. -/
def letter : Pattern := one fun c => 'a' ≤ foldAscii c && foldAscii c ≤ 'z'

/-- A zoning district: a letter and a digit, then perhaps a hyphen and another digit.  It is
group 1. -/
def district : Pattern :=
  edge ++ group 1 (letter ++ digit ++ optional "-" ++ optional digit) ++ edge

def opportunityZone : Pattern := wholeWords <| anyOf
  [optional "qualified " ++ plural "opportunity zone", plural "qoz", "oz"]

/-! Amounts. -/

/-- The words that compare with an amount: above it or below it, with the amount itself or not.
-/
def comparisonWords : List String :=
  ["over", "more than", "larger than", "greater than", "bigger than", "above", "at least",
    "under", "less than", "smaller than", "below", "at most"]

def comparison : Pattern := anyOf (comparisonWords.map fun p => literal p.toList)

/-- The digits of an amount, with commas among them and perhaps decimals after a point.  It is
never cut between two digits: what fits from the second of them on also fits from the first, and
neither a unit nor the end of a word can follow the first. -/
def amount : Pattern :=
  outside isDigit ++ repeated (fun c => isDigit c || c == ',') ++ outside isDigit
    ++ optional ("." ++ repeated isDigit ++ outside isDigit)

def areaUnit : Pattern := anyOf
  ["square" ++ blanks ++ anyOf ["feet", "foot", "ft"],
    "sq" ++ optional "." ++ anyBlanks ++ anyOf ["ft", "feet"], "sqft", "sf"]

/-- A bound on the lot area: a comparison, an amount and perhaps a multiplier, which are groups
1 to 3, and square feet. -/
def lotSize : Pattern :=
  edge ++ group 1 comparison ++ blanks ++ group 2 amount ++ anyBlanks
    ++ optional (group 3 (anyOf ["million", "thousand", "k"]) ++ anyBlanks) ++ areaUnit ++ edge

/-- An amount of money: perhaps a comparison and a dollar sign, the amount, and perhaps a
multiplier, which are groups 1 to 4. -/
def money : Pattern :=
  optional (edge ++ group 1 comparison ++ blanks) ++ optional (group 2 "$")
    ++ optional (one isBlank) ++ group 3 amount ++ anyBlanks
    ++ optional (group 4 (anyOf ["million", "mil", "thousand", "m", "k"])) ++ edge

/-- The unit right after an amount that is an area and no money. -/
def areaAfterAmount : Pattern :=
  anyBlanks ++ anyOf
    ["square" ++ blanks ++ anyOf ["feet", "foot", "ft"], "sq" ++ edge, "sqft" ++ edge,
      "sf" ++ edge]

/-- A number of results; it is group 1. -/
def resultCount : Pattern :=
  edge ++ anyOf ["top", "limit", "first"] ++ blanks ++ group 1 (upTo 5 digit) ++ edge

/-! Keywords. -/

/-- Words that say nothing about what is looked for. -/
def stopwords : List String :=
  ["the", "and", "for", "with", "that", "this", "find", "show", "list", "give", "get", "all",
    "any", "are", "have", "has", "from", "into", "near", "which", "where", "what", "want",
    "need", "looking", "some", "properties", "property", "please", "there"]

def isKeywordChar (c : Char) : Bool := ('a' ≤ c && c ≤ 'z') || isAsciiDigit c

/-- The longest runs of keyword characters; `run` is the one that was begun, backwards. -/
def keywordRuns (run : Text) : Text → List Text
  | [] => if run.isEmpty then [] else [run.reverse]
  | c :: t =>
      if isKeywordChar c then keywordRuns (c :: run) t
      else if run.isEmpty then keywordRuns [] t
      else run.reverse :: keywordRuns [] t

/-- Whether a run of keyword characters may tell what is looked for. -/
def isKeyword (word : Text) : Bool :=
  3 ≤ word.length && !word.all isAsciiDigit && !(stopwords.map String.toList).contains word

/-- The keywords of a text, each once, in order of their first occurrence. -/
def keywords (t : Text) : List Text := Text.distinct ((keywordRuns [] t).filter isKeyword)

end LotSearch.Vocabulary
