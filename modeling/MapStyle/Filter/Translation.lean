import MapStyle.Filter.Basic
import MapStyle.Text.Blank
import MapStyle.Text.Split

/-!
# Typed filters

A filter is typed as one comparison, such as `pop >= 100` or `name LIKE 'A*'`. The comparison words
are tried in a fixed order, and the first that occurs anywhere cuts the text at its first
occurrence; only then is the pattern word tried, in any letter case. Every word has a blank at both
ends, so a shorter one is never found inside a longer one.
-/

namespace MapStyle.Filter

/-- What a typed filter means (`FilterTranslation`). -/
inductive Translation
  /-- A blank text: no filter. -/
  | noFilter
  | condition (condition : Condition)
  /-- No word was found; the text as it was typed. -/
  | unparsable (raw : String)
  deriving DecidableEq, Repr

/-- The comparison words in the order in which they are tried (`COMPARISON_TOKENS`,
    `NOT_EQUAL_TOKENS`). -/
def comparisonWords : List (List Char × Operator) :=
  [([' ', '=', ' '], .equalTo),
   ([' ', '>', ' '], .greaterThan),
   ([' ', '<', ' '], .lessThan),
   ([' ', '>', '=', ' '], .greaterThanOrEqualTo),
   ([' ', '<', '=', ' '], .lessThanOrEqualTo),
   ([' ', '!', '=', ' '], .notEqualTo),
   ([' ', '<', '>', ' '], .notEqualTo)]

/-- The pattern word in lower case (`LIKE_TOKEN`). -/
def likeWord : List Char := [' ', 'l', 'i', 'k', 'e', ' ']

/-- A text with its ASCII letters in lower case; every character keeps its place. -/
def lowerCase (s : List Char) : List Char := s.map Char.toLower

/-- The two quotes that may stand around a pattern. -/
def isQuote (c : Char) : Bool := c == '\x27' || c == '\x22'

/-- A text without the quote it may begin with. -/
def dropFirstQuote : List Char → List Char
  | c :: rest => if isQuote c then rest else c :: rest
  | [] => []

/-- A text without the quote it may end with. -/
def dropLastQuote (s : List Char) : List Char := (dropFirstQuote s.reverse).reverse

/-- A text without one quote at each end (`strip_quotes`). -/
def stripQuotes (s : List Char) : List Char := dropLastQuote (dropFirstQuote s)

/-- The operands at the first word of a list that occurs in a text (`split_operands`,
    `comparison`). -/
def firstComparison? (s : List Char) : List (List Char × Operator) → Option Condition
  | [] => none
  | (word, operator) :: rest =>
    match Text.splitFirst word s with
    | some (left, right) =>
      some (.comparison operator (String.ofList (Text.trim left)) (String.ofList (Text.trim right)))
    | none => firstComparison? s rest

/-- The parts of a text before and behind the pattern word in any letter case. -/
def splitLike (s : List Char) : Option (List Char × List Char) :=
  (Text.splitFirst likeWord (lowerCase s)).map fun (before, _) =>
    (s.take before.length, s.drop (before.length + likeWord.length))

/-- The pattern match that a text is (`translate_like`). -/
def likeCondition? (s : List Char) : Option Condition :=
  (splitLike s).map fun (left, right) =>
    .like (String.ofList (Text.trim left)) (String.ofList (stripQuotes (Text.trim right)))

/-- The meaning of a typed filter (`translate_filter`). -/
def translate (expression : String) : Translation :=
  let s := Text.trim expression.toList
  if s.isEmpty then .noFilter
  else
    match firstComparison? s comparisonWords with
    | some condition => .condition condition
    | none =>
      match likeCondition? s with
      | some condition => .condition condition
      | none => .unparsable expression

end MapStyle.Filter
