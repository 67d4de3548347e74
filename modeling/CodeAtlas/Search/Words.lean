import CodeAtlas.Text.Blank
import CodeAtlas.Text.Cut
import CodeAtlas.Text.Lowercase

/-!
# Search words

What a text is searched by. A token is a maximal run of ASCII letters and digits that starts with a letter, in
lower case, with at least three characters and not among the stop words. The text of a node consists of its
name, the parts of its name, its signature and its documentation.

## Main definitions

* `tokenRuns`: the runs of letters and digits of some characters.
* `tokenize`: the tokens of a text.
* `splitIdentifier`: the parts of a name.
* `searchableText`: the text that a node is found by.
-/

namespace CodeAtlas.Search

/-- An ASCII capital letter. -/
def isCapital (c : Char) : Bool :=
  'A' ≤ c && c ≤ 'Z'

/-- An ASCII letter. -/
def isLetter (c : Char) : Bool :=
  ('a' ≤ c && c ≤ 'z') || isCapital c

/-- An ASCII letter or digit. -/
def isLetterOrDigit (c : Char) : Bool :=
  isLetter c || ('0' ≤ c && c ≤ '9')

/-- The runs in some characters, where `run` is the current run read backwards. A run starts with a letter and goes
on with letters and digits. -/
def tokenRunsFrom (run : List Char) : List Char → List (List Char)
  | [] => if run.isEmpty then [] else [run.reverse]
  | c :: cs =>
    if run.isEmpty then
      if isLetter c then tokenRunsFrom [c] cs else tokenRunsFrom [] cs
    else if isLetterOrDigit c then tokenRunsFrom (c :: run) cs
    else run.reverse :: tokenRunsFrom [] cs

/-- The maximal runs of letters and digits that start with a letter. -/
def tokenRuns (cs : List Char) : List (List Char) :=
  tokenRunsFrom [] cs

/-- Words that say nothing about what a text is about. -/
def stopWords : List String :=
  ["the", "a", "an", "is", "are", "was", "were", "be", "been", "being", "have", "has", "had", "do", "does", "did",
    "will", "would", "could", "should", "may", "might", "must", "shall", "can", "need", "dare", "ought", "used",
    "to", "of", "in", "for", "on", "with", "at", "by", "from", "as", "into", "through", "during", "before",
    "after", "above", "below", "between", "under", "again", "further", "then", "once", "self", "this", "that",
    "these", "those", "def", "class", "return", "if", "else", "elif", "try", "except", "finally", "and", "or",
    "not", "none", "true", "false"]

/-- Whether a run counts as a token. -/
def isToken (word : String) : Bool :=
  2 < word.length && !stopWords.contains word

/-- The tokens of a text, in order and with repetitions. -/
def tokenize (text : String) : List String :=
  ((tokenRuns (Text.lower text).toList).map String.ofList).filter isToken

/-- The characters with a space in front of every capital. -/
def spaceCapitals : List Char → List Char
  | [] => []
  | c :: cs => if isCapital c then ' ' :: c :: spaceCapitals cs else c :: spaceCapitals cs

/-- The parts of a name, in lower case: a name falls apart at underscores, at blanks and before capitals. -/
def splitIdentifier (name : String) : List String :=
  let pieces := (Text.cutAt '_' name).flatMap fun piece =>
    Text.words (String.ofList (spaceCapitals piece.toList))
  pieces.map Text.lower

/-- A text that is present and not empty, as a list. -/
def shownText (text : Option String) : List String :=
  match text with
  | some s => if s.isEmpty then [] else [s]
  | none => []

/-- The text that a node is found by. -/
def searchableText (name signature docstring : Option String) : String :=
  let names := (shownText name).flatMap fun n => n :: splitIdentifier n
  Text.joinWith " " (names ++ shownText signature ++ shownText docstring)

end CodeAtlas.Search
