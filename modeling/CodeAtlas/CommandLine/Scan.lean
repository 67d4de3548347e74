import CodeAtlas.Text.Quoted
import CodeAtlas.Text.Cut
import CodeAtlas.Text.Similar

/-!
# Scanning a command line

A command line is a list of words. A word that starts with a dash and has more than one character is an option, with
its long name or as a group of short ones. An option that takes a value takes what is attached to it, or else the
next word. After two dashes everything is an argument.

## Main definitions

* `UsageError`, `UsageError.message`: what can be wrong with a command line.
* `OptionSpec`: the options that are known.
* `scan`: the options and the arguments of a list of words.
-/

namespace CodeAtlas.CommandLine

/-- What can be wrong with a command line. -/
inductive UsageError where
  /-- There is no command of that name. -/
  | noSuchCommand (name : String)
  /-- There is no command at all. -/
  | missingCommand
  /-- There is no option of that name. Some may be similar. -/
  | noSuchOption (name : String) (similar : List String)
  /-- An option needs a value. -/
  | valueRequired (name : String)
  /-- An option takes no value. -/
  | valueRefused (name : String)
  /-- An argument is missing. -/
  | missingArgument (label : String)
  /-- A value is not a whole number. -/
  | notInteger (label value : String)
  /-- There are more arguments than the command takes. -/
  | extraArguments (words : List String)
  deriving DecidableEq, Repr

/-- The message about what is wrong with a command line. -/
def UsageError.message : UsageError → String
  | .noSuchCommand name => "No such command " ++ Text.quoted name ++ "."
  | .missingCommand => "Missing command."
  | .noSuchOption name [] => "No such option: " ++ name
  | .noSuchOption name [other] => "No such option: " ++ name ++ " Did you mean " ++ other ++ "?"
  | .noSuchOption name others =>
    "No such option: " ++ name ++ " (Possible options: " ++ Text.joinWith ", " (others.mergeSort fun a b => a ≤ b) ++ ")"
  | .valueRequired name => "Option " ++ Text.quoted name ++ " requires an argument."
  | .valueRefused name => "Option " ++ Text.quoted name ++ " does not take a value."
  | .missingArgument label => "Missing argument '" ++ label ++ "'."
  | .notInteger label value => "Invalid value for " ++ label ++ ": " ++ Text.quoted value ++ " is not a valid integer."
  | .extraArguments [word] => "Got unexpected extra argument (" ++ word ++ ")"
  | .extraArguments words => "Got unexpected extra arguments (" ++ Text.joinWith " " words ++ ")"

/-- The options that are known. -/
inductive OptionKind where
  /-- The help text. -/
  | help
  /-- Only changes are indexed. -/
  | incremental
  /-- The number of results. -/
  | limit
  /-- The project. -/
  | project
  deriving DecidableEq, Repr

/-- An option: its names, and whether it takes a value. -/
structure OptionSpec where
  /-- The option. -/
  kind : OptionKind
  /-- The long name. -/
  long : String
  /-- The short name. -/
  short : Option Char
  /-- Whether it takes a value. -/
  takesValue : Bool

/-- An option as it was given, with its value. -/
structure Given where
  /-- The option. -/
  kind : OptionKind
  /-- The value. -/
  value : Option String
  deriving DecidableEq, Repr

/-- The options and the arguments of a list of words. -/
structure Scanned where
  /-- The options in order. -/
  options : List Given
  /-- The arguments in order. -/
  arguments : List String
  deriving DecidableEq, Repr

/-- The words with an option in front that takes its value from them. -/
def takeValue (kind : OptionKind) (name : String) : List String → Except UsageError (Given × List String)
  | [] => .error (.valueRequired name)
  | value :: rest => .ok (⟨kind, some value⟩, rest)

/-- The options of a group of short names, and the words that are left. -/
def scanGroup (specs : List OptionSpec) : List Char → List String → Except UsageError (List Given × List String)
  | [], rest => .ok ([], rest)
  | c :: cs, rest =>
    match specs.find? (·.short == some c) with
    | none => .error (.noSuchOption ("-" ++ c.toString) [])
    | some spec =>
      if spec.takesValue then
        (takeValue spec.kind ("-" ++ c.toString) (if cs.isEmpty then rest else String.ofList cs :: rest)).map
          fun (given, rest) => ([given], rest)
      else (scanGroup specs cs rest).map fun (givens, rest) => (⟨spec.kind, none⟩ :: givens, rest)

/-- The options of a word, and the words that are left. -/
def scanOption (specs : List OptionSpec) (word : String) (rest : List String) :
    Except UsageError (List Given × List String) :=
  let name := String.ofList (word.toList.takeWhile (· != '='))
  let attached := if Text.hasChar '=' word then some (Text.trim (name.length + 1) 0 word) else none
  match specs.find? (·.long == name), attached with
  | some spec, some value =>
    if spec.takesValue then .ok ([⟨spec.kind, some value⟩], rest) else .error (.valueRefused name)
  | some spec, none =>
    if spec.takesValue then (takeValue spec.kind name rest).map fun (given, rest) => ([given], rest)
    else .ok ([⟨spec.kind, none⟩], rest)
  | none, _ =>
    if Text.startsWith "--" word then
      .error (.noSuchOption name ((specs.map (·.long)).filter fun long => Text.isSimilar long name))
    else scanGroup specs (word.toList.drop 1) rest

/-- Whether a word is an option. -/
def isOption (word : String) : Bool :=
  Text.startsWith "-" word && 1 < word.length

/-- The options and the arguments of at most `count` words. If options may not stand behind arguments, everything from
the first argument on is an argument. -/
def scanTo (specs : List OptionSpec) (mixed : Bool) : Nat → List String → Except UsageError Scanned
  | 0, _ => .ok ⟨[], []⟩
  | _, [] => .ok ⟨[], []⟩
  | count + 1, word :: rest =>
    if word = "--" then .ok ⟨[], rest⟩
    else if isOption word then
      match scanOption specs word rest with
      | .error e => .error e
      | .ok (givens, rest) => (scanTo specs mixed count rest).map fun s => ⟨givens ++ s.options, s.arguments⟩
    else if mixed then (scanTo specs mixed count rest).map fun s => ⟨s.options, word :: s.arguments⟩
    else .ok ⟨[], word :: rest⟩

/-- The options and the arguments of a list of words. -/
def scan (specs : List OptionSpec) (mixed : Bool) (words : List String) : Except UsageError Scanned :=
  scanTo specs mixed (words.length + 1) words

end CodeAtlas.CommandLine
