import CodeAtlas.Command
import CodeAtlas.CommandLine.Scan
import CodeAtlas.Text.Identifier
import CodeAtlas.Text.Integer

/-!
# Command lines

The first argument of a command line names the command, and what follows are the options and the arguments of that
command. A command line asks for a command or for a help text, or it is wrong.

## Main definitions

* `Form`, `forms`: the commands with their options and arguments.
* `Invocation`: what a command line asks for.
* `parse`: what a list of words asks for.
-/

namespace CodeAtlas.CommandLine

/-- The help text. -/
def helpOption : OptionSpec := ⟨.help, "--help", none, false⟩

/-- Only changes are indexed. -/
def incrementalOption : OptionSpec := ⟨.incremental, "--incremental", some 'i', false⟩

/-- The number of results. -/
def limitOption : OptionSpec := ⟨.limit, "--limit", some 'l', true⟩

/-- The project. -/
def projectOption : OptionSpec := ⟨.project, "--project", some 'p', true⟩

/-- An argument of a command. -/
structure ArgumentSpec where
  /-- The label in messages. -/
  label : String
  /-- Whether it has to be given. -/
  required : Bool
  /-- Whether it is a whole number. -/
  isInteger : Bool := false

/-- The values of a command line whose arguments have been checked. -/
structure Values where
  /-- The options. -/
  options : List Given
  /-- The arguments. -/
  arguments : List String

namespace Values

/-- The value of an option; the last one counts. -/
def option? (v : Values) (kind : OptionKind) : Option String :=
  ((v.options.filter (·.kind == kind)).getLast?).bind (·.value)

/-- Whether an option was given. -/
def has (v : Values) (kind : OptionKind) : Bool :=
  v.options.any (·.kind == kind)

/-- An argument. -/
def argument? (v : Values) (i : Nat) : Option String :=
  v.arguments[i]?

/-- An argument that has to be given. -/
def argument (v : Values) (i : Nat) : String :=
  (v.argument? i).getD ""

/-- An argument that is a whole number. -/
def integer? (v : Values) (i : Nat) : Option Int :=
  (v.argument? i).bind Text.readInteger?

end Values

/-- The form of a command: its name, its options and arguments, and what it becomes. -/
structure Form where
  /-- The name. -/
  name : String
  /-- The options. -/
  options : List OptionSpec
  /-- The arguments. -/
  arguments : List ArgumentSpec
  /-- The command. -/
  make : Values → Command

/-- The number of results unless one is given. -/
def defaultLimit : Int := 10

/-- The forms of all commands. -/
def forms : List Form :=
  [ { name := "index", options := [incrementalOption, helpOption], arguments := [⟨"[PATH]", false, false⟩]
      make := fun v => .index (v.argument? 0) (v.has .incremental) },
    { name := "map", options := [helpOption], arguments := [⟨"[PATH]", false, false⟩]
      make := fun v => .map (v.argument? 0) },
    { name := "expand", options := [projectOption, helpOption], arguments := [⟨"NODE_PATH", true, false⟩]
      make := fun v => .expand (v.argument 0) (v.option? .project) },
    { name := "inspect", options := [projectOption, helpOption], arguments := [⟨"ENTITY_PATH", true, false⟩]
      make := fun v => .inspect (v.argument 0) (v.option? .project) },
    { name := "search", options := [limitOption, projectOption, helpOption], arguments := [⟨"QUERY", true, false⟩]
      make := fun v =>
        .search (v.argument 0) (((v.option? .limit).bind Text.readInteger?).getD defaultLimit) (v.option? .project) },
    { name := "read", options := [projectOption, helpOption]
      arguments := [⟨"FILE_PATH", true, false⟩, ⟨"[START]", false, true⟩, ⟨"[END]", false, true⟩]
      make := fun v => .read (v.argument 0) (v.integer? 1) (v.integer? 2) (v.option? .project) },
    { name := "hierarchy", options := [projectOption, helpOption], arguments := [⟨"BASE_CLASS", true, false⟩]
      make := fun v => .hierarchy (v.argument 0) (v.option? .project) }]

/-- What a command line asks for. -/
inductive Invocation where
  /-- A help text. -/
  | help
  /-- A command. -/
  | command (c : Command)
  /-- Nothing, as it is wrong. -/
  | wrong (e : UsageError)

/-- What is wrong with the number of results, if anything. -/
def checkLimit (v : Values) : Option UsageError :=
  match v.option? .limit with
  | some value =>
    if (Text.readInteger? value).isSome then none else some (.notInteger "'--limit' / '-l'" value)
  | none => none

/-- What is wrong with the arguments, if anything. -/
def checkArguments : List ArgumentSpec → List String → Option UsageError
  | [], [] => none
  | [], extra => some (.extraArguments extra)
  | spec :: specs, [] => if spec.required then some (.missingArgument spec.label) else checkArguments specs []
  | spec :: specs, word :: words =>
    if spec.isInteger && (Text.readInteger? word).isNone then some (.notInteger ("'" ++ spec.label ++ "'") word)
    else checkArguments specs words

/-- What the words after the name of a command ask for. A help text is asked for whatever else is wrong with the
values. -/
def parseForm (form : Form) (words : List String) : Invocation :=
  match scan form.options true words with
  | .error e => .wrong e
  | .ok s =>
    let v : Values := ⟨s.options, s.arguments⟩
    if v.has .help then .help
    else
      match (checkLimit v).or (checkArguments form.arguments v.arguments) with
      | some e => .wrong e
      | none => .command (form.make v)

/-- Whether a word could name a command: it starts with a letter or digit. -/
def looksLikeName (word : String) : Bool :=
  match word.toList with
  | [] => true
  | c :: _ => Text.isIdentifierContinue c && c != '_'

/-- What a list of words asks for. Without any words, or with an unknown command that does not look like a name, it is
a help text. -/
def parse (words : List String) : Invocation :=
  if words.isEmpty then .help
  else
    match scan [helpOption] false words with
    | .error e => .wrong e
    | .ok s =>
      if s.options.any (·.kind == .help) then .help
      else
        match s.arguments with
        | [] => .wrong .missingCommand
        | name :: rest =>
          match forms.find? (·.name == name) with
          | some form => parseForm form rest
          | none => if looksLikeName name then .wrong (.noSuchCommand name) else .help

end CodeAtlas.CommandLine
