import CodeAtlas.Language.CFamily
import CodeAtlas.Language.CSharp
import CodeAtlas.Language.Go
import CodeAtlas.Language.Java
import CodeAtlas.Language.Php
import CodeAtlas.Language.Python
import CodeAtlas.Language.Ruby
import CodeAtlas.Language.Rust
import CodeAtlas.Language.Script
import CodeAtlas.Outline
import CodeAtlas.Path
import CodeAtlas.Text.Lowercase

/-!
# The known languages

A language has a name, the suffixes of its files, the directories that hold no sources of it, and a rule for its
declarations. The suffix of a file, in lower case, decides which language it is in.

## Main definitions

* `Language`, `languages`: languages and the list of the known ones.
* `Language.forPath?`: the language of a file.
* `Language.outline`: the outline of a file.
* `defaultExcludes`: what is left out of a project unless told otherwise.
-/

namespace CodeAtlas

/-- A language. -/
structure Language where
  /-- The name. -/
  name : String
  /-- The suffixes of its files, in lower case. -/
  extensions : List String
  /-- The names of directories that hold no sources. -/
  excludes : List String
  /-- The label of a file by its suffix. -/
  dialect : String → String
  /-- The grammar that a file is read with, by its suffix. -/
  grammar : String → String := dialect
  /-- What is found at a node. -/
  rule : Language.File → Language.Rule

/-- The known languages. -/
def languages : List Language :=
  [ { name := "python", extensions := [".py", ".pyi"]
      excludes := ["__pycache__", ".venv", "venv", ".pytest_cache", ".mypy_cache"]
      dialect := fun _ => "python", rule := Language.Python.rule },
    { name := "javascript", extensions := [".js", ".jsx", ".mjs", ".ts", ".tsx"]
      excludes := ["node_modules", ".npm", "bower_components", "dist"]
      dialect := Language.Script.dialect, grammar := Language.Script.grammar, rule := Language.Script.rule },
    { name := "go", extensions := [".go"], excludes := ["vendor"]
      dialect := fun _ => "go", rule := Language.Go.rule },
    { name := "rust", extensions := [".rs"], excludes := ["target"]
      dialect := fun _ => "rust", rule := Language.Rust.rule },
    { name := "java", extensions := [".java"], excludes := ["target", ".gradle", "build", "bin"]
      dialect := fun _ => "java", rule := Language.Java.rule },
    { name := "c_cpp", extensions := [".c", ".h", ".cpp", ".hpp", ".cc", ".cxx", ".hxx", ".hh"]
      excludes := ["build", "cmake-build-debug", "cmake-build-release"]
      dialect := Language.CFamily.dialect, rule := Language.CFamily.rule },
    { name := "csharp", extensions := [".cs"], excludes := ["bin", "obj", "packages", ".vs"]
      dialect := fun _ => "csharp", rule := Language.CSharp.rule },
    { name := "php", extensions := [".php", ".phtml"], excludes := ["vendor", "cache", "storage"]
      dialect := fun _ => "php", rule := Language.Php.rule },
    { name := "ruby", extensions := [".rb", ".rake", ".gemspec"], excludes := [".bundle", "vendor/bundle", "tmp"]
      dialect := fun _ => "ruby", rule := Language.Ruby.rule }]

/-- What is left out of a project unless told otherwise. -/
def defaultExcludes : List String :=
  [".git", ".svn", ".hg", "__pycache__", ".venv", "venv", ".pytest_cache", ".mypy_cache", "*.egg-info", ".eggs",
    "node_modules", ".npm", "bower_components", "dist", "build", "out", "_build", "vendor", "target", ".gradle",
    ".mvn", ".idea", ".vscode", ".tox", ".nox", "coverage", ".coverage", "htmlcov"]

/-- How a text is read as a syntax tree with a grammar. -/
abbrev SyntaxReader := String → String → Tree

namespace Language

/-- The suffix of a file in lower case. -/
def suffixOf (path : Path) : String :=
  Text.lower path.suffix

/-- Whether a language owns a file. -/
def supports (l : Language) (path : Path) : Bool :=
  l.extensions.contains (suffixOf path)

/-- The language of a file. -/
def forPath? (path : Path) : Option Language :=
  languages.find? (·.supports path)

/-- The language with a name, in any case. -/
def named? (name : String) : Option Language :=
  languages.find? (·.name == Text.lower name)

/-- All suffixes of the known languages. -/
def allExtensions : List String :=
  languages.flatMap (·.extensions)

/-- The entities in a syntax tree. -/
def entities (l : Language) (path : Path) (t : Tree) : List Entity :=
  walkChildren (l.rule ⟨path.toString, l.dialect (suffixOf path)⟩) .top t

/-- The outline of a text: its entities, and one line more than it has newlines. -/
def outlineText (l : Language) (read : SyntaxReader) (path : Path) (text : String) : Outline :=
  ⟨l.entities path (read (l.grammar (suffixOf path)) text), some (text.toList.count '\n' + 1)⟩

/-- The outline of a file, given its bytes if it could be read. Bytes that are not valid UTF-8 have no outline. -/
def outline (l : Language) (read : SyntaxReader) (path : Path) (content : Option ByteArray) : Outline :=
  match content.bind String.fromUTF8? with
  | some text => l.outlineText read path text
  | none => .unreadable

end Language

end CodeAtlas
