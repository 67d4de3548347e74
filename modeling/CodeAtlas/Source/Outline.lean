import CodeAtlas.Outline
import CodeAtlas.Path
import CodeAtlas.Source.Calls
import CodeAtlas.Source.Docstring
import CodeAtlas.Source.Program
import CodeAtlas.Source.Signature
import CodeAtlas.Text.Lines

/-!
# The outline of a Python source text

The functions and classes at the top of a text, and the methods and classes inside classes, as entities. What
is nested in functions or in other statements is not part of the outline.

## Main definitions

* `outline`: the outline of a text; an unreadable text has an empty outline and no number of lines.
-/

namespace CodeAtlas.Source

/-- The entity of a function definition. -/
def functionEntity (path : String) (parent : Option String) (header : FunctionHeader) (body : List Stmt) :
    Entity where
  id := Entity.makeId path parent header.name
  name := header.name
  kind := Entity.functionKind parent
  path := path
  firstLine := header.line
  lastLine := header.lastLine
  signature := header.signature
  docstring := docstring body
  parent := parent
  calls := functionCalls header body
  bases := []
  language := "python"

/-- The entity of a class definition, without its members. -/
def classEntity (path : String) (parent : Option String) (header : ClassHeader) (body : List Stmt) : Entity where
  id := Entity.makeId path parent header.name
  name := header.name
  kind := .classType
  path := path
  firstLine := header.line
  lastLine := header.lastLine
  signature := header.signature
  docstring := docstring body
  parent := parent
  calls := []
  bases := header.baseTexts
  language := "python"

mutual

/-- The entities of a statement. -/
def stmtEntities (path : String) (parent : Option String) : Stmt → List Entity
  | .function header body => [functionEntity path parent header body]
  | .classDef header body =>
    classEntity path parent header body ::
      bodyEntities path (some (Entity.makeId path parent header.name)) body
  | _ => []

/-- The entities of some statements. -/
def bodyEntities (path : String) (parent : Option String) : List Stmt → List Entity
  | [] => []
  | s :: ss => stmtEntities path parent s ++ bodyEntities path parent ss

end

/-- The outline of a text. Line endings are read as newlines. -/
def outline (path : Path) (text : String) : Outline :=
  let normal := Text.normalizeNewlines text
  match program normal.toList with
  | some body => ⟨bodyEntities path.toString none body, some (Text.lineCount normal)⟩
  | none => Outline.unreadable

/-- The outline of the bytes of a file. Bytes that are not valid UTF-8 cannot be read. -/
def outlineBytes (path : Path) (bytes : ByteArray) : Outline :=
  match String.fromUTF8? bytes with
  | some text => outline path text
  | none => Outline.unreadable

end CodeAtlas.Source
