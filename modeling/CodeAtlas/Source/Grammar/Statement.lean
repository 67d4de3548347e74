import CodeAtlas.Source.Grammar.Pattern

/-!
# The grammar of statements

## Main definitions

* `Grammar.simpleStatements`: a line of simple statements.
* `Grammar.block`: the body of a compound statement.
* `Grammar.readStatement`: one compound statement or a line of simple ones.
-/

namespace CodeAtlas.Source

open Reader

namespace Grammar

/-! ## Simple statements -/

/-- A statement of which only the expressions matter. -/
def plain (values : List Expr) : Stmt := .other values []

/-- A value on the right of an assignment. -/
def assignedValue (g : Grammar) : Reader Expr := do
  if ← atWord "yield" then g.yieldExpression else g.starExpressions

/-- The operators that assign in place. -/
def updateOps : List String :=
  ["+=", "-=", "*=", "@=", "/=", "%=", "&=", "|=", "^=", "<<=", ">>=", "**=", "//="]

/-- The values of a chain of assignments, after its first target. All but the last have to be targets. -/
def assignmentChain (g : Grammar) : Reader (List Expr) := do
  let values ← collect do
    if ← skipOp "=" then return some (← g.assignedValue) else return Option.none
  guard (values.dropLast.all (·.isStarTarget))
  return values

/-- An assignment of any kind, or an expression on its own. -/
def assignmentOrExpression (g : Grammar) : Reader Stmt := do
  if ← atWord "yield" then return .expression (← g.yieldExpression)
  let first ← g.starExpressions
  match ← peek with
  | some (.op "=") =>
    guard first.isStarTarget
    return plain (first :: (← g.assignmentChain))
  | some (.op ":") =>
    guard first.isSingleTarget
    discard next
    let ascribed ← g.expression
    if ← skipOp "=" then return plain [first, ascribed, ← g.assignedValue]
    else return plain [first, ascribed]
  | some (.op o) =>
    if updateOps.contains o then
      guard first.isSingleTarget
      discard next
      return plain [first, ← g.assignedValue]
    else return .expression first
  | _ => return .expression first

/-- Names with commas between them. -/
def nameList : Reader Unit := do
  discard identifier
  discard (collect do
    if ← skipOp "," then return some (← identifier) else return Option.none)

/-- An optional new name. -/
def asName : Reader Unit := do
  if ← skipWord "as" then discard identifier

/-- What is taken from a module: everything, or names, perhaps in brackets. -/
def importedNames : Reader Unit := do
  let item : Reader Unit := do
    discard identifier
    asName
  if ← skipOp "*" then return ()
  else if ← skipOp "(" then
    discard (itemsUntil (isOp ")") item)
    op ")"
  else
    item
    discard (collect do
      if ← skipOp "," then return some (← item) else return Option.none)

/-- The module after `from`: dots and a name, or at least one dot. -/
def fromModule : Reader Unit := do
  let dots ← collect do
    if (← skipOp ".") || (← skipOp "...") then return some () else return Option.none
  if (← atWord "import") && !dots.isEmpty then return ()
  else discard dottedName

/-- The targets of a deletion. -/
def deletion (g : Grammar) : Reader (List Expr) := do
  let ends : Option Kind → Bool := fun k =>
    isOp ";" k || match k with
      | some .newline => true
      | _ => false
  let (items, _) ← itemsUntil ends g.primary
  guard (areDeletable items)
  return items

/-- One simple statement. -/
def simpleStatement (g : Grammar) : Reader Stmt := do
  match ← peek with
  | some (.word "pass") | some (.word "break") | some (.word "continue") => discard next; return plain []
  | some (.word "return") =>
    discard next
    match ← peek with
    | some .newline | some (.op ";") => return plain []
    | _ => return plain [← g.starExpressions]
  | some (.word "raise") =>
    discard next
    match ← peek with
    | some .newline | some (.op ";") => return plain []
    | _ =>
      let error ← g.expression
      if ← skipWord "from" then return plain [error, ← g.expression] else return plain [error]
  | some (.word "global") | some (.word "nonlocal") => discard next; nameList; return plain []
  | some (.word "del") => discard next; return plain (← g.deletion)
  | some (.word "assert") =>
    discard next
    let test ← g.expression
    if ← skipOp "," then return plain [test, ← g.expression] else return plain [test]
  | some (.word "import") =>
    discard next
    let item : Reader Unit := do
      discard dottedName
      asName
    item
    discard (collect do
      if ← skipOp "," then return some (← item) else return Option.none)
    return plain []
  | some (.word "from") =>
    discard next
    fromModule
    reserved "import"
    importedNames
    return plain []
  | _ => g.assignmentOrExpression

/-- A line of simple statements with semicolons between them. -/
def simpleStatements (g : Grammar) : Reader (List Stmt) := do
  let first ← g.simpleStatement
  let more ← collect do
    if isOp ";" (← peek) then
      match ← peekSecond with
      | some .newline => return Option.none
      | _ =>
        discard next
        return some (← g.simpleStatement)
    else return Option.none
  discard (skipOp ";")
  endOfLine
  return first :: more

/-! ## Compound statements -/

/-- Statements up to the end of their block or of the text. -/
def statements (g : Grammar) : Reader (List Stmt) := do
  let first ← g.statement
  let more ← collect do
    match ← peek with
    | some .dedent | some .finish => return Option.none
    | _ => return some (← g.statement)
  return first ++ more.flatten

/-- The body of a compound statement, after its colon: an indented block or a line of simple statements. -/
def block (g : Grammar) : Reader (List Stmt) := do
  op ":"
  match ← peek with
  | some .newline =>
    discard next
    startOfBlock
    let body ← g.statements
    endOfBlock
    return body
  | _ => g.simpleStatements

/-- An optional block after a word. -/
def wordBlock (g : Grammar) (word : String) : Reader (List Stmt) := do
  if ← skipWord word then g.block else return []

/-- A function definition from the word `def` on. -/
def functionDefinition (g : Grammar) (decorators : List Expr) (isAsync : Bool) (line : Nat) : Reader Stmt := do
  reserved "def"
  let name ← identifier
  op "("
  let params ← g.parameters
  op ")"
  let result ← if ← skipOp "->" then (some <$> g.expression) else pure Option.none
  let body ← g.block
  return .function ⟨name, isAsync, params, result, decorators, line, ← lastLine⟩ body

/-- A class definition. -/
def classDefinition (g : Grammar) (decorators : List Expr) : Reader Stmt := do
  let line ← Reader.line
  reserved "class"
  let name ← identifier
  let (bases, keywords) ← if ← skipOp "(" then do
      let args ← g.arguments
      op ")"
      pure args
    else pure ([], [])
  let body ← g.block
  return .classDef ⟨name, bases, keywords, decorators, line, ← lastLine⟩ body

/-- The decorators in front of a definition. -/
def decorators (g : Grammar) : Reader (List Expr) :=
  collect do
    if ← skipOp "@" then
      let e ← g.namedExpression
      endOfLine
      return some e
    else return Option.none

/-- A loop over values, from the word `for` on. -/
def forStatement (g : Grammar) : Reader Stmt := do
  reserved "for"
  let target ← g.starTargets
  reserved "in"
  let source ← g.starExpressions
  let body ← g.block
  let otherwise ← g.wordBlock "else"
  return .other [target, source] (body ++ otherwise)

/-- One resource of a `with` statement, with its optional target. -/
def resource (g : Grammar) : Reader (List Expr) := do
  let e ← g.expression
  let target : Reader (List Expr) := do
    reserved "as"
    let t ← g.starTarget
    guard (isOneOf [",", ")", ":"] (← peek))
    return [e, t]
  target <|> pure [e]

/-- The resources of a `with` statement, perhaps in brackets. -/
def resources (g : Grammar) : Reader (List Expr) :=
  bracketed <|> do
    let first ← g.resource
    let more ← collect do
      if ← skipOp "," then return some (← g.resource) else return Option.none
    return first ++ more.flatten
where
  /-- All resources inside one pair of brackets. -/
  bracketed : Reader (List Expr) := do
    op "("
    let (items, _) ← itemsUntil (isOp ")") g.resource
    op ")"
    guard (← atOp ":")
    return items.flatten

/-- A `with` statement, from the word `with` on. -/
def withStatement (g : Grammar) : Reader Stmt := do
  reserved "with"
  let items ← g.resources
  return .other items (← g.block)

/-- A chain of conditions with their blocks, from the word `word` on. -/
def ifStatement (g : Grammar) : Reader Stmt := do
  reserved "if"
  let test ← g.namedExpression
  let body ← g.block
  let more ← collect do
    if ← skipWord "elif" then
      let test ← g.namedExpression
      return some (test, ← g.block)
    else return Option.none
  let otherwise ← g.wordBlock "else"
  return .other (test :: more.map (·.1)) (body ++ (more.map (·.2)).flatten ++ otherwise)

/-- A loop on a condition. -/
def whileStatement (g : Grammar) : Reader Stmt := do
  reserved "while"
  let test ← g.namedExpression
  let body ← g.block
  let otherwise ← g.wordBlock "else"
  return .other [test] (body ++ otherwise)

/-- A handler of a `try` statement. All handlers of a statement take groups, or none does. -/
def handler (g : Grammar) (isGroup : Bool) : Reader (List Expr × List Stmt) := do
  reserved "except"
  if isGroup then op "*"
  if (← atOp ":") && !isGroup then return ([], ← g.block)
  else
    let e ← g.expression
    asName
    return ([e], ← g.block)

/-- A `try` statement: handlers and perhaps an `else` block, and perhaps a final block; not neither. -/
def tryStatement (g : Grammar) : Reader Stmt := do
  reserved "try"
  let body ← g.block
  if ← skipWord "finally" then return .other [] (body ++ (← g.block))
  else
    let isGroup := isOp "*" (← peekSecond)
    let first ← g.handler isGroup
    let more ← collect do
      if ← atWord "except" then return some (← g.handler isGroup) else return Option.none
    let handlers := first :: more
    let otherwise ← g.wordBlock "else"
    let final ← g.wordBlock "finally"
    return .other (handlers.map (·.1)).flatten (body ++ (handlers.map (·.2)).flatten ++ otherwise ++ final)

/-- One case of a `match` statement. -/
def caseBlock (g : Grammar) : Reader (List Expr × List Stmt) := do
  reserved "case"
  let pattern ← g.patterns
  let test ← if ← skipWord "if" then (List.singleton <$> g.namedExpression) else pure []
  return (pattern ++ test, ← g.block)

/-- The subject of a `match` statement. -/
def subject (g : Grammar) : Reader Expr := do
  let isStar ← atOp "*"
  let (items, trailing) ← itemsUntil (isOp ":") g.starNamedExpression
  match items with
  | [item] => if trailing then return .tuple items else (guard !isStar); return item
  | _ => return .tuple items

/-- A `match` statement. Its first word is not reserved, so what looks like one may be a simple statement. -/
def matchStatement (g : Grammar) : Reader Stmt := do
  reserved "match"
  let value ← g.subject
  op ":"
  endOfLine
  startOfBlock
  let first ← g.caseBlock
  let more ← collect do
    if ← atWord "case" then return some (← g.caseBlock) else return Option.none
  endOfBlock
  let cases := first :: more
  return .other (value :: (cases.map (·.1)).flatten) (cases.map (·.2)).flatten

/-- A statement that starts with `async`. -/
def asyncStatement (g : Grammar) (decorators : List Expr) : Reader Stmt := do
  let line ← Reader.line
  reserved "async"
  if ← atWord "def" then g.functionDefinition decorators true line
  else
    guard decorators.isEmpty
    if ← atWord "for" then g.forStatement else g.withStatement

/-- One compound statement, or a line of simple ones. -/
def readStatement (g : Grammar) : Reader (List Stmt) := do
  let one (p : Reader Stmt) : Reader (List Stmt) := do return [← p]
  match ← peek with
  | some (.op "@") =>
    let ds ← g.decorators
    match ← peek with
    | some (.word "class") => one (g.classDefinition ds)
    | some (.word "async") => one (g.asyncStatement ds)
    | _ => one (do g.functionDefinition ds false (← Reader.line))
  | some (.word "def") => one (do g.functionDefinition [] false (← Reader.line))
  | some (.word "class") => one (g.classDefinition [])
  | some (.word "async") => one (g.asyncStatement [])
  | some (.word "if") => one g.ifStatement
  | some (.word "for") => one g.forStatement
  | some (.word "while") => one g.whileStatement
  | some (.word "with") => one g.withStatement
  | some (.word "try") => one g.tryStatement
  | some (.word "match") => one g.matchStatement <|> g.simpleStatements
  | _ => g.simpleStatements

end Grammar

end CodeAtlas.Source
