import CodeAtlas.Source.Stmt

/-!
# Calls in source text

The names that a definition calls: for a call of a name, that name; for a call of an attribute, the attribute.

## Main definitions

* `Expr.calls`, `Stmt.calls`: the names called in an expression or a statement, with repetitions.
* `functionCalls`: the names that a function definition calls, each once.
-/

namespace CodeAtlas.Source

/-- The name under which a function expression is called. -/
def calledName : Expr → List String
  | .name id => [id]
  | .attribute _ attr => [attr]
  | _ => []

mutual

/-- The names called in an expression. -/
def Expr.calls : Expr → List String
  | .const _ | .name _ | .formatText _ => []
  | .attribute value _ => value.calls
  | .subscript value index => value.calls ++ index.calls
  | .slice lower upper step => optionCalls lower ++ optionCalls upper ++ optionCalls step
  | .call function args keywords => calledName function ++ function.calls ++ listCalls args ++ listCalls keywords
  | .keyword _ value => value.calls
  | .starred value => value.calls
  | .unary _ operand => operand.calls
  | .binary _ left right => left.calls ++ right.calls
  | .compare left _ operands => left.calls ++ listCalls operands
  | .connect _ operands => listCalls operands
  | .choice body test otherwise => body.calls ++ test.calls ++ otherwise.calls
  | .lambda _ _ _ _ _ defaults keyDefaults body => listCalls defaults ++ optionsCalls keyDefaults ++ body.calls
  | .tuple items => listCalls items
  | .list items => listCalls items
  | .set items => listCalls items
  | .dict items => listCalls items
  | .pair key value => key.calls ++ value.calls
  | .unpacked value => value.calls
  | .comprehension _ item clauses => item.calls ++ listCalls clauses
  | .dictComprehension key value clauses => key.calls ++ value.calls ++ listCalls clauses
  | .clause _ target source conditions => target.calls ++ source.calls ++ listCalls conditions
  | .yield value => optionCalls value
  | .yieldFrom value => value.calls
  | .await value => value.calls
  | .named _ value => value.calls
  | .formatted parts => listCalls parts
  | .formatField value _ format => value.calls ++ formatCalls format

/-- The names called in some expressions. -/
def listCalls : List Expr → List String
  | [] => []
  | e :: es => e.calls ++ listCalls es

/-- The names called in an optional expression. -/
def optionCalls : Option Expr → List String
  | none => []
  | some e => e.calls

/-- The names called in some optional expressions. -/
def optionsCalls : List (Option Expr) → List String
  | [] => []
  | e :: es => optionCalls e ++ optionsCalls es

/-- The names called in an optional format. -/
def formatCalls : Option (List Expr) → List String
  | none => []
  | some es => listCalls es

end

/-- The expressions of a parameter list. -/
def Params.values (p : Params Expr) : List Expr :=
  let hints := (p.posOnly ++ p.regular ++ p.variadic.toList ++ p.keyOnly ++ p.keyVariadic.toList).filterMap
    (·.ascription)
  hints ++ p.defaults ++ p.keyDefaults.filterMap id

/-- The expressions of a function header. -/
def FunctionHeader.values (h : FunctionHeader) : List Expr :=
  h.decorators ++ h.params.values ++ h.result.toList

/-- The expressions of a class header. -/
def ClassHeader.values (h : ClassHeader) : List Expr :=
  h.decorators ++ h.bases ++ h.keywords

mutual

/-- The names called in a statement. -/
def Stmt.calls : Stmt → List String
  | .expression value => value.calls
  | .function header body => listCalls header.values ++ bodyCalls body
  | .classDef header body => listCalls header.values ++ bodyCalls body
  | .other values body => listCalls values ++ bodyCalls body

/-- The names called in some statements. -/
def bodyCalls : List Stmt → List String
  | [] => []
  | s :: ss => s.calls ++ bodyCalls ss

end

/-- The names that a function definition calls, each once. -/
def functionCalls (header : FunctionHeader) (body : List Stmt) : List String :=
  (listCalls header.values ++ bodyCalls body).eraseDups

end CodeAtlas.Source
