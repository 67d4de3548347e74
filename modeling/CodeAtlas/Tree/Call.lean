import CodeAtlas.Tree.Basic

/-!
# Calls in a syntax tree

What a declaration calls is collected from the nodes of its body. The rule for a language says which names a node
calls.

## Main definitions

* `Calls.direct`: the rule for calls of a name or of a member.
* `Calls.inBody`: the names called in the body of a declaration, each once.
-/

namespace CodeAtlas.Calls

/-- A rule that says which names a node calls, given the kind of the node above it. -/
abbrev Rule := Option String → Tree → List String

/-- The calls in the first child of a kind, each once. -/
def inBody (rule : Rule) (body : String) (t : Tree) : List String :=
  match t.child? body with
  | some b => (b.collect rule (some t.kind)).eraseDups
  | none => []

/-- The name of a member: the first child of a kind inside the first child of another kind. -/
def memberName (member name : String) (t : Tree) : List String :=
  ((t.child? member).bind (·.childText? name)).toList

/-- A call node of kind `call` calls the name in its first `identifier`, or else the first `name` in its first
`member`. -/
def direct (call member name : String) : Rule := fun _ t =>
  if t.kind == call then
    match t.childText? "identifier" with
    | some n => [n]
    | none => memberName member name t
  else []

/-- A call node calls the name in its first `identifier`, or else the names of a field and of a path. -/
def fieldOrPath : Rule := fun _ t =>
  if t.kind == "call_expression" then
    match t.childText? "identifier" with
    | some n => [n]
    | none =>
      memberName "field_expression" "field_identifier" t ++ memberName "scoped_identifier" "identifier" t
  else []

/-- A node of one of some kinds calls the name in its first child of kind `name`. -/
def named (calls : List String) (name : String) : Rule := fun _ t =>
  if calls.contains t.kind then (t.childText? name).toList else []

/-- An invocation calls every identifier right below it, and the first identifier of every member access. -/
def invoked : Rule := fun _ t =>
  if t.kind == "invocation_expression" then
    t.children.flatMap fun c =>
      if c.kind == "identifier" then c.text?.toList
      else if c.kind == "member_access_expression" then (c.childText? "identifier").toList
      else []
  else []

/-- A call calls its first identifier, and an identifier right below a call is called too. -/
def anyIdentifier : Rule := fun above t =>
  if t.kind == "call" then (t.childText? "identifier").toList
  else if t.kind == "identifier" && above == some "call" then t.text?.toList
  else []

end CodeAtlas.Calls
