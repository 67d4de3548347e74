import CodeAtlas.Source.Grammar.Expression

/-!
# The grammar of patterns

A pattern is read for its form. Of its content only the expressions of formatted texts can matter later, so a
pattern is given by the expressions in it.

## Main definitions

* `Grammar.readPattern`: one pattern, with its alternatives and its name.
* `Grammar.patterns`: what stands between `case` and its guard.
-/

namespace CodeAtlas.Source

open Reader

namespace Grammar

/-- A name that a pattern binds: not the wildcard, and not the start of a longer form. -/
def captureTarget : Reader Unit := do
  let name ← identifier
  guard (name != "_")
  guard !(isOneOf [".", "(", "="] (← peek))

/-- A number with an optional minus, and whether it is imaginary. -/
def signedNumber : Reader Bool := do
  discard (skipOp "-")
  match (← next).kind with
  | .number (.imaginary _) => return true
  | .number _ => return false
  | _ => failure

/-- A literal: a number, a sum or difference of a real and an imaginary number, a text, or a constant. -/
def literalPattern (g : Grammar) : Reader (List Expr) := do
  match ← peek with
  | some (.quoted _) => return [← lift (joinQuoted g.embedded (← quotedRun))]
  | some (.word "None") | some (.word "True") | some (.word "False") => discard next; return []
  | _ =>
    let isImaginary ← signedNumber
    if isOneOf ["+", "-"] (← peek) then
      discard next
      guard !isImaginary
      match (← next).kind with
      | .number (.imaginary _) => return []
      | _ => failure
    else return []

/-- Names with dots between them, and whether there is more than one. -/
def dottedName : Reader Bool := do
  discard identifier
  let more ← collect do
    if ← skipOp "." then return some (← identifier) else return Option.none
  return !more.isEmpty

/-- A pattern or a starred name. -/
def starPattern (g : Grammar) : Reader (List Expr) := do
  if ← skipOp "*" then
    if ← skipWord "_" then return []
    captureTarget
    return []
  else g.pattern

/-- The patterns of a sequence up to a closing bracket, which is read. Also says how many there are and whether a
comma follows the last. -/
def sequenceItems (g : Grammar) (close : String) : Reader (List Expr × Nat × Bool) := do
  if ← skipOp close then return ([], 0, false)
  let (items, trailing) ← itemsUntil (isOp close) g.starPattern
  op close
  return (items.flatten, items.length, trailing)

/-- A key and its pattern in a mapping. -/
def mappingItem (g : Grammar) : Reader (List Expr) := do
  let key ← match ← peek with
    | some (.word w) =>
      if isKeyword w then g.literalPattern
      else do
        guard (← dottedName)
        pure []
    | _ => g.literalPattern
  op ":"
  return key ++ (← g.pattern)

/-- The items of a mapping up to its closing bracket, which is read. The remaining pairs may be bound at the end. -/
def mappingItems (g : Grammar) : Reader (List Expr) := do
  if ← skipOp "\x7d" then return []
  let rest : Reader (Bool × List Expr) := do
    op "**"
    captureTarget
    return (true, [])
  let pair : Reader (Bool × List Expr) := do return (false, ← g.mappingItem)
  let (items, _) ← itemsUntil (isOp "\x7d") (do if ← atOp "**" then rest else pair)
  op "\x7d"
  guard !((items.dropLast).any (·.1))
  return (items.map (·.2)).flatten

/-- An argument of a class pattern, and whether it has a name. -/
def classArgument (g : Grammar) : Reader (Bool × List Expr) := do
  match ← peek, ← peekSecond with
  | some (.word w), some (.op "=") =>
    guard !(isKeyword w)
    discard next
    discard next
    return (true, ← g.pattern)
  | _, _ => return (false, ← g.pattern)

/-- The arguments of a class pattern up to the closing bracket, which is read. Those with names come last. -/
def classArguments (g : Grammar) : Reader (List Expr) := do
  if ← skipOp ")" then return []
  let (items, _) ← itemsUntil (isOp ")") g.classArgument
  op ")"
  guard !((items.dropWhile (!·.1)).any (!·.1))
  return (items.map (·.2)).flatten

/-- A pattern that needs no brackets. -/
def closedPattern (g : Grammar) : Reader (List Expr) := do
  match ← peek with
  | some (.op "(") =>
    discard next
    let isStar ← atOp "*"
    let (inner, count, trailing) ← g.sequenceItems ")"
    -- brackets around one pattern only group it, and a group has no star
    guard !(isStar && count == 1 && !trailing)
    return inner
  | some (.op "[") =>
    discard next
    return (← g.sequenceItems "]").1
  | some (.op "\x7b") =>
    discard next
    g.mappingItems
  | some (.word w) =>
    if w == "_" then
      discard next
      return []
    else if isKeyword w then g.literalPattern
    else
      discard dottedName
      if ← skipOp "(" then g.classArguments
      else
        guard !(← atOp "=")
        return []
  | _ => g.literalPattern

/-- A pattern: alternatives, and an optional name for what they match. -/
def readPattern (g : Grammar) : Reader (List Expr) := do
  let first ← g.closedPattern
  let more ← collect do
    if ← skipOp "|" then return some (← g.closedPattern) else return Option.none
  if ← skipWord "as" then captureTarget
  return first ++ more.flatten

/-- What stands between `case` and its guard: a pattern, or a sequence without brackets. -/
def patterns (g : Grammar) : Reader (List Expr) := do
  let ends : Option Kind → Bool := fun k => isOp ":" k || isWord "if" k
  let isStar ← atOp "*"
  let (items, trailing) ← itemsUntil ends g.starPattern
  -- a single star is no sequence unless a comma follows it
  guard !(isStar && items.length == 1 && !trailing)
  return items.flatten

end Grammar

end CodeAtlas.Source
