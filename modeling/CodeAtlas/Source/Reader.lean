import CodeAtlas.Source.Token
import CodeAtlas.Text.Normal

/-!
# Reading tokens

A reader takes tokens from the front of a list and gives a value, or fails. Failure has no cause: a text is
either readable or not.

## Main definitions

* `Reader`: readers, with their monad and choice.
* `op`, `reserved`, `identifier`, `layout`: readers of one token.
* `collect`: a step repeated until it says that it is done.
-/

namespace CodeAtlas.Source

/-- The tokens not yet read, and the last line of the last token read that is not mere layout. -/
structure ReaderState where
  /-- The tokens not yet read. -/
  rest : List Token
  /-- The last line that was read. -/
  lastLine : Nat

/-- A reader of tokens. -/
def Reader (α : Type) : Type :=
  ReaderState → Option (α × ReaderState)

namespace Reader

variable {α β : Type}

/-- The reader that reads nothing. -/
protected def pure (a : α) : Reader α := fun s => some (a, s)

/-- One reader, then another that depends on its value. -/
protected def bind (p : Reader α) (f : α → Reader β) : Reader β := fun s =>
  match p s with
  | some (a, s) => f a s
  | none => none

instance : Monad Reader where
  pure := Reader.pure
  bind := Reader.bind

/-- The first reader, or the second from the same place if the first fails. -/
protected def orElse (p : Reader α) (q : Unit → Reader α) : Reader α := fun s =>
  match p s with
  | some r => some r
  | none => q () s

instance : Alternative Reader where
  failure := fun _ => none
  orElse := Reader.orElse

/-- An optional value as a reader. -/
def lift (o : Option α) : Reader α := fun s => o.map (·, s)

/-- What the next token is. -/
def peek : Reader (Option Kind) := fun s => some (s.rest.head?.map (·.kind), s)

/-- What the token after the next is. -/
def peekSecond : Reader (Option Kind) := fun s => some ((s.rest.drop 1).head?.map (·.kind), s)

/-- The next token. -/
def next : Reader Token := fun s =>
  match s.rest with
  | [] => none
  | t :: ts => some (t, ⟨ts, if t.kind.isLayout then s.lastLine else t.lastLine⟩)

/-- The line of the next token. -/
def line : Reader Nat := fun s => some ((s.rest.head?.map (·.line)).getD 0, s)

/-- The last line that was read. -/
def lastLine : Reader Nat := fun s => some (s.lastLine, s)

/-- Whether a token is the operator `text`. -/
def isOp (text : String) : Option Kind → Bool
  | some (.op o) => o == text
  | _ => false

/-- Whether a token is the reserved word `text`. -/
def isWord (text : String) : Option Kind → Bool
  | some (.word w) => w == text
  | _ => false

/-- Whether the next token is the operator `text`. -/
def atOp (text : String) : Reader Bool := return isOp text (← peek)

/-- Whether the next token is the word `text`. -/
def atWord (text : String) : Reader Bool := return isWord text (← peek)

/-- The operator `text`. -/
def op (text : String) : Reader Unit := do
  guard (isOp text (← peek))
  discard next

/-- The word `text`. -/
def reserved (text : String) : Reader Unit := do
  guard (isWord text (← peek))
  discard next

/-- The operator `text` if it is next, and whether it was. -/
def skipOp (text : String) : Reader Bool := do
  if ← atOp text then
    discard next
    return true
  else return false

/-- The word `text` if it is next, and whether it was. -/
def skipWord (text : String) : Reader Bool := do
  if ← atWord text then
    discard next
    return true
  else return false

/-- A name that is not reserved, in normal form. -/
def identifier : Reader String := do
  match (← next).kind with
  | .word w => if isKeyword w then failure else return Text.normalName w
  | _ => failure

/-- The end of a logical line. -/
def endOfLine : Reader Unit := do
  match (← next).kind with
  | .newline => return ()
  | _ => failure

/-- The start of a block. -/
def startOfBlock : Reader Unit := do
  match (← next).kind with
  | .indent => return ()
  | _ => failure

/-- The end of a block. -/
def endOfBlock : Reader Unit := do
  match (← next).kind with
  | .dedent => return ()
  | _ => failure

/-- The values of a step that is repeated until it gives none, at most `count` times. -/
def collectUpTo (step : Reader (Option α)) : Nat → Reader (List α)
  | 0 => return []
  | count + 1 => do
    match ← step with
    | none => return []
    | some a => return a :: (← collectUpTo step count)

/-- The values of a step that is repeated until it gives none. Every repetition reads a token, so there are at most
as many as tokens. -/
def collect (step : Reader (Option α)) : Reader (List α) := fun s =>
  collectUpTo step (s.rest.length + 1) s

/-- Items with commas between them, from the given first one up to a token that `stop` accepts; a comma may follow
the last item. Also says whether one did. -/
def itemsAfter (stop : Option Kind → Bool) (item : Reader α) (first : α) : Reader (List α × Bool) := do
  let step : Reader (Option α) := do
    if isOp "," (← peek) && !stop (← peekSecond) then
      discard next
      return some (← item)
    else return none
  let more ← collect step
  let trailing ← skipOp ","
  return (first :: more, trailing)

/-- At least one item, with commas between them, up to a token that `stop` accepts. -/
def itemsUntil (stop : Option Kind → Bool) (item : Reader α) : Reader (List α × Bool) := do
  itemsAfter stop item (← item)

end Reader

end CodeAtlas.Source
