import CodeAtlas.Text.Quoted

/-!
# Failures

Everything that can go wrong in an operation, with the message for each cause.

## Main definitions

* `Failure`: the causes.
* `Failure.message`: the message of a cause.
-/

namespace CodeAtlas

/-- The cause of a failure. -/
inductive Failure where
  /-- A node that an operation relies on is not in the graph. -/
  | missingNode (id : Option String)
  /-- An exclusion pattern has no component. -/
  | emptyPattern
  /-- A logarithm was asked of a number that is not positive. -/
  | logarithmDomain
  /-- A transaction was started while another one was open. -/
  | nestedTransaction
  /-- A transaction was to be ended in a way, but none was open. -/
  | noTransaction (ending : String)
  /-- The database was to be compacted while a transaction was open. -/
  | compactInTransaction
  /-- A statement has more variables than are allowed. -/
  | tooManyVariables
  /-- A node without a name was to be stored. -/
  | missingName
  /-- A node without a kind was to be stored. -/
  | missingKind
  /-- Two nodes with one identifier were to be stored. -/
  | duplicateId
  /-- A whole number does not fit 64 bits. -/
  | integerRange
  /-- The database is closed. -/
  | closed
  /-- A file or directory may not be looked at. -/
  | denied (path : String)
  /-- An item was asked for that a list does not have. -/
  | missingItem
  deriving DecidableEq, Repr

/-- The message of a cause. -/
def Failure.message : Failure → String
  | .missingNode (some id) => Text.quoted id
  | .missingNode none => "None"
  | .emptyPattern => "empty pattern"
  | .logarithmDomain => "math domain error"
  | .nestedTransaction => "cannot start a transaction within a transaction"
  | .noTransaction ending => "cannot " ++ ending ++ " - no transaction is active"
  | .compactInTransaction => "cannot VACUUM from within a transaction"
  | .tooManyVariables => "too many SQL variables"
  | .missingName => "NOT NULL constraint failed: nodes.name"
  | .missingKind => "NOT NULL constraint failed: nodes.type"
  | .duplicateId => "UNIQUE constraint failed: nodes.id"
  | .integerRange => "Python int too large to convert to SQLite INTEGER"
  | .closed => "Cannot operate on a closed database."
  | .denied path => "[Errno 13] Permission denied: " ++ Text.quoted path
  | .missingItem => "list index out of range"

end CodeAtlas
