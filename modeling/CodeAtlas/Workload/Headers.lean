import CodeAtlas.Source.Outline

/-!
# Made-up headers

A made-up source text of functions with many parameters of every kind, and the signatures that are found in it.

## Main definitions

* `headerText`: the source text.
* `headerSignatures`: the signatures in it.
-/

namespace CodeAtlas.Workload

/-- Twelve names that start with a letter. -/
def twelve (letter : String) : List String :=
  (List.range 12).map fun i => letter ++ toString i

/-- A function with parameters of every kind. -/
def wideHeader (i : Nat) : String :=
  let names := twelve "a" ++ ["/"] ++ twelve "b" ++ ["*v"] ++ twelve "k" ++ ["**kw"]
  "def f" ++ toString i ++ "(" ++ Text.joinWith ", " names ++ "):\n    pass\n"

/-- Functions with annotated parameters, and a class. -/
def fixedHeaders : String :=
  "def g(a, b: int = 1, /, c: int = 2, *v: int, d: str, e=3, **kw: dict) -> int:\n    return 1\n" ++
    "async def h(p, q) -> None:\n    pass\nclass C(Base, dict):\n    pass\n"

/-- The source text. -/
def headerText (count : Nat) : String :=
  String.join ((List.range count).map wideHeader) ++ fixedHeaders

/-- The signatures in the source text. -/
def headerSignatures (count : Nat) : List String :=
  (Source.outlineBytes (.relative ["sample.py"]) (headerText count).toUTF8).entities.map (·.signature)

end CodeAtlas.Workload
