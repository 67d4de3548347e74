import CodeAtlas.Language.Registry

/-!
# Made-up lookups

Files with all suffixes of the known languages are looked up, and so is a language by its name.

## Main definitions

* `LookupSample`, `sampleLookups`: how many lookups succeeded, and how many languages and suffixes there are.
-/

namespace CodeAtlas.Workload

/-- What is counted. -/
structure LookupSample where
  /-- How many files have a language. -/
  found : Nat
  /-- How many files are supported. -/
  supported : Nat
  /-- How many names are of a language. -/
  named : Nat
  /-- How many languages there are. -/
  languageCount : Nat
  /-- How many suffixes there are. -/
  suffixCount : Nat
  /-- Whether every language is found by its own name. -/
  consistent : Bool

/-- The files that are looked up in each round. -/
def lookupPaths : List Path :=
  Language.allExtensions.map fun suffix => .relative ["pkg", "file" ++ suffix]

/-- Some rounds of lookups. -/
def sampleLookups (rounds : Nat) : LookupSample where
  found := rounds * (lookupPaths.countP fun p => (Language.forPath? p).isSome)
  supported := rounds * (lookupPaths.countP fun p => languages.any (·.supports p))
  named := rounds * (["Python"].countP fun name => (Language.named? name).isSome)
  languageCount := languages.length
  suffixCount := Language.allExtensions.length
  consistent := languages.all fun l => (Language.named? l.name).isSome

end CodeAtlas.Workload
