import CodeAtlas.Language.Registry
import CodeAtlas.Workload.Sample

/-!
# Made-up source files

The syntax tree of a made-up source file is the sample of its language, repeated as its text says.

## Main definitions

* `sampleReader`: made-up syntax trees for texts.
* `sampleText`: a text that asks for a number of repetitions.
* `sampleOutlines`: the outlines of made-up files of a language.
-/

namespace CodeAtlas.Workload

/-- The samples by the grammars of the files that they are made for. -/
def samples : List (String × Shape) :=
  [("python", python), ("javascript", script), ("typescript", script), ("tsx", script), ("go", go), ("rust", rust),
    ("java", java), ("c", cFamily), ("cpp", cFamily), ("csharp", csharp), ("php", php), ("ruby", ruby)]

/-- Made-up syntax trees. A text of unknown kind has no declarations. -/
def sampleReader : SyntaxReader := fun grammar text =>
  match samples.lookup grammar with
  | some shape => shape.build text
  | none => emptyTree

/-- A text that asks for a number of repetitions. -/
def sampleText (count : Nat) : String :=
  String.ofList (List.replicate (2 * count) '\n')

/-- The suffixes of the files that are made up for a language. -/
def sampleSuffixes (language : String) : List String :=
  match language with
  | "python" => [".py"]
  | "javascript" => [".js", ".jsx", ".ts", ".tsx"]
  | "go" => [".go"]
  | "rust" => [".rs"]
  | "java" => [".java"]
  | "c_cpp" => [".c", ".cpp", ".h"]
  | "csharp" => [".cs"]
  | "php" => [".php"]
  | "ruby" => [".rb"]
  | _ => []

/-- The outlines of made-up files of a language, one for each suffix, and of a file that is missing. -/
def sampleOutlines (l : Language) (count : Nat) : List Outline :=
  let outline (content : Option ByteArray) (suffix : String) : Outline :=
    l.outline sampleReader (.relative ["sample" ++ suffix]) content
  (sampleSuffixes l.name).map (outline (some (sampleText count).toUTF8)) ++ [outline none ".missing"]

end CodeAtlas.Workload
