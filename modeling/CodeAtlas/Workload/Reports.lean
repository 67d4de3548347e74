import CodeAtlas.Failure
import CodeAtlas.Report

/-!
# Made-up reports

All kinds of reports about made-up classes.

## Main definitions

* `reportNode`: a class.
* `ReportSample`, `sampleReports`: the first and the last class as they are reported, and the lengths of the reports.
-/

namespace CodeAtlas.Workload

/-- A class. -/
def reportNode (i : Nat) : Node :=
  let name := "Cls" ++ toString i
  let id := "pkg/mod.py:" ++ name
  { id := some id, name := some name, kind := some "class", parent := some "pkg/mod.py"
    filePath := some "pkg/mod.py", firstLine := some i, lastLine := some (i + 10)
    signature := some ("class " ++ name ++ "(Base)"), docstring := some "Doc text"
    children := [some (id ++ ".m")], calls := ["helper", "compute"], bases := ["Base"], language := some "python" }

/-- Some numbers. -/
def reportStats : Stats := ⟨1, 2, 3, 4⟩

/-- The reports about a class. -/
def reportsAbout (n : Node) : List Json :=
  [Report.map (some "project") (some "/project") reportStats.tally [(some "pkg", reportStats.tally)],
    Report.expand n [n] fun _ => reportStats.tally, Report.inspect n n.calls [some "x"],
    Report.search "q" [(n, 0.5)], Report.hierarchy "Base" [n]]

/-- What is shown of some reports. -/
structure ReportSample where
  /-- The number of classes. -/
  count : Nat
  /-- The first class. -/
  first : Json
  /-- The last class. -/
  last : Json
  /-- The lengths of the reports about the first class. -/
  lengths : List Nat

/-- Reports about some classes, of which there has to be one. -/
def sampleReports (count : Nat) : Except Failure ReportSample :=
  let nodes := (List.range count).map reportNode
  match nodes.head?, nodes.getLast? with
  | some first, some last =>
    .ok ⟨count, Report.ofNode first, Report.ofNode last, (reportsAbout first).map (·.indented.length)⟩
  | _, _ => .error .missingItem

end CodeAtlas.Workload
