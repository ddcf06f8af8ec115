import ChartTrace.FileTree
import ChartTrace.Processing

namespace ChartTrace

/-!
# Charts

A chart is a directory with a chart file.  Its templates may read the other files of the chart.

* `findChartRoot?`: the nearest directory above a template that is a chart.
* `collectFiles`: the chart files that a template may read.
* `isChartInput`: files that describe a chart and are not rendered on their own.
* `templateName`: the name of a template in its chart.
-/

/-- The file that makes a directory a chart. -/
def chartFileName : List Char := "Chart.yaml".toList

/-- The extensions of files that templates may read. -/
def includedExtensions : List (List Char) :=
  ["yaml", "yml", "tpl", "txt", "toml", "properties"].map String.toList

/-- The nearest chart above a template that lies at or below `base`. -/
def findChartRoot? (tree : FileTree) (template : Path) (base : Option Path) : Option Path :=
  let inside := template.ancestors.takeWhile fun directory => base.all directory.startsWith
  inside.find? fun directory => tree.isFile (directory.join ⟨.none, [chartFileName]⟩)

/-- Whether templates may read a file. -/
def isIncluded (p : Path) : Bool := p.extension?.any includedExtensions.contains

/-- Reads the files of a chart that its template may read, by their path below the chart. -/
def collectFiles (tree : FileTree) (root template : Path) : Except ProcessingError FileMap :=
  let candidates := (tree.filesUnder root).filter fun p => isIncluded p && !decide (p.Same template)
  candidates.foldlM
    (fun files p =>
      match p.relativeTo? root with
      | none => .ok files
      | some relative =>
        match tree.readText p with
        | .ok content => .ok (files.insert (relative.forwardText, content))
        | .error e => .error (.unreadableDependency template.toString relative.forwardText e.message))
    .empty

/-- The names of files that describe the chart in whose root they lie. -/
def inputNames : List (List Char) := ["values.yaml", "values.yml", "Chart.yaml"].map String.toList

/-- Whether a file is an input of its chart: a file of named templates, or one that describes the chart. -/
def isChartInput (p : Path) (root : Option Path) : Bool :=
  p.extension? == some "tpl".toList ||
    (match root, p.parent? with
      | some root, some directory =>
        decide (directory.Same root) && p.fileName?.any inputNames.contains
      | _, _ => false)

/-- The name of a template: its path from the directory that holds the chart. -/
def templateName (root template : Path) : String :=
  ((template.relativeTo? (root.parent?.getD root)).getD template).forwardText

end ChartTrace
