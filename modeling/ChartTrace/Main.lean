import ChartTrace.CommandLine.Exit

namespace ChartTrace

/-!
# The program

The outer layer: it copies the files that an invocation may look at into a file tree, runs the invocation
there and prints the result.  Programs on the disk are copied as plain files, so that no other program is
ever started.
-/

/-- The paths at which an invocation looks, apart from the files of a chart. -/
def Invocation.paths (i : Invocation) (tree : FileTree) (around : Surroundings) : List Path :=
  let settings := match i.config with
    | some file => [file]
    | none => (tree.currentPath :: around.home.toList).map (·.join Settings.fileName)
  let nearCharts (file : Path) : List Path :=
    file :: file.ancestors.map (·.join ⟨.none, [chartFileName]⟩)
  let files := match i.task with
    | .annotate file | .clean file _ => [file]
    | .evaluate file _ _ => nearCharts file
    | .detect files => files.flatMap nearCharts
  settings ++ files

/-- A tree with a file at a path and directories before it. -/
def FileTree.withFile (tree : FileTree) (p : Path) (bytes : Bytes) : FileTree :=
  let result := do
    let tree ← match p.parent? with
      | some directory => tree.makeDirectories directory
      | none => pure tree
    tree.write p (.bytes bytes)
  result.toOption.getD tree

/-- Copies a file or an empty directory into a tree.  What cannot be read is left out. -/
def copyPath (tree : FileTree) (p : Path) : IO FileTree := do
  try
    let file ← IO.FS.realPath p.toString
    if ← file.isDir then return (tree.makeDirectories p).toOption.getD tree
    return tree.withFile p (← IO.FS.readBinFile p.toString).data.toList
  catch _ => return tree

/-- Copies a directory into a tree, at most `depth` directories deep. -/
def copyDirectory : Nat → FileTree → Path → IO FileTree
  | 0, tree, _ => return tree
  | depth + 1, tree, p => do
    try
      let directory ← IO.FS.realPath p.toString
      let mut tree := tree
      for entry in ← directory.readDir do
        let inner := p.join (.ofString entry.fileName)
        if ← entry.path.isDir then tree ← copyDirectory depth tree inner
        else tree ← copyPath tree inner
      return tree
    catch _ => return tree

/-- How deep the directories of a chart are copied. -/
def directoryDepth : Nat := 64

/-- Copies what an invocation may look at. -/
def copyFor (i : Invocation) (tree : FileTree) (around : Surroundings) : IO FileTree := do
  let mut tree := (tree.makeDirectories tree.currentPath).toOption.getD tree
  for p in i.paths tree around do tree ← copyPath tree p
  match i.task with
  | .evaluate template chart _ =>
    match chart <|> findChartRoot? tree template none with
    | some root => tree ← copyDirectory directoryDepth tree root
    | none => pure ()
    match i.settings tree around with
    | .ok settings =>
      let name := Path.ofString (Platform.host.executableName settings.executableName)
      tree ← copyPath tree ((settings.resolveBundleDirectory around).join name)
    | .error _ => pure ()
  | _ => pure ()
  return tree

/-- The directories around the program. -/
def readSurroundings : IO Surroundings := do
  let home := (← IO.getEnv "HOME").filter (!·.isEmpty)
  let temporary := (← IO.getEnv "TMPDIR").getD "/tmp"
  return ⟨home.map .ofString, .ofString temporary, .ofString (← IO.appDir).toString⟩

/-- Runs the program with its arguments. -/
def runMain (arguments : List String) : IO Exit := do
  match readArguments arguments with
  | .error problem => return problem.exit
  | .ok i =>
    let around ← readSurroundings
    let here := Path.ofString (← IO.currentDir).toString
    let tree ← copyFor i ⟨[], (here.segments.filter fun s => !isVacant s).reverse⟩ around
    return runProgram tree around arguments

end ChartTrace

/-- The entry point. -/
def main (arguments : List String) : IO UInt32 := do
  let exit ← ChartTrace.runMain arguments
  IO.print exit.stdout
  IO.eprint exit.stderr
  return exit.code.toUInt32
