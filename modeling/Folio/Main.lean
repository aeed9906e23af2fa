import Folio.Cli.TemplateTool

/-!
# The program

`folio site …` runs the site tool and `folio template …` the template tool. The files that a command
line names are read onto a disk first; all else is up to the tools.

* `loadPath`: read a file, or a folder with all in it.
* `pathsOf`: the paths that a command line names.
* **`main`**: run a tool.
-/

namespace Folio.Main

open Cli

/-- A path as an entry of the working folder. -/
def entryAt (path : String) : IO.FS.DirEntry :=
  { root := ".", fileName := path }

/-- Read a file, or a folder with all in it, onto a disk. What can not be read is left out. -/
def loadPath : Nat → Disk → String → IO Disk
  | 0, disk, _ => pure disk
  | depth + 1, disk, path => do
    if ← (entryAt path).path.isDir then
      let entries ← try (entryAt path).path.readDir catch _ => pure #[]
      entries.foldlM
        (fun disk entry => loadPath depth disk (joinPath path entry.fileName))
        (disk.put disk.home path .folder)
    else
      try
        let bytes ← IO.FS.readBinFile (entryAt path).path
        return disk.put disk.home path (.file bytes.toList)
      catch _ => return disk

/-- Folders are read this deep. -/
def maxDepth : Nat := 64

/-- The paths that a command line names. -/
def pathsOf (tool : ToolSpec) (words : List String) : List String :=
  match tool.parse words with
  | .error _ => []
  | .ok invocation =>
    let argument := ((tool.command? invocation.command).bind CommandSpec.argument).bind fun spec =>
      if spec.isPath then invocation.words.argument else none
    (tool.options.filter OptionSpec.isPath).filterMap
      (fun spec => invocation.global.value? spec.long) ++ argument.toList

/-- The disk with the files that a command line names. -/
def diskFor (tool : ToolSpec) (words : List String) : IO Disk := do
  let here := (← IO.currentDir).toString
  let home := (here.splitOn "/").filter (· ≠ "")
  let empty := ({ home := home } : Disk).put [] here .folder
  (pathsOf tool words).foldlM (loadPath maxDepth) empty

/-- Print a report. -/
def finish (tool : ToolSpec) (report : Report) : IO UInt32 := do
  IO.print report.stdout
  IO.eprint report.stderr
  match report.ending with
  | .success => pure ()
  | .usage => IO.eprint tool.help
  | .failure error => IO.eprintln ("Error: " ++ error.word)
  return report.ending.code.toUInt32

/-- Run a tool. -/
def runTool (tool : ToolSpec) (run : Disk → List String → Option Report) (words : List String) :
    IO UInt32 := do
  let report := run (← diskFor tool words) words
  finish tool (report.getD (.failed .aborted))

end Folio.Main

/-- **Run a tool**: the first word chooses which. -/
def main (words : List String) : IO UInt32 :=
  match words with
  | "site" :: words => Folio.Main.runTool Folio.Cli.siteTool Folio.Cli.runSiteTool words
  | "template" :: words =>
    Folio.Main.runTool Folio.Cli.templateTool
      (fun disk words => some (Folio.Cli.runTemplateTool disk words)) words
  | _ => do
    IO.eprintln "Usage: folio <site|template> ..."
    return 2
