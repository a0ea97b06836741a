import OutlineLint.CommandLine

/-! The program. It reads the arguments, lists the folder that they lead to, and prints what the
    check says. Everything else is decided without the file system, in `Options.run`. -/

namespace OutlineLint

/-- How the program is called. -/
def usage : String :=
  "Usage: outline-lint [-a|--agents-dir DIR] [-f|--format text|json] [--debug PATTERN]..."
    ++ " [--show-structure]\n"

/-- What is found at a path on the disk. -/
def listDisk (dir : Text) : IO Listing := do
  if dir.isEmpty then return .missing
  let folder := (← IO.currentDir) / String.ofList dir
  unless ← folder.pathExists do return .missing
  unless ← folder.isDir do return .file
  let entries ← (← folder.readDir).toList.filterMapM fun e => do
    let name := e.fileName.toUTF8.toList
    if (← e.path.metadata).type == .file then
      return some (name, .file (← IO.FS.readBinFile e.path).toList)
    else return none
  return .folder entries

/-- Checks the documents of the folder that the options lead to, and prints the outcome. The root is
    the folder above the one that holds the program. -/
def runOptions (o : Options) : IO UInt32 := do
  let root := ((← IO.appDir).parent.map toString).getD "."
  let output := o.run root.toList (← listDisk (o.target root.toList))
  (← IO.getStdout).putStr (String.ofList output.stdout)
  (← IO.getStderr).putStr (String.ofList output.stderr)
  return output.exitCode

end OutlineLint

/-- Runs the command line. -/
def main (args : List String) : IO UInt32 := do
  match OutlineLint.Invocation.ofArguments (args.map String.toList) with
  | .check o => OutlineLint.runOptions o
  | .help => IO.print OutlineLint.usage; return 0
  | .refused => IO.eprint OutlineLint.usage; return 2
