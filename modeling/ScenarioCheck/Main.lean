import ScenarioCheck.Cli.Check

/-! The command as a program. It reads the projects and the places that the arguments name, runs the
command on them, and puts out what it leads to. It knows no names of characters, so a module with an
escape that gives one counts as no module. -/
namespace ScenarioCheck.Cli

open Project

/-- A disk with what is at a path: a file, or a directory and all that lies below it. What cannot be
read is left out. -/
partial def gather (d : Disk) (names : Names) : IO Disk := do
  let place := (← IO.currentDir) / Path.shown ⟨"/", names⟩
  if ← place.isDir then
    let mut d := d.addDirectory names
    for entry in ← (try place.readDir catch _ => pure #[]) do
      d ← gather d (names ++ [entry.fileName])
    return d
  else
    match ← (IO.FS.readBinFile place).toBaseIO with
    | .ok content => return d.write names content
    | .error _ => return d

/-- A disk with a directory, if it is one, but nothing in it. -/
def addBare (d : Disk) (names : Names) : IO Disk := do
  let place := (← IO.currentDir) / Path.shown ⟨"/", names⟩
  return if ← place.isDir then d.addDirectory names else d

partial def projectOf? (names : Names) : IO (Option Names) := do
  let file := (← IO.currentDir) / Path.shown ⟨"/", names ++ [Configuration.fileName]⟩
  if ← file.pathExists then return some names
  else if names.isEmpty then return none
  else projectOf? names.dropLast

def workplaceOf (o : Options) : IO Workplace := do
  let current := Path.ofText (← IO.currentDir).toString
  let placed (paths : List Path) : List Names := paths.map fun p => (Path.resolve current p).parts
  let projects ← (placed (current :: o.paths)).filterMapM projectOf?
  let configured := placed (o.config?.toList.map (·.parent))
  let named := (projects ++ configured ++ placed o.paths).eraseDups
  let d ← named.foldlM gather ({} : Disk)
  let d ← (placed (current :: o.output?.toList.flatMap fun p => [p.parent, p])).foldlM addBare d
  return { disk := d, current }

def conclude (o : Options) (outcome : Outcome) : IO UInt32 := do
  for n in outcome.notices do IO.eprintln (noticeLine o n)
  IO.eprint outcome.complaint
  let written ← EIO.toIO' <| match outcome.delivery with
  | .printed text => IO.print text
  | .saved file text => do IO.FS.writeFile ((← IO.currentDir) / file.shown) text
  match written with
  | .ok _ => return UInt32.ofNat outcome.code
  | .error fault =>
    IO.eprintln ("Error: " ++ toString fault)
    return 2

def program (arguments : List String) : IO UInt32 := do
  let o := (Options.ofArguments arguments).toOption.getD {}
  let w ← workplaceOf o
  conclude o (execute w { isTerminal := ← (← IO.getStdout).isTty } arguments)

end ScenarioCheck.Cli

def main (arguments : List String) : IO UInt32 := ScenarioCheck.Cli.program arguments
