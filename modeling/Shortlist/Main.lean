import Shortlist.Check.Run
/-! The program around the check: it reads what the command line names, and prints the outcome. -/
namespace Shortlist.Check

def addFile (fs : Files) (path : String) : IO Files := do
  try return fs.apply (.write (.ofText path) (← IO.FS.readBinFile path))
  catch _ => return fs

/-- The files of a folder and of the folders in it. What cannot be read is left out. -/
partial def addFolder (fs : Files) (path : String) : IO Files := do
  try
    let entries ← (← IO.FS.realPath path).readDir
    entries.foldlM (fun fs e => do
      let inner := path ++ "/" ++ e.fileName
      if ← e.path.isDir then addFolder fs inner else addFile fs inner)
      (fs.makeFolder (.ofText path))
  catch _ => return fs

/-- The files that a command looks at. The folder of plans is made if it is missing. -/
def commandFiles (fs : Files) (c : Command) : IO Files := do
  let fs ← match c.target with
    | .file path => addFile fs path
    | .plan _ => do
      try IO.FS.createDirAll c.dir catch _ => pure ()
      addFolder fs c.dir
    | .nothing => pure fs
  addFile (← addFile fs c.user) c.items

def variableNames (text : String) : List String :=
  text.splitToList (fun c => !(Text.isAlphanumeric c || c = '_'))

def processVariables (text : String) : IO Environment := do
  let names := "RECFLOW_FILTER_DIR" :: variableNames text
  names.foldlM (fun env name => do
    match ← IO.getEnv name with
    | some v => return env.insert name v
    | none => return env) (∅ : Environment)

def runProgram (words : List String) : IO Outcome := do
  let fs ← addFile ∅ (Path.text envFile)
  let env ← processVariables ((fs.read? envFile).getD "")
  let fs ← match parseWords {} words with
    | .arguments a =>
      match a.command? (environment fs env) with
      | some c => commandFiles fs c
      | none => pure fs
    | _ => pure fs
  return run words env fs

end Shortlist.Check

def main (words : List String) : IO UInt32 := do
  let outcome ← Shortlist.Check.runProgram words
  for line in outcome.output do IO.println line
  if outcome.exit = 2 then IO.eprintln Shortlist.Check.usageText
  match outcome.complaint with
  | some text => IO.eprintln text
  | none => pure ()
  return outcome.exit.toUInt32
