import Shortlist.Document.Format
import Shortlist.Library.Files
import Shortlist.Plan
/-! Filter documents in a folder, and the plans installed from them. A document that does not
compile never replaces a plan that is installed already. -/
namespace Shortlist

/-! ### One file -/

inductive LibraryError where
  | io
  | syntaxOf (f : Format)
  | watcher
  | validation (reason : String)
  | compile (e : CompileError)

/-- Without the details that a reader of bytes or of a format would add. -/
def LibraryError.message : LibraryError → String
  | .io => "IO error"
  | .syntaxOf .yaml => "YAML parse error"
  | .syntaxOf .json => "JSON parse error"
  | .watcher => "Notify watcher error"
  | .validation reason => "Validation error: " ++ reason
  | .compile e => "Compile error: " ++ e.message

def Format.ofExtension? (extension : FileName) : Option Format :=
  if extension = .ofText "json" then some .json
  else if extension = .ofText "yml" ∨ extension = .ofText "yaml" then some .yaml
  else none

def Path.format? (p : Path) : Option Format := p.name.extension?.bind Format.ofExtension?

def Document.validate (d : Document) : Except LibraryError Document :=
  if d.kind ≠ filterKind then
    .error (.validation ("expected kind '" ++ filterKind ++ "', found '" ++ d.kind ++ "'"))
  else if (Text.trim d.metadata.id).isEmpty then
    .error (.validation "filter config metadata.id must not be empty")
  else .ok d

structure LoadedPlan where
  metadata : Metadata
  path : Path
  plan : Plan

namespace Files

/-- The file is read before its extension is looked at. -/
def readDocument (fs : Files) (p : Path) : Except LibraryError Document :=
  match fs.read? p with
  | none => .error .io
  | some text =>
    match p.format? with
    | none => .error (.validation ("unsupported file extension: " ++ p.text))
    | some f =>
      match Document.parse? f text with
      | none => .error (.syntaxOf f)
      | some d => d.validate

/-- Reads and compiles one file. Disabled documents have to compile too. -/
def compileFile (fs : Files) (p : Path) : Except LibraryError LoadedPlan := do
  let d ← fs.readDocument p
  let plan ← (Plan.compile d.filters).mapError .compile
  return { metadata := d.metadata, path := p, plan }

end Files

/-! ### Installed plans -/

abbrev Plans := Std.ExtTreeMap String LoadedPlan

namespace Plans

def withdrawPath (plans : Plans) (p : Path) : Plans := plans.filter fun _ l => l.path ≠ p

/-- Installs a plan, or withdraws the one under its id if the document is disabled. A file whose
id has changed does not leave its old plan behind. -/
def install (plans : Plans) (l : LoadedPlan) : Plans :=
  let id := l.metadata.id
  let kept := plans.filter fun other x => x.path ≠ l.path || other = id
  if l.metadata.enabled then kept.insert id l else kept.erase id

def reload (plans : Plans) (fs : Files) (p : Path) : Plans :=
  match fs.compileFile p with
  | .ok l => plans.install l
  | .error _ => plans

end Plans

/-! ### A folder -/

inductive LoadStatus where
  | loaded (id : String)
  | skipped (reason : String)
  | failed (e : LibraryError)

structure LoadResult where
  path : Path
  status : LoadStatus

structure Library where
  folder : Path
  plans : Plans := ∅
  watching : Bool := false

namespace Library

/-- A library and the files afterwards, for the folder is made if it is missing. Nothing is
loaded yet. -/
def openFolder (fs : Files) (folder : Path) : Library × Files :=
  ({ folder }, if fs.holds folder then fs else fs.makeFolder folder)

/-- Whether a file is met when the folder is searched: none of the folders in between is hidden. -/
def isListed (folder p : Path) : Bool :=
  ((p.drop folder.length).dropLast).all fun name => !name.isHidden

def listed (l : Library) (fs : Files) : List Path :=
  (fs.filesUnder l.folder).filter (isListed l.folder)

def loadOne (fs : Files) (plans : Plans) (p : Path) : LoadStatus × Plans :=
  if p.isHidden then (.skipped "dotfile", plans)
  else if p.format?.isNone then (.skipped "not a YAML or JSON file", plans)
  else match fs.compileFile p with
    | .error e => (.failed e, plans)
    | .ok l =>
      let id := l.metadata.id
      let status := if l.metadata.enabled then .loaded id
        else .skipped ("filter config '" ++ id ++ "' is disabled")
      (status, plans.install l)

/-- Loads files one after another. An error of one does not stop the others. -/
def loadList (fs : Files) (plans : Plans) : List Path → List LoadResult × Plans
  | [] => ([], plans)
  | p :: ps =>
    let (status, plans) := loadOne fs plans p
    let (results, plans) := loadList fs plans ps
    (⟨p, status⟩ :: results, plans)

def loadAll (l : Library) (fs : Files) : List LoadResult × Library :=
  let (results, plans) := loadList fs l.plans (l.listed fs)
  (results, { l with plans })

def ids (l : Library) : List String := l.plans.toList.map (·.1)

def plan? (l : Library) (id : String) : Option Plan := l.plans[id]?.map (·.plan)

end Library
end Shortlist
