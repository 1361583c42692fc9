import Std.Data.ExtTreeMap
import Shortlist.Library.Name
import Shortlist.Text.Blank
/-! Files and folders by path, and the changes that can happen to them. Every folder can be listed
and every path looked up, and there are no links. A file that nobody may read is like one that is
not a text. -/
namespace Shortlist

abbrev Path := List FileName

namespace Path

instance transOrd : Std.TransOrd Path := inferInstance

/-- Empty names and single points say nothing; two points take back the name before them. -/
def step (p : Path) (name : FileName) : Path :=
  if name = [] ∨ name = .ofText "." then p
  else if name = .ofText ".." ∧ p ≠ [] ∧ p.getLast? ≠ some name then p.dropLast
  else p ++ [name]

/-- The path that a text names, relative to the working folder. The root has a name of its own. -/
def ofText (s : String) : Path :=
  let names := (Text.pieces '/' s.toList).map fun cs => FileName.ofText (.ofList cs)
  names.foldl step (if s.startsWith "/" then [.ofText "/"] else [])

def text (p : Path) : String := "/".intercalate (p.map FileName.shown)

def name (p : Path) : FileName := p.getLast?.getD []

def isHidden (p : Path) : Bool := p.name.isHidden

def isUnder (folder p : Path) : Bool := folder.isPrefixOf p

def inits (p : Path) : List Path := (List.range p.length).map fun k => p.take (k + 1)

end Path

inductive Entry where
  | folder
  | file (bytes : ByteArray)

/-- Entries by path. Around the outermost ones there is one folder that is not listed. -/
abbrev Files := Std.ExtTreeMap Path Entry

namespace Files

def holds (fs : Files) (p : Path) : Bool := p.isEmpty || fs.contains p

def isFolder (fs : Files) (p : Path) : Bool :=
  p.isEmpty || match fs[p]? with
    | some .folder => true
    | _ => false

def read? (fs : Files) (p : Path) : Option String :=
  match fs[p]? with
  | some (.file bytes) => String.fromUTF8? bytes
  | _ => none

/-- The files somewhere below a folder. Each folder is in the order of the names in it. -/
def filesUnder (fs : Files) (folder : Path) : List Path :=
  fs.toList.filterMap fun e =>
    match e.2 with
    | .file _ => if folder.isUnder e.1 && folder.length < e.1.length then some e.1 else none
    | .folder => none

/-- A folder and the folders around it. Nothing happens if a file stands in the way. -/
def makeFolder (fs : Files) (p : Path) : Files :=
  if p.inits.any fun q => fs.holds q && !fs.isFolder q then fs
  else p.inits.foldl (fun fs q => fs.insert q .folder) fs

end Files

inductive FileChange where
  | write (p : Path) (bytes : ByteArray)
  | makeFolder (p : Path)
  | remove (p : Path)
  | removeFolder (p : Path)
  | move (source target : Path)

namespace Files

def moved (source target p : Path) : Path :=
  if source.isUnder p then target ++ p.drop source.length else p

def apply (fs : Files) : FileChange → Files
  | .write p bytes => (fs.makeFolder p.dropLast).insert p (.file bytes)
  | .makeFolder p => fs.makeFolder p
  | .remove p => fs.erase p
  | .removeFolder p => fs.filter fun q _ => !p.isUnder q
  | .move source target =>
    let (inside, outside) := fs.toList.partition fun e => source.isUnder e.1
    (inside.map fun e => (moved source target e.1, e.2)).foldl (fun fs e => fs.insert e.1 e.2)
      (Std.ExtTreeMap.ofList outside)

end Files
end Shortlist
