import Shortlist.Library.Basic
/-! A library that follows the changes in its folder. Somebody else watches the folder and reports
events; they name paths as a scan of the folder names them. What a file holds when an event about
it is handled decides, not what it held when the event came about. -/
namespace Shortlist

/-- What a watcher reports. Whatever concerns folders, attributes or mere access is `other`. -/
inductive FileEventKind where
  | created | written | renamed | removed | other
deriving DecidableEq, Repr

structure FileEvent where
  kind : FileEventKind
  paths : List Path

namespace Plans

/-- Hidden files may be unfinished, and files of other kinds hold no documents. -/
def follows (p : Path) : Bool := p.format?.isSome && !p.isHidden

/-- A file that is there is loaded again, and one that fails to load keeps its plan. The plan of
a file that is gone is withdrawn. -/
def handlePath (plans : Plans) (fs : Files) (kind : FileEventKind) (p : Path) : Plans :=
  if !follows p then plans
  else match kind with
    | .created | .written | .renamed =>
      if fs.holds p then plans.reload fs p else plans.withdrawPath p
    | .removed => plans.withdrawPath p
    | .other => plans

/-- A path that fails does not keep the others from being handled. -/
def handle (plans : Plans) (fs : Files) (e : FileEvent) : Plans :=
  e.paths.foldl (fun plans p => plans.handlePath fs e.kind p) plans

end Plans

namespace Library

def watch (l : Library) (fs : Files) : Except LibraryError Library :=
  if fs.holds l.folder then .ok { l with watching := true } else .error .watcher

def start (fs : Files) (folder : Path) (hotReload : Bool) :
    Except LibraryError Library × Files :=
  let (l, fs) := openFolder fs folder
  let (_, l) := l.loadAll fs
  (if hotReload then l.watch fs else .ok l, fs)

def observe (l : Library) (fs : Files) (e : FileEvent) : Library :=
  if l.watching then { l with plans := l.plans.handle fs e } else l

end Library
end Shortlist
