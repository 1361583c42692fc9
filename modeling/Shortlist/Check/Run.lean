import Shortlist.Check.Arguments
import Shortlist.Library.Basic
/-! A plan decides on candidates from a file, for a user from another. -/
namespace Shortlist

/-! ### Users and items from text -/

def Properties.ofDatum? (d : Datum) : Option Properties :=
  match Value.ofDatum? d with
  | some (.map entries) => some (.ofEntries entries)
  | _ => none

/-- All that a user needs has a default. -/
def User.ofDatum? (d : Datum) : Option User := do
  let [id, properties] ← d.fields? false [["id"], ["properties"]] | none
  return .new (← Datum.orElse? id Datum.string? "filter-check")
    (← Datum.orElse? properties Properties.ofDatum? ∅)

/-- A source may be given beside the score. -/
def Item.ofDatum? (d : Datum) : Option Item := do
  let [some id, source, score, properties] ←
    d.fields? false [["id"], ["retrieve_source"], ["score"], ["properties"]] | none
  let item : Item :=
    { id := ← id.string?
      source? := ← Datum.orElse? source (Datum.optional? Datum.string?) none }
  let store := item.store.setScore (← Datum.orElse? score Datum.float? 0)
  return ({ item with store }).withProperties
    (← Datum.orElse? properties Properties.ofDatum? ∅)

namespace Check

/-! ### The check -/

inductive CheckError where
  | noTarget
  | compiling (path : String)
  | noPlan (id dir : String) (found : List String)
  | reading (path : String)
  | parsing (path : String)

def CheckError.message : CheckError → String
  | .noTarget => "either --file or --plan is required"
  | .compiling path => "compiling " ++ path
  | .noPlan id dir found =>
    "no enabled plan '" ++ id ++ "' in " ++ dir ++ " (found: " ++ ", ".intercalate found ++ ")"
  | .reading path => "reading " ++ path
  | .parsing path => "parsing " ++ path

def readJson {α : Type} (fs : Files) (path : String) (decode : Datum → Option α) :
    Except CheckError α :=
  match fs.read? (.ofText path) with
  | none => .error (.reading path)
  | some text =>
    match (Json.read? text).bind decode with
    | none => .error (.parsing path)
    | some a => .ok a

def findPlan (fs : Files) (c : Command) : Except CheckError Plan :=
  match c.target with
  | .nothing => .error .noTarget
  | .file path =>
    match fs.compileFile (.ofText path) with
    | .ok l => .ok l.plan
    | .error _ => .error (.compiling path)
  | .plan id =>
    let (l, fs) := Library.openFolder fs (.ofText c.dir)
    let (_, l) := l.loadAll fs
    match l.plan? id with
    | some p => .ok p
    | none => .error (.noPlan id c.dir l.ids)

structure Decision where
  id : String
  admitted : Bool
deriving DecidableEq, Repr

def Decision.text (d : Decision) : String := (if d.admitted then "admit   " else "reject  ") ++ d.id

/-- The plan is found before the user and the candidates are read. -/
def decide? (fs : Files) (c : Command) : Except CheckError (List Decision) := do
  let plan ← findPlan fs c
  let user ← readJson fs c.user User.ofDatum?
  let items ← readJson fs c.items fun d => (Datum.items? d).bind (·.mapM Item.ofDatum?)
  return items.map fun i => ⟨i.id, (plan.judge user i).1⟩

/-! ### The program -/

/-- What the program leaves behind: its exit code, and a line for each decision or an error. -/
structure Outcome where
  exit : Nat
  output : List String := []
  complaint : Option String := none
deriving DecidableEq, Repr

def usageText : String :=
  "usage: filter-check (--file FILE | --plan ID [--dir DIR]) --user FILE --items FILE"

def envFile : Path := .ofText ".env"

def environment (fs : Files) (env : Environment) : Environment :=
  match fs.read? envFile with
  | some text => EnvFile.load env text
  | none => env

def run (words : List String) (env : Environment) (fs : Files) : Outcome :=
  match parseWords {} words with
  | .usage => { exit := 2 }
  | .help => { exit := 0, output := [usageText] }
  | .version => { exit := 0, output := ["filter-check 0.1.0"] }
  | .arguments a =>
    match a.command? (environment fs env) with
    | none => { exit := 2 }
    | some c =>
      match decide? fs c with
      | .ok decisions => { exit := 0, output := decisions.map Decision.text }
      | .error e => { exit := 1, complaint := some ("Error: " ++ e.message) }

end Check
end Shortlist
