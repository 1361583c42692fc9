import Shortlist.Settings.EnvFile
/-! The command line of the check: one document or one installed plan, a user and candidates. -/
namespace Shortlist.Check

inductive Flag where
  | file | plan | dir | user | items
deriving DecidableEq, Repr

def Flag.ofName? : String → Option Flag
  | "file" => some .file
  | "plan" => some .plan
  | "dir" => some .dir
  | "user" => some .user
  | "items" => some .items
  | _ => none

/-- Values as they were given. Each flag is given at most once. -/
structure Arguments where
  file : Option String := none
  plan : Option String := none
  dir : Option String := none
  user : Option String := none
  items : Option String := none
deriving DecidableEq, Repr

namespace Arguments

def get (a : Arguments) : Flag → Option String
  | .file => a.file
  | .plan => a.plan
  | .dir => a.dir
  | .user => a.user
  | .items => a.items

/-- Everything but a plan's id is a path, and no path is empty. -/
def set? (a : Arguments) (f : Flag) (v : String) : Option Arguments :=
  if (a.get f).isSome || (f ≠ .plan && v.isEmpty) then none
  else match f with
    | .file => some { a with file := some v }
    | .plan => some { a with plan := some v }
    | .dir => some { a with dir := some v }
    | .user => some { a with user := some v }
    | .items => some { a with items := some v }

end Arguments

inductive Parsed where
  | usage
  | help
  | version
  | arguments (a : Arguments)
deriving DecidableEq, Repr

/-- A lone dash is a value, anything longer that begins with one is not. -/
def isOption (word : String) : Bool := word.startsWith "-" && word ≠ "-"

def splitOption (word : String) : String × Option String :=
  let cs := word.toList.drop 2
  let name := cs.takeWhile (· ≠ '=')
  match cs.drop name.length with
  | [] => (String.ofList name, none)
  | _ :: value => (String.ofList name, some (String.ofList value))

def parseWords (a : Arguments) : List String → Parsed
  | [] => .arguments a
  | word :: rest =>
    if word = "--" then if rest.isEmpty then .arguments a else .usage
    else if word.startsWith "--" then
      match splitOption word with
      | ("version", none) => .version
      | ("help", none) => .help
      | (name, value) =>
        match Flag.ofName? name, value, rest with
        | some f, some v, rest =>
          match a.set? f v with
          | some a => parseWords a rest
          | none => .usage
        | some f, none, v :: rest =>
          if isOption v then .usage
          else match a.set? f v with
            | some a => parseWords a rest
            | none => .usage
        | _, _, _ => .usage
    else if word.startsWith "-V" then .version
    else if word.startsWith "-h" then .help
    else .usage

/-- What is checked: a document, or an installed plan. Without either there is nothing. -/
inductive Target where
  | file (path : String)
  | plan (id : String)
  | nothing
deriving DecidableEq, Repr

structure Command where
  target : Target
  dir : String
  user : String
  items : String
deriving DecidableEq, Repr

/-- A document and a plan exclude each other; a user and candidates have to be given. The folder
of plans may come from the environment, where it must not be empty either. -/
def Arguments.command? (a : Arguments) (env : Environment) : Option Command := do
  let dir := a.dir <|> env["RECFLOW_FILTER_DIR"]?
  if dir = some "" || (a.file.isSome && a.plan.isSome) then none
  else return {
    target := (a.file.map Target.file <|> a.plan.map Target.plan).getD .nothing
    dir := dir.getD "config/filters"
    user := ← a.user
    items := ← a.items }

end Shortlist.Check
