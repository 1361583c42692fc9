import Std.Data.ExtTreeMap
import Shortlist.Text.Alphanumeric
import Shortlist.Text.Blank
/-! Environment files: one variable a line, quotes of two strengths that may span lines,
comments, and references to other variables. A line that is not understood ends the reading; what
came before it stands. -/
namespace Shortlist

abbrev Environment := Std.ExtTreeMap String String

namespace EnvFile

/-- Where a logical line stands at the end of a physical one. -/
inductive LineState where
  | complete | blank | escape | strong | strongEscape | weak | weakEscape
deriving DecidableEq

def openState (c : Char) : LineState :=
  if c = '\\' then .escape else if c = '"' then .weak else if c = '\'' then .strong else .complete

def LineState.next? (s : LineState) (c : Char) : Option LineState :=
  match s with
  | .blank => if c = '#' then none else some (openState c)
  | .escape => some .complete
  | .complete =>
    if Text.isBlank c && c != '\n' && c != '\r' then some .blank else some (openState c)
  | .weak => some (if c = '\\' then .weakEscape else if c = '"' then .complete else .weak)
  | .weakEscape => some .weak
  | .strong => some (if c = '\\' then .strongEscape else if c = '\'' then .complete else .strong)
  | .strongEscape => some .strong

def scanLine (s : LineState) : List Char → LineState ⊕ List Char
  | [] => .inl s
  | c :: cs =>
    match s.next? c with
    | none => .inr []
    | some s =>
      match scanLine s cs with
      | .inl s => .inl s
      | .inr kept => .inr (c :: kept)

def dropLineEnd (line : List Char) : List Char :=
  match line.reverse with
  | '\n' :: '\r' :: cs => cs.reverse
  | '\n' :: cs => cs.reverse
  | _ => line

def physicalLines : List Char → List (List Char)
  | [] => []
  | c :: cs =>
    if c = '\n' then [c] :: physicalLines cs
    else match physicalLines cs with
      | [] => [[c]]
      | l :: ls => (c :: l) :: ls

/-- Physical lines joined while a quote is open. Lines that are still open at the end are lost. -/
def logicalLines (held : List Char) (s : LineState) : List (List Char) → List (List Char)
  | [] => []
  | line :: lines =>
    let joined := held ++ line
    if (Text.trimLeft joined).head? = some '#' then [] :: logicalLines [] .complete lines
    else match scanLine s line with
      | .inr kept => (held ++ kept) :: logicalLines [] .complete lines
      | .inl .complete => dropLineEnd joined :: logicalLines [] .complete lines
      | .inl s => logicalLines joined s lines

def isKeyStart (c : Char) : Bool := c.isAlpha || c = '_'

def isKeyChar (c : Char) : Bool := c.isAlphanum || c = '_' || c = '.'

def readKey? (cs : List Char) : Option (String × List Char) :=
  match cs with
  | c :: _ =>
    if isKeyStart c then some (String.ofList (cs.takeWhile isKeyChar), cs.dropWhile isKeyChar)
    else none
  | [] => none

inductive Reference where
  | none | bare | braced
deriving DecidableEq

structure ValueState where
  strong : Bool := false
  weak : Bool := false
  escaped : Bool := false
  closing : Bool := false
  reference : Reference := .none
  name : List Char := []
  output : List Char := []

/-- The process environment comes before what the file has said so far. -/
def lookUp (env defined : Environment) (name : String) : List Char :=
  ((env[name]?).getD ((defined[name]?).getD "")).toList

def ValueState.substitute (s : ValueState) (env defined : Environment) : ValueState :=
  { s with name := [], output := s.output ++ lookUp env defined (String.ofList s.name) }

def ValueState.put (s : ValueState) (c : Char) : ValueState :=
  { s with output := s.output ++ [c] }

def unescape? : Char → Option Char
  | 'n' => some '\n'
  | c => if c = '\\' || c = '\'' || c = '"' || c = '$' || c = ' ' then some c else none

/-- A character inside a reference. Whatever ends a bare name is text again, even a quote. -/
def ValueState.inReference (s : ValueState) (env defined : Environment) (c : Char) :
    ValueState :=
  if Text.isAlphanumeric c then { s with name := s.name ++ [c] }
  else match s.reference with
    | .braced =>
      if c = '\x7d' then { s.substitute env defined with reference := .none }
      else { s with name := s.name ++ [c] }
    | _ =>
      if c = '\x7b' && s.name.isEmpty then { s with reference := .braced }
      else
        let s := s.substitute env defined
        if c = '$' then { s with reference := .bare }
        else { s with reference := .none }.put c

/-- None is an error; a comment behind the value ends it. -/
def readValue? (env defined : Environment) (s : ValueState) : List Char → Option String
  | [] =>
    if s.reference = .braced || s.strong || s.weak then none
    else some (String.ofList (s.substitute env defined).output)
  | c :: cs =>
    let go (s : ValueState) := readValue? env defined s cs
    if s.closing then
      if c = ' ' || c = '\t' then go s
      else if c = '#' then readValue? env defined { s with closing := false } []
      else none
    else if s.escaped then
      match unescape? c with
      | some c => go ({ s with escaped := false }.put c)
      | none => none
    else if s.strong then
      if c = '\'' then go { s with strong := false } else go (s.put c)
    else if s.reference ≠ .none then go (s.inReference env defined c)
    else if c = '$' then go { s with reference := .bare }
    else if c = '\\' then go { s with escaped := true }
    else if s.weak then
      if c = '"' then go { s with weak := false } else go (s.put c)
    else if c = '\'' then go { s with strong := true }
    else if c = '"' then go { s with weak := true }
    else if c = ' ' || c = '\t' then go { s with closing := true }
    else go (s.put c)

inductive Line where
  | nothing
  | assign (key value : String)

def readAssignment? (env defined : Environment) (key : String) (cs : List Char) : Option Line :=
  match Text.trimLeft cs with
  | '=' :: cs =>
    match Text.trimLeft cs with
    | [] => some (.assign key "")
    | '#' :: _ => some (.assign key "")
    | cs => (readValue? env defined {} cs).map (.assign key)
  | _ => none

/-- The word `export` may stand before a key, and is a key itself where a sign follows it. -/
def readLine? (env defined : Environment) (line : List Char) : Option Line :=
  match Text.trimLeft (Text.trimRight line) with
  | [] => some .nothing
  | '#' :: _ => some .nothing
  | cs => do
    let (key, rest) ← readKey? cs
    if key = "export" && (Text.trimLeft rest).head? != some '=' then
      let (key, rest) ← readKey? (Text.trimLeft rest)
      readAssignment? env defined key rest
    else readAssignment? env defined key rest

/-- Variables that are set already win, so the first of two lines with one key does. -/
def loadLines (env defined : Environment) : List (List Char) → Environment
  | [] => env
  | line :: lines =>
    match readLine? env defined line with
    | none => env
    | some .nothing => loadLines env defined lines
    | some (.assign key value) =>
      loadLines (env.insertIfNew key value) (defined.insert key value) lines

def dropMark : List Char → List Char
  | c :: cs => if c.toNat = 0xfeff then cs else c :: cs
  | [] => []

def load (env : Environment) (contents : String) : Environment :=
  loadLines env ∅ (logicalLines [] .complete (physicalLines (dropMark contents.toList)))

end EnvFile
end Shortlist
