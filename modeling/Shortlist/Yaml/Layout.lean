import Shortlist.Yaml.Tag
/-! From text to tokens. Indentation opens and closes block collections; a mapping key is known
as such only when its colon comes, so tokens for it are put in before those already there. -/
namespace Shortlist.Yaml

/-- A place where a key may have begun: the number of tokens before it and where it stands. A
required one has to turn out to be a key. -/
structure KeyMark where
  required : Bool
  position : Nat
  line : Nat
  index : Nat
  column : Nat

/-- `tokens` are those so far, the latest first. `indents` are the columns of the open block
collections and `keys` the possible keys of the flow collections and of the block around them,
innermost first. A key can begin only where `keyAllowed` says so. -/
structure Layout where
  cursor : Cursor
  tokens : List Token := []
  indents : List Nat := []
  keys : List (Option KeyMark) := [none]
  keyAllowed : Bool := true

namespace Layout

def inFlow (s : Layout) : Bool := s.keys.length > 1

def floor (s : Layout) : Nat :=
  match s.indents with
  | [] => 0
  | column :: _ => column + 1

def push (s : Layout) (t : Token) : Layout := { s with tokens := t :: s.tokens }

def insertAt (s : Layout) (position : Nat) (t : Token) : Layout :=
  let newer := s.tokens.length - position
  { s with tokens := s.tokens.take newer ++ t :: s.tokens.drop newer }

def advance (s : Layout) (n : Nat) : Layout := { s with cursor := s.cursor.advance n }

def take (s : Layout) (n : Nat) (t : Token) : Layout := (s.push t).advance n

def continueAt (s : Layout) (rest : List Char) : Layout :=
  s.advance (s.cursor.rest.length - rest.length)

/-! ### Indentation -/

/-- A block collection begins at a column inside the current one. Flow collections have no
indentation. -/
def openBlock (s : Layout) (column position : Nat) (t : Token) : Layout :=
  if s.inFlow || column < s.floor then s
  else { s with indents := column :: s.indents }.insertAt position t

def closeBlocks (s : Layout) (floor : Nat) : Layout :=
  if s.inFlow then s
  else
    let closed := s.indents.takeWhile (floor ≤ ·)
    { s with
      indents := s.indents.drop closed.length
      tokens := List.replicate closed.length .blockEnd ++ s.tokens }

/-! ### Possible keys -/

def setKey (s : Layout) (key : Option KeyMark) : Layout :=
  { s with keys := key :: s.keys.drop 1 }

def key? (s : Layout) : Option KeyMark := s.keys.head?.join

def dropKey? (s : Layout) : Option Layout :=
  match s.key? with
  | some k => if k.required then none else some (s.setKey none)
  | none => some s

def saveKey? (s : Layout) : Option Layout :=
  if !s.keyAllowed then some s
  else do
    let s ← s.dropKey?
    let c := s.cursor
    return s.setKey (some
      { required := !s.inFlow && s.indents.head? == some c.column
        position := s.tokens.length
        line := c.line
        index := c.index
        column := c.column })

def maxKeyLength : Nat := 1024

def isStale (c : Cursor) (k : KeyMark) : Bool := k.line < c.line || k.index + maxKeyLength < c.index

def refreshKey? (c : Cursor) : Option KeyMark → Option (Option KeyMark)
  | some k => if !isStale c k then some (some k) else if k.required then none else some none
  | none => some none

/-- A key has to end on its line and within its length. -/
def dropStale? (s : Layout) : Option Layout :=
  (s.keys.mapM (refreshKey? s.cursor)).map fun keys => { s with keys }

/-! ### Tokens -/

/-- Over blanks, comments and breaks. Tabs count as blanks only where they cannot be mistaken
for indentation; a new line allows a key again, except inside flow collections. -/
def skipBlanks (flow : Bool) : Nat → Bool → Cursor → Bool × Cursor
  | 0, allowed, c => (allowed, c)
  | fuel + 1, allowed, c =>
    let c := if c.index = 0 && c.starts '\ufeff' then c.advance 1 else c
    let c := c.skipWhile fun x => x = ' ' || x = '\t' && (flow || !allowed)
    let c := if c.starts '#' then c.skipWhile (fun x => !isBreak x) else c
    if c.atBreak then skipBlanks flow fuel (allowed || !flow) c.skipBreak else (allowed, c)

def skipGap (s : Layout) : Layout :=
  let (keyAllowed, cursor) :=
    skipBlanks s.inFlow (s.cursor.rest.length + 1) s.keyAllowed s.cursor
  { s with keyAllowed, cursor }

def directiveToken? (s : Layout) : Option Layout := do
  let s ← (s.closeBlocks 0).dropKey?
  let (t, rest) ← directive? (s.cursor.rest.drop 1)
  let s := { s with keyAllowed := false }.push t |>.continueAt rest
  return { s with cursor := ← s.cursor.endLine? }

def documentToken? (s : Layout) (t : Token) : Option Layout := do
  let s ← (s.closeBlocks 0).dropKey?
  return { s with keyAllowed := false }.take 3 t

def openFlow? (s : Layout) (t : Token) : Option Layout := do
  let s ← s.saveKey?
  return { s with keys := none :: s.keys, keyAllowed := true }.take 1 t

def closeFlow? (s : Layout) (t : Token) : Option Layout := do
  let s ← s.dropKey?
  let keys := if s.inFlow then s.keys.drop 1 else s.keys
  return { s with keys, keyAllowed := false }.take 1 t

def flowEntry? (s : Layout) : Option Layout := do
  let s ← s.dropKey?
  return { s with keyAllowed := true }.take 1 .flowEntry

def openHere? (s : Layout) (t : Token) : Option Layout :=
  if s.inFlow then some s
  else if s.keyAllowed then some (s.openBlock s.cursor.column s.tokens.length t)
  else none

def blockEntry? (s : Layout) : Option Layout := do
  let s ← (← s.openHere? .blockSeqStart).dropKey?
  return { s with keyAllowed := true }.take 1 .blockEntry

def keyToken? (s : Layout) : Option Layout := do
  let s ← (← s.openHere? .blockMapStart).dropKey?
  return { s with keyAllowed := !s.inFlow }.take 1 .key

/-- The colon makes a key of what may have been one. -/
def valueToken? (s : Layout) : Option Layout :=
  match s.key? with
  | some k =>
    let s := (s.insertAt k.position .key).openBlock k.column k.position .blockMapStart
    some ({ s.setKey none with keyAllowed := false }.take 1 .value)
  | none => do
    let s ← s.openHere? .blockMapStart
    return { s with keyAllowed := !s.inFlow }.take 1 .value

def nameToken? (s : Layout) (t : String → Token) : Option Layout := do
  let s ← s.saveKey?
  let (name, rest) ← name? (s.cursor.rest.drop 1)
  return ({ s with keyAllowed := false }.push (t (String.ofList name))).continueAt rest

def tagToken? (s : Layout) : Option Layout := do
  let s ← s.saveKey?
  let (t, rest) ← tag? s.inFlow s.cursor.rest
  return ({ s with keyAllowed := false }.push t).continueAt rest

def scalarToken (s : Layout) (style : ScalarStyle) (text : List Char) (cursor : Cursor)
    (keyAllowed : Bool) : Layout :=
  { s.push (.scalar style (String.ofList text)) with cursor, keyAllowed }

def blockScalar? (s : Layout) (style : ScalarStyle) : Option Layout := do
  let s ← s.dropKey?
  let (text, c) ← block? (style = .folded) s.floor (s.cursor.advance 1)
  return s.scalarToken style text c true

def quotedScalar? (s : Layout) (style : ScalarStyle) : Option Layout := do
  let s ← s.saveKey?
  let c := s.cursor.advance 1
  let (text, c) ← quoted? (style = .singleQuoted) (c.rest.length + 1) c
  return s.scalarToken style text c false

def plainScalar? (s : Layout) : Option Layout := do
  let s ← s.saveKey?
  let (text, broken, c) ←
    plain? s.inFlow s.floor (s.cursor.rest.length + 1) {} s.cursor
  return s.scalarToken .plain text c broken

/-- A plain scalar may begin with a few of the indicators if no gap follows. -/
def startsPlain (flow : Bool) (c : Char) (cs : List Char) : Bool :=
  let indicator := "-?:,[]\x7b\x7d#&*!|>'\"%@\x60".toList.contains c
  !indicator && !isBlank c || c = '-' && !cs.head?.elim false isBlank ||
    !flow && (c = '?' || c = ':') && !startsGap cs

/-- The token that begins with the character `c`, which `cs` follows. -/
def token? (s : Layout) (c : Char) (cs : List Char) : Option Layout :=
  let flow := s.inFlow
  if s.cursor.column = 0 && c = '%' then s.directiveToken?
  else if s.cursor.atDocumentStart then s.documentToken? .documentStart
  else if s.cursor.atDocumentEnd then s.documentToken? .documentEnd
  else if c = '[' then s.openFlow? .flowSeqStart
  else if c = '\x7b' then s.openFlow? .flowMapStart
  else if c = ']' then s.closeFlow? .flowSeqEnd
  else if c = '\x7d' then s.closeFlow? .flowMapEnd
  else if c = ',' then s.flowEntry?
  else if c = '-' && startsGap cs then s.blockEntry?
  else if c = '?' && (flow || startsGap cs) then s.keyToken?
  else if c = ':' && (flow || startsGap cs) then s.valueToken?
  else if c = '*' then s.nameToken? .alias
  else if c = '&' then s.nameToken? .anchor
  else if c = '!' then s.tagToken?
  else if c = '|' && !flow then s.blockScalar? .literal
  else if c = '>' && !flow then s.blockScalar? .folded
  else if c = '\'' then s.quotedScalar? .singleQuoted
  else if c = '"' then s.quotedScalar? .doubleQuoted
  else if startsPlain flow c cs then s.plainScalar?
  else none

/-- Every token takes a character, so the length of the text bounds the steps. -/
def run? : Nat → Layout → Option (List Token)
  | 0, _ => none
  | fuel + 1, s => do
    let s ← s.skipGap.dropStale?
    let s := s.closeBlocks (s.cursor.column + 1)
    match s.cursor.rest with
    | [] =>
      let s ← (s.closeBlocks 0).dropKey?
      return s.tokens.reverse
    | c :: cs => run? fuel (← s.token? c cs)

end Layout

def tokens? (text : String) : Option (List Token) :=
  let cs := text.toList
  if cs.all isReadable then Layout.run? (cs.length + 1) { cursor := { rest := cs } } else none

end Shortlist.Yaml
