import Shortlist.Yaml.Cursor
import Shortlist.Number.Digits
/-! Text of scalars: plain, in single and double quotes, and in blocks. Line breaks inside fold
into spaces, except in literal blocks. -/
namespace Shortlist.Yaml

/-- White space inside a scalar: blanks, or line breaks with the blanks around them dropped. -/
structure Gap where
  blanks : List Char := []
  broken : Bool := false
  first : List Char := []
  others : List Char := []

namespace Gap

/-- One break is a space and each further one a line feed; a separator stays as it is. -/
def text (g : Gap) : List Char :=
  if !g.broken then g.blanks
  else if g.first = ['\n'] then if g.others.isEmpty then [' '] else g.others
  else g.first ++ g.others

def addBreak (g : Gap) (b : List Char) : Gap :=
  if g.broken then { g with others := g.others ++ b }
  else { broken := true, first := b }

/-- On lines after the first, a tab left of column `floor` is refused. -/
def scan? (floor : Nat) : Nat → Gap → Cursor → Option (Gap × Cursor)
  | 0, g, c => some (g, c)
  | fuel + 1, g, c =>
    match c.rest.head? with
    | none => some (g, c)
    | some x =>
      if isBreak x then
        let (b, c) := c.takeBreak
        scan? floor fuel (g.addBreak b) c
      else if isBlank x then
        if g.broken && c.column < floor && x = '\t' then none
        else
          let g := if g.broken then g else { g with blanks := g.blanks ++ [x] }
          scan? floor fuel g (c.advance 1)
      else some (g, c)

end Gap

/-! ### Plain scalars -/

def isFlowMark (c : Char) : Bool := c = ',' || c = '[' || c = ']' || c = '\x7b' || c = '\x7d'

/-- Text up to the next gap or indicator. Inside flow collections a colon may not stand right
before another indicator. -/
def plainWord? (flow : Bool) : List Char → Option (List Char)
  | [] => some []
  | c :: cs =>
    if isBlank c || isBreak c then some []
    else if flow && c = ':' && cs.head?.elim false (fun x => isFlowMark x || x = '?') then none
    else if c = ':' && startsGap cs || flow && isFlowMark c then some []
    else (plainWord? flow cs).map (c :: ·)

/-- A plain scalar, from the gap before its next word on: its text, whether a line was broken
behind it, and where it ends. Outside of flow collections it ends at a line that begins left of
column `floor`. -/
def plain? (flow : Bool) (floor : Nat) : Nat → Gap → Cursor → Option (List Char × Bool × Cursor)
  | 0, _, _ => none
  | fuel + 1, gap, c =>
    if c.atDocumentMark || c.starts '#' then some ([], gap.broken, c)
    else do
      let word ← plainWord? flow c.rest
      if word.isEmpty then some ([], gap.broken, c)
      else
        let c := c.advance word.length
        let (next, c) ← Gap.scan? floor c.rest.length {} c
        let (more, broken, c) ←
          if !flow && c.column < floor then some ([], next.broken, c)
          else plain? flow floor fuel next c
        return (gap.text ++ word ++ more, broken, c)

/-! ### Quoted scalars -/

def singleWord : List Char → List Char × Nat
  | [] => ([], 0)
  | '\'' :: '\'' :: cs =>
    let (word, n) := singleWord cs
    ('\'' :: word, n + 2)
  | c :: cs =>
    if isBlank c || isBreak c || c = '\'' then ([], 0)
    else
      let (word, n) := singleWord cs
      (c :: word, n + 1)

def hexDigit? (c : Char) : Option Nat :=
  let n := c.toNat
  if 48 ≤ n && n ≤ 57 then some (n - 48)
  else if 97 ≤ n && n ≤ 102 then some (n - 87)
  else if 65 ≤ n && n ≤ 70 then some (n - 55)
  else none

def readHex? (digits : Nat) (cs : List Char) : Option Nat :=
  if cs.length < digits then none
  else (cs.take digits).foldl (fun acc c => do return (← acc) * 16 + (← hexDigit? c)) (some 0)

def codePoint? (n : Nat) : Option Char :=
  if n.isValidChar then some (Char.ofNat n) else none

def escape? : List Char → Option (Char × Nat)
  | [] => none
  | c :: cs =>
    let coded (digits : Nat) := do
      return (← codePoint? (← readHex? digits cs), digits + 1)
    match c with
    | '0' => some ('\x00', 1)
    | 'a' => some ('\x07', 1)
    | 'b' => some ('\x08', 1)
    | 't' | '\t' => some ('\t', 1)
    | 'n' => some ('\n', 1)
    | 'v' => some ('\x0b', 1)
    | 'f' => some ('\x0c', 1)
    | 'r' => some ('\r', 1)
    | 'e' => some ('\x1b', 1)
    | ' ' | '"' | '/' | '\\' => some (c, 1)
    | 'N' => some ('\x85', 1)
    | '_' => some ('\xa0', 1)
    | 'L' => some ('\u2028', 1)
    | 'P' => some ('\u2029', 1)
    | 'x' => coded 2
    | 'u' => coded 4
    | 'U' => coded 8
    | _ => none

def doubleWord? : Nat → List Char → Option (List Char × Nat)
  | 0, _ => some ([], 0)
  | _, [] => some ([], 0)
  | fuel + 1, c :: cs =>
    if isBlank c || isBreak c || c = '"' then some ([], 0)
    else if c = '\\' then
      if cs.head?.elim false isBreak then some ([], 0)
      else do
        let (x, n) ← escape? cs
        let (word, m) ← doubleWord? fuel (cs.drop n)
        return (x :: word, n + m + 1)
    else do
      let (word, n) ← doubleWord? fuel cs
      return (c :: word, n + 1)

/-- A quoted scalar after its opening quote. Neither the text nor a document may end inside. -/
def quoted? (single : Bool) : Nat → Cursor → Option (List Char × Cursor)
  | 0, _ => none
  | fuel + 1, c =>
    if c.rest.isEmpty || c.atDocumentMark then none
    else do
      let mark := if single then '\'' else '"'
      let (word, n) ← if single then some (singleWord c.rest)
        else doubleWord? c.rest.length c.rest
      let c := c.advance n
      let (gap, c) : Gap × Cursor :=
        if c.starts '\\' then ({ broken := true }, (c.advance 1).skipBreak) else ({}, c)
      if c.starts mark then return (word, c.advance 1)
      else
        let (gap, c) ← gap.scan? 0 c.rest.length c
        let (more, c) ← quoted? single fuel c
        return (word ++ gap.text ++ more, c)

/-! ### Block scalars -/

inductive Chomping where
  | strip | clip | keep
deriving DecidableEq, Repr

def readChomping (cs : List Char) : Chomping × List Char :=
  match cs with
  | '+' :: cs => (.keep, cs)
  | '-' :: cs => (.strip, cs)
  | cs => (.clip, cs)

def readIncrement? : List Char → Option (Option Nat × List Char)
  | c :: cs =>
    if !Number.isDigit c then some (none, c :: cs)
    else if c = '0' then none
    else some (some (Number.digitValue c), cs)
  | [] => some (none, [])

/-- The header after the block's indicator: both parts are optional and come in any order. Also
the number of characters read. -/
def blockHeader? (cs : List Char) : Option (Chomping × Option Nat × Nat) := do
  let (early, rest) := readChomping cs
  let (increment, rest) ← readIncrement? rest
  let (late, after) := readChomping rest
  if early = .clip && increment.isSome then
    return (late, increment, cs.length - after.length)
  else return (early, increment, cs.length - rest.length)

/-- Blank lines before the next line of a block, and the widest indentation seen so far. While
`indent` is zero it is not known yet. -/
def blankLines? (indent : Nat) : Nat → Nat → Cursor → Option (List Char × Nat × Cursor)
  | 0, widest, c => some ([], widest, c)
  | fuel + 1, widest, c =>
    let spaces := (c.rest.takeWhile (· = ' ')).length
    let c := c.advance (if indent = 0 then spaces else min spaces (indent - c.column))
    let widest := max widest c.column
    if (indent = 0 || c.column < indent) && c.starts '\t' then none
    else if c.atBreak then do
      let (b, c) := c.takeBreak
      let (bs, widest, c) ← blankLines? indent fuel widest c
      return (b ++ bs, widest, c)
    else some ([], widest, c)

/-- The lines of a block from the cursor on. `held` is the break behind the line before, which
was indented further if `deep`, and `blanks` are the blank lines since. The end of the result is
what chomping decides on. -/
def blockLines? (folded : Bool) (indent : Nat) :
    Nat → List Char → Bool → List Char → Cursor →
      Option (List Char × List Char × List Char × Cursor)
  | 0, _, _, _, _ => none
  | fuel + 1, held, deep, blanks, c =>
    if c.column != indent || c.rest.isEmpty then some ([], held, blanks, c)
    else do
      let joined := folded && held = ['\n'] && !deep && !c.atBlank
      let held := if !joined then held else if blanks.isEmpty then [' '] else []
      let line := c.rest.takeWhile (fun x => !isBreak x)
      let deep := c.atBlank
      let (b, c) := (c.advance line.length).takeBreak
      let (bs, _, c) ← blankLines? indent c.rest.length 0 c
      let (more, last, blanksAfter, c) ← blockLines? folded indent fuel b deep bs c
      return (held ++ blanks ++ line ++ more, last, blanksAfter, c)

def Chomping.apply (chomping : Chomping) (last blanks : List Char) : List Char :=
  match chomping with
  | .strip => []
  | .clip => last
  | .keep => last ++ blanks

def block? (folded : Bool) (floor : Nat) (c : Cursor) : Option (List Char × Cursor) := do
  let (chomping, increment, n) ← blockHeader? c.rest
  let c ← (c.advance n).endLine?
  let given := increment.elim 0 (floor - 1 + ·)
  let (blanks, widest, c) ← blankLines? given c.rest.length 0 c
  let indent := if given = 0 then max widest (max floor 1) else given
  let (body, last, blanks, c) ←
    blockLines? folded indent (c.rest.length + 1) [] false blanks c
  return (body ++ chomping.apply last blanks, c)

end Shortlist.Yaml
