import Shortlist.Datum.Plain
import Shortlist.Number.Shortest
import Shortlist.Yaml.Cursor
/-! How scalars are written. A string is plain where a plain scalar reads back as it; text of
several lines is a literal block, and quotes do the rest. -/
namespace Shortlist.Yaml

/-! ### What a string allows -/

def isPrintable (c : Char) : Bool :=
  let n := c.toNat
  n = 10 || (0x20 ≤ n && n ≤ 0x7e) || (0xa0 ≤ n && n ≤ 0xfffd && n ≠ 0xfeff) || 0x10000 ≤ n

def adjacent (p q : Char → Bool) : List Char → Bool
  | c :: d :: cs => p c && q d || adjacent p q (d :: cs)
  | _ => false

def isSpace (c : Char) : Bool := c = ' '

def isUnescaped (cs : List Char) : Bool := cs.all isPrintable && !adjacent isSpace isBreak cs

def startsIndicator : List Char → Bool
  | [] => false
  | c :: cs =>
    "#,[]\x7b\x7d&*!|>'\"%@\x60".toList.contains c ||
      (c = '?' || c = ':' || c = '-') && startsGap cs ||
      ['-', '-', '-'].isPrefixOf (c :: cs) || ['.', '.', '.'].isPrefixOf (c :: cs)

def holdsIndicator (afterGap : Bool) : List Char → Bool
  | [] => false
  | c :: cs =>
    c = ':' && startsGap cs || c = '#' && afterGap || holdsIndicator (isBlank c || isBreak c) cs

def allowsPlain (cs : List Char) : Bool :=
  !cs.isEmpty && isUnescaped cs && !cs.any isBreak && !startsIndicator cs &&
    !holdsIndicator false cs && cs.head? != some ' ' && cs.getLast? != some ' '

def allowsSingle (cs : List Char) : Bool := isUnescaped cs && !adjacent isBreak isSpace cs

def allowsLiteral (cs : List Char) : Bool :=
  !cs.isEmpty && isUnescaped cs && cs.getLast? != some ' '

def readsAsText (s : String) : Bool :=
  match Datum.ofPlain s with
  | .scalar .. => !Datum.isZeroPadded s.toList
  | _ => false

def styleOf (s : String) : ScalarStyle :=
  let cs := s.toList
  if cs.contains '\n' then if allowsLiteral cs then .literal else .doubleQuoted
  else if readsAsText s && allowsPlain cs then .plain
  else if allowsSingle cs then .singleQuoted
  else .doubleQuoted

/-! ### Text -/

def pad (indent : Nat) : List Char := List.replicate indent ' '

/-- Lines after the first begin at column `indent`; blank ones stay empty. -/
def indented (indent : Nat) (fresh : Bool) : List Char → List Char
  | [] => []
  | c :: cs =>
    if isBreak c then c :: indented indent true cs
    else (if fresh then pad indent else []) ++ c :: indented indent false cs

def singleQuoted (indent : Nat) (cs : List Char) : List Char :=
  let doubled := cs.flatMap fun c => if c = '\'' then ['\'', '\''] else [c]
  let close := if cs.getLast?.elim false isBreak then pad indent else []
  '\'' :: indented indent false doubled ++ close ++ ['\'']

def upperHex (d : Nat) : Char := if d < 10 then Number.digitChar d else Char.ofNat (55 + d)

def hexText (n : Nat) : Nat → List Char
  | 0 => []
  | width + 1 => hexText (n / 16) width ++ [upperHex (n % 16)]

def escapeText (c : Char) : List Char :=
  let n := c.toNat
  match c with
  | '\x00' => ['0']
  | '\x07' => ['a']
  | '\x08' => ['b']
  | '\t' => ['t']
  | '\n' => ['n']
  | '\x0b' => ['v']
  | '\x0c' => ['f']
  | '\r' => ['r']
  | '\x1b' => ['e']
  | '"' | '\\' => [c]
  | '\x85' => ['N']
  | '\u2028' => ['L']
  | '\u2029' => ['P']
  | _ =>
    if n < 0x100 then 'x' :: hexText n 2
    else if n < 0x10000 then 'u' :: hexText n 4
    else 'U' :: hexText n 8

def doubleQuoted (cs : List Char) : List Char :=
  let escaped := cs.flatMap fun c =>
    if !isPrintable c || isBreak c || c = '"' || c = '\\' then '\\' :: escapeText c else [c]
  '"' :: escaped ++ ['"']

/-- The header of a literal block says how deep it is indented if its first line cannot show it,
and what becomes of the breaks at its end unless there is just one. -/
def literalHeader (cs : List Char) : List Char :=
  let depth := if cs.head?.elim false (fun c => c = ' ' || isBreak c) then ['2'] else []
  let chomping := match cs.reverse with
    | [] => ['-']
    | c :: rest =>
      if !isBreak c then ['-']
      else if rest.head?.elim true isBreak then ['+']
      else []
  depth ++ chomping

def literal (indent : Nat) (cs : List Char) : List Char :=
  '|' :: literalHeader cs ++ '\n' :: indented indent true cs

def stringText (indent : Nat) (s : String) : List Char :=
  match styleOf s with
  | .plain => s.toList
  | .singleQuoted => singleQuoted indent s.toList
  | .literal => literal indent s.toList
  | _ => doubleQuoted s.toList

/-- Shortest digits with a point, and with an exponent where that is shorter. -/
def finiteText (coefficient : Nat) (exponent : Int) : List Char :=
  let ds := Number.digits coefficient
  let point := ds.length + exponent
  if -5 < point && point ≤ 16 then
    let body := Number.positional coefficient exponent
    if 0 ≤ exponent then body ++ ['.', '0'] else body
  else
    let fraction := match ds with
      | d :: rest => if rest.isEmpty then [d] else d :: '.' :: rest
      | [] => []
    fraction ++ 'e' :: Number.intDigits (point - 1)

def floatText (x : Float) : List Char :=
  match Number.Dyadic.ofFloat x with
  | .notANumber => ".nan".toList
  | .infinite negative => if negative then "-.inf".toList else ".inf".toList
  | .finite negative m e =>
    let body :=
      if m = 0 then "0.0".toList
      else
        let (c, k) := Number.shortest .even m e
        finiteText c k
    if negative then '-' :: body else body

end Shortlist.Yaml
