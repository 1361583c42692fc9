import Shortlist.Yaml.Scalar
import Shortlist.Yaml.Token
/-! Anchors, tags and directives. -/
namespace Shortlist.Yaml

/-- The name behind `&` or `*`. One of a few indicators, a gap or the end has to follow it. -/
def name? (cs : List Char) : Option (List Char × List Char) :=
  let name := cs.takeWhile isNameChar
  let rest := cs.drop name.length
  let closed := startsGap rest ||
    rest.head?.elim false (fun c => "?:,]\x7d%@\x60".toList.contains c)
  if name.isEmpty || !closed then none else some (name, rest)

def isUriChar (verbatim : Bool) (c : Char) : Bool :=
  isNameChar c || ";/?:@&=+$.%!~*'()".toList.contains c ||
    verbatim && (c = ',' || c = '[' || c = ']')

def escapedByte? : List Char → Option (Nat × List Char)
  | '%' :: cs => (readHex? 2 cs).map fun n => (n, cs.drop 2)
  | _ => none

def leadByte? (byte : Nat) : Option (Nat × Nat) :=
  if byte < 0x80 then some (1, byte)
  else if byte / 0x20 = 6 then some (2, byte % 0x20)
  else if byte / 0x10 = 14 then some (3, byte % 0x10)
  else if byte / 0x08 = 30 then some (4, byte % 0x08)
  else none

def trailBytes? : Nat → Nat → List Char → Option (Nat × List Char)
  | 0, bits, cs => some (bits, cs)
  | n + 1, bits, cs => do
    let (byte, cs) ← escapedByte? cs
    if byte / 0x40 = 2 then trailBytes? n (bits * 0x40 + byte % 0x40) cs else none

def escapedChar? (cs : List Char) : Option (Char × List Char) := do
  let (byte, cs) ← escapedByte? cs
  let (width, bits) ← leadByte? byte
  let (n, cs) ← trailBytes? (width - 1) bits cs
  return (← codePoint? n, cs)

def uri? (verbatim : Bool) : Nat → List Char → Option (List Char × List Char)
  | 0, cs => some ([], cs)
  | _, [] => some ([], [])
  | fuel + 1, c :: cs =>
    if !isUriChar verbatim c then some ([], c :: cs)
    else do
      let (x, rest) ← if c = '%' then escapedChar? (c :: cs) else some (c, cs)
      let (more, rest) ← uri? verbatim fuel rest
      return (x :: more, rest)

/-- An exclamation mark, a name and a second mark, of which only the first has to be there. -/
def handle? : List Char → Option (List Char × List Char)
  | '!' :: cs =>
    let name := cs.takeWhile isNameChar
    match cs.drop name.length with
    | '!' :: rest => some ('!' :: name ++ ['!'], rest)
    | rest => some ('!' :: name, rest)
  | _ => none

/-- A tag without a second mark belongs to the document; a lone mark stands for itself. -/
def shorthand? (cs : List Char) : Option (Token × List Char) := do
  let (handle, rest) ← handle? cs
  let (stem, rest) ← uri? false rest.length rest
  if handle.length > 1 && handle.getLast? = some '!' then
    if stem.isEmpty then none
    else return (.tag (String.ofList handle) (String.ofList stem), rest)
  else
    let name := handle.drop 1 ++ stem
    if name.isEmpty then return (.tag "" "!", rest)
    else return (.tag "!" (String.ofList name), rest)

def verbatim? (cs : List Char) : Option (Token × List Char) := do
  let (name, rest) ← uri? true cs.length cs
  match rest with
  | '>' :: rest => if name.isEmpty then none else return (.tag "" (String.ofList name), rest)
  | _ => none

/-- A tag has to be followed by a gap, or by a comma inside flow collections. -/
def tag? (flow : Bool) (cs : List Char) : Option (Token × List Char) := do
  let (t, rest) ← match cs with
    | '!' :: '<' :: cs => verbatim? cs
    | cs => shorthand? cs
  if startsGap rest || flow && rest.head? = some ',' then return (t, rest) else none

/-! ### Directives -/

def versionPart? (cs : List Char) : Option (Nat × List Char) :=
  let ds := cs.takeWhile Number.isDigit
  if ds.isEmpty || ds.length > 9 then none
  else some (Number.ofDigits ds, cs.drop ds.length)

def versionDirective? (cs : List Char) : Option (Token × List Char) := do
  let (major, rest) ← versionPart? (cs.dropWhile isBlank)
  let .cons '.' rest := rest | none
  let (minor, rest) ← versionPart? rest
  return (.version major minor, rest)

def tagDirective? (cs : List Char) : Option (Token × List Char) := do
  let (handle, rest) ← handle? (cs.dropWhile isBlank)
  if handle != ['!'] && (handle.length = 1 || handle.getLast? != some '!') then none
  else if !rest.head?.elim false isBlank then none
  else
    let rest := rest.dropWhile isBlank
    let (stem, rest) ← uri? true rest.length rest
    if stem.isEmpty || !startsGap rest then none
    else return (.tagHandle (String.ofList handle) (String.ofList stem), rest)

def directive? (cs : List Char) : Option (Token × List Char) :=
  let name := cs.takeWhile isNameChar
  let rest := cs.drop name.length
  if !startsGap rest then none
  else if name = "YAML".toList then versionDirective? rest
  else if name = "TAG".toList then tagDirective? rest
  else none

end Shortlist.Yaml
