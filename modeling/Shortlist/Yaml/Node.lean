import Shortlist.Yaml.Token
/-! The tree that tokens stand for. -/
namespace Shortlist.Yaml

/-- Anchors and the aliases that refer to them are named by `α`. Tags are written out in full. -/
inductive Node (α : Type) where
  | alias (target : α)
  | scalar (anchor : Option α) (tag : Option String) (style : ScalarStyle) (text : String)
  | seq (anchor : Option α) (tag : Option String) (items : List (Node α))
  | map (anchor : Option α) (tag : Option String) (entries : List (Node α × Node α))
deriving Inhabited

abbrev Handles := List (String × String)

namespace Handles

def find? (hs : Handles) (handle : String) : Option String :=
  match hs.lookup handle with
  | some stem => some stem
  | none =>
    if handle = "!" then some "!"
    else if handle = "!!" then some "tag:yaml.org,2002:"
    else none

end Handles

structure Props where
  anchor : Option String := none
  tag : Option String := none

namespace Props

def isEmpty (p : Props) : Bool := p.anchor.isNone && p.tag.isNone

def empty (p : Props) : Node String := .scalar p.anchor p.tag .plain ""

/-- The tag of a scalar. A lone mark is no tag. -/
def scalarTag (p : Props) : Option String := p.tag.filter (· != "!")

end Props

def nothing : Node String := .scalar none none .plain ""

def fullTag? (hs : Handles) (handle rest : String) : Option String :=
  if handle.isEmpty then some rest else (hs.find? handle).map (· ++ rest)

def props? (hs : Handles) : List Token → Option (Props × List Token)
  | .anchor anchor :: .tag handle rest :: ts =>
    (fullTag? hs handle rest).map fun tag => (⟨some anchor, some tag⟩, ts)
  | .tag handle rest :: .anchor anchor :: ts =>
    (fullTag? hs handle rest).map fun tag => (⟨some anchor, some tag⟩, ts)
  | .anchor anchor :: ts => some (⟨some anchor, none⟩, ts)
  | .tag handle rest :: ts => (fullTag? hs handle rest).map fun tag => (⟨none, some tag⟩, ts)
  | ts => some ({}, ts)

def endsEntry : List Token → Bool
  | .key :: _ | .value :: _ | .blockEnd :: _ => true
  | _ => false

def endsItem : List Token → Bool
  | .blockEntry :: _ | .blockEnd :: _ => true
  | _ => false

def endsLooseItem (ts : List Token) : Bool := endsItem ts || endsEntry ts

def endsFlowItem : List Token → Bool
  | .value :: _ | .flowEntry :: _ | .flowSeqEnd :: _ => true
  | _ => false

def endsFlowEntry : List Token → Bool
  | .value :: _ | .flowEntry :: _ | .flowMapEnd :: _ => true
  | _ => false

/-- Where a node stands. Inside flow collections there are no block collections, and only in the
entries of a block mapping may a sequence do without indentation. -/
inductive Place where
  | flow | item | entry
deriving DecidableEq

def separated? (first : Bool) : List Token → Option (List Token)
  | .flowEntry :: ts => some (if first then .flowEntry :: ts else ts)
  | ts => if first then some ts else none

mutual
/-- One node. Each call either takes a token or is followed by one that does, so twice the number
of tokens bounds the steps. -/
def node? (hs : Handles) : Nat → Place → List Token → Option (Node String × List Token)
  | 0, _, _ => none
  | _, _, .alias name :: ts => some (.alias name, ts)
  | fuel + 1, place, ts => do
    let (p, ts) ← props? hs ts
    match ts with
    | .scalar style text :: ts => return (.scalar p.anchor p.scalarTag style text, ts)
    | .flowSeqStart :: ts =>
      let (items, ts) ← flowItems? hs fuel true ts
      return (.seq p.anchor p.tag items, ts)
    | .flowMapStart :: ts =>
      let (entries, ts) ← flowEntries? hs fuel true ts
      return (.map p.anchor p.tag entries, ts)
    | .blockEntry :: _ =>
      if place = .entry then
        let (items, ts) ← looseItems? hs fuel ts
        return (.seq p.anchor p.tag items, ts)
      else if p.isEmpty then none
      else return (p.empty, ts)
    | .blockSeqStart :: rest =>
      if place ≠ .flow then
        let (items, ts) ← items? hs fuel rest
        return (.seq p.anchor p.tag items, ts)
      else if p.isEmpty then none
      else return (p.empty, ts)
    | .blockMapStart :: rest =>
      if place ≠ .flow then
        let (entries, ts) ← entries? hs fuel rest
        return (.map p.anchor p.tag entries, ts)
      else if p.isEmpty then none
      else return (p.empty, ts)
    | ts => if p.isEmpty then none else return (p.empty, ts)

def items? (hs : Handles) : Nat → List Token → Option (List (Node String) × List Token)
  | 0, _ => none
  | _, .blockEnd :: ts => some ([], ts)
  | fuel + 1, .blockEntry :: ts => do
    let (x, ts) ← if endsItem ts then some (nothing, ts) else node? hs fuel .item ts
    let (xs, ts) ← items? hs fuel ts
    return (x :: xs, ts)
  | _, _ => none

def looseItems? (hs : Handles) : Nat → List Token → Option (List (Node String) × List Token)
  | 0, _ => none
  | fuel + 1, .blockEntry :: ts => do
    let (x, ts) ← if endsLooseItem ts then some (nothing, ts) else node? hs fuel .item ts
    let (xs, ts) ← looseItems? hs fuel ts
    return (x :: xs, ts)
  | _, ts => some ([], ts)

def entries? (hs : Handles) : Nat → List Token →
    Option (List (Node String × Node String) × List Token)
  | 0, _ => none
  | _, .blockEnd :: ts => some ([], ts)
  | fuel + 1, .key :: ts => do
    let (k, ts) ← if endsEntry ts then some (nothing, ts) else node? hs fuel .entry ts
    let (v, ts) ← entryValue? hs fuel ts
    let (es, ts) ← entries? hs fuel ts
    return ((k, v) :: es, ts)
  | _, _ => none

def entryValue? (hs : Handles) : Nat → List Token → Option (Node String × List Token)
  | 0, _ => none
  | fuel + 1, .value :: ts =>
    if endsEntry ts then some (nothing, ts) else node? hs fuel .entry ts
  | _, ts => some (nothing, ts)

/-- The items of a flow sequence. One that begins with a key is a mapping of one entry. -/
def flowItems? (hs : Handles) : Nat → Bool → List Token →
    Option (List (Node String) × List Token)
  | 0, _, _ => none
  | _, _, .flowSeqEnd :: ts => some ([], ts)
  | fuel + 1, first, ts => do
    match ← separated? first ts with
    | .flowSeqEnd :: ts => return ([], ts)
    | .key :: ts =>
      let (k, ts) ← if endsFlowItem ts then some (nothing, ts.drop 1) else node? hs fuel .flow ts
      let (v, ts) ← flowItemValue? hs fuel ts
      let (xs, ts) ← flowItems? hs fuel false ts
      return (.map none none [(k, v)] :: xs, ts)
    | ts =>
      let (x, ts) ← node? hs fuel .flow ts
      let (xs, ts) ← flowItems? hs fuel false ts
      return (x :: xs, ts)

def flowItemValue? (hs : Handles) : Nat → List Token → Option (Node String × List Token)
  | 0, _ => none
  | fuel + 1, .value :: ts =>
    match ts with
    | .flowEntry :: _ | .flowSeqEnd :: _ => some (nothing, ts)
    | ts => node? hs fuel .flow ts
  | _, ts => some (nothing, ts)

/-- The entries of a flow mapping. A node without a key's mark has nothing as its value. -/
def flowEntries? (hs : Handles) : Nat → Bool → List Token →
    Option (List (Node String × Node String) × List Token)
  | 0, _, _ => none
  | _, _, .flowMapEnd :: ts => some ([], ts)
  | fuel + 1, first, ts => do
    match ← separated? first ts with
    | .flowMapEnd :: ts => return ([], ts)
    | .key :: ts =>
      let (k, ts) ← if endsFlowEntry ts then some (nothing, ts) else node? hs fuel .flow ts
      let (v, ts) ← flowEntryValue? hs fuel ts
      let (es, ts) ← flowEntries? hs fuel false ts
      return ((k, v) :: es, ts)
    | ts =>
      let (k, ts) ← node? hs fuel .flow ts
      let (es, ts) ← flowEntries? hs fuel false ts
      return ((k, nothing) :: es, ts)

def flowEntryValue? (hs : Handles) : Nat → List Token → Option (Node String × List Token)
  | 0, _ => none
  | fuel + 1, .value :: ts =>
    match ts with
    | .flowEntry :: _ | .flowMapEnd :: _ => some (nothing, ts)
    | ts => node? hs fuel .flow ts
  | _, ts => some (nothing, ts)
end

/-! ### Documents -/

/-- The directives before a document. A version or a handle is declared once. -/
def directives? (versioned : Bool) (hs : Handles) : List Token → Option (Handles × List Token)
  | .version major minor :: ts =>
    if versioned || major ≠ 1 || (minor ≠ 1 && minor ≠ 2) then none
    else directives? true hs ts
  | .tagHandle handle stem :: ts =>
    if (hs.lookup handle).isSome then none else directives? versioned ((handle, stem) :: hs) ts
  | ts => some (hs, ts)

def endsDocument : List Token → Bool
  | [] | .version .. :: _ | .tagHandle .. :: _ | .documentStart :: _ | .documentEnd :: _ => true
  | _ => false

/-- The one document of a text. An empty text has none. -/
def document? (ts : List Token) : Option (Option (Node String)) := do
  if ts.isEmpty then return none
  let fuel := 2 * ts.length + 2
  let (hs, rest) ← directives? false [] ts
  let (root, rest) ← match rest with
    | .documentStart :: rest =>
      if endsDocument rest then some (nothing, rest) else node? hs fuel .item rest
    | rest => if rest.length < ts.length then none else node? hs fuel .item rest
  let rest := rest.dropWhile (· = .documentEnd)
  if rest.isEmpty then return some root else none

end Shortlist.Yaml
