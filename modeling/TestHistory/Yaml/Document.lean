import TestHistory.Keyed
import TestHistory.Yaml.Node
import TestHistory.Yaml.Token

/-!
# Documents

`Value.parse?` reads a text with one document or none. An anchor has the number of names that
anchors had before it, so that one whose name is taken shares its number with the next new name.
-/

namespace TestHistory.Yaml

/-- What is still to be read of a document, and what has been seen. -/
structure Document where
  tokens : List Token
  handles : List (String × List UInt8)
  /-- The numbers that the names of anchors have at this place. -/
  numbers : List (String × Nat)
  /-- Starts and ends of collections, scalars and aliases. -/
  events : Nat

abbrev Reading := StateT Document Option

/-- The anchor and the tag in front of a value. -/
structure Properties where
  anchor : Option String
  tag : Option (List UInt8)

namespace Document

def peek : Reading (Option Token) := do
  return (← get).tokens.head?

def drop : Reading Unit :=
  modify fun d => { d with tokens := d.tokens.drop 1 }

def countEvents (n : Nat) : Reading Unit :=
  modify fun d => { d with events := d.events + n }

/-- The number of an anchor that begins here. -/
def openAnchor (name : Option String) : Reading (Option Nat) := do
  match name with
  | none => return none
  | some name =>
    let number := (← get).numbers.length
    modify fun d => { d with numbers := Keyed.put name number d.numbers }
    return some number

def aliased (name : String) : Reading Node := do
  countEvents 1
  match (← get).numbers.lookup name with
  | some number => return .alias number
  | none => failure

/-- A tag in full. -/
def resolve (tag : Tag) : Reading (List UInt8) := do
  if tag.handle = "" then return tag.suffix
  else match (← get).handles.lookup tag.handle with
    | some start => return start ++ tag.suffix
    | none => failure

def readTag : Reading (Option Tag) := do
  match ← peek with
  | some (.tag tag) => drop; return some tag
  | _ => return none

def readAnchor : Reading (Option String) := do
  match ← peek with
  | some (.anchor name) => drop; return some name
  | _ => return none

/-- Anchor and tag in either order. -/
def readProperties : Reading Properties := do
  let first ← readAnchor
  let tag ← readTag
  let anchor ← if first.isSome || tag.isNone then pure first else readAnchor
  match tag with
  | none => return ⟨anchor, none⟩
  | some tag => return ⟨anchor, some (← resolve tag)⟩

def scalar (p : Properties) (plain : Bool) (text : String) : Reading Node := do
  countEvents 1
  let number ← openAnchor p.anchor
  match Schema.ofScalar? p.tag plain text with
  | some value => return .scalar number value
  | none => failure

def absent : Reading Node :=
  scalar ⟨none, none⟩ true ""

/-- An anchor or a tag alone makes an empty scalar. -/
def absentWith (p : Properties) : Reading Node :=
  if p.anchor.isNone ∧ p.tag.isNone then failure else scalar p true ""

def sequence (p : Properties) (read : Reading (List Node)) : Reading Node := do
  countEvents 2
  let number ← openAnchor p.anchor
  return .sequence number p.tag (← read)

def mapping (p : Properties) (read : Reading (List (Node × Node))) : Reading Node := do
  countEvents 2
  let number ← openAnchor p.anchor
  return .mapping number p.tag (← read)

/-- A token after which a block has no value, but goes on or ends. -/
def endsBlockValue : Option Token → Bool
  | some .item | some .key | some .value | some .blockEnd => true
  | _ => false

mutual

/-- A value; `block` where blocks may begin, `bare` where a sequence needs no deeper indentation. -/
def node (block bare : Bool) : Nat → Reading Node
  | 0 => failure
  | fuel + 1 => do
    if let some (.alias name) ← peek then
      drop
      aliased name
    else
      let p ← readProperties
      match ← peek with
      | some .item => if bare then sequence p (bareItems fuel) else absentWith p
      | some (.scalar plain text) => drop; scalar p plain text
      | some .openSequence => drop; sequence p (flowItems true fuel)
      | some .openMapping => drop; mapping p (flowEntries true fuel)
      | some .blockSequence =>
        if block then drop; sequence p (blockItems fuel) else absentWith p
      | some .blockMapping =>
        if block then drop; mapping p (blockEntries fuel) else absentWith p
      | _ => absentWith p

/-- The items of an indented sequence, to the end of its block. -/
def blockItems : Nat → Reading (List Node)
  | 0 => failure
  | fuel + 1 => do
    match ← peek with
    | some .item =>
      drop
      let item ← match ← peek with
        | some .item | some .blockEnd => absent
        | _ => node true false fuel
      return item :: (← blockItems fuel)
    | some .blockEnd => drop; return []
    | _ => failure

/-- The items of a sequence that is indented as the mapping around it. -/
def bareItems : Nat → Reading (List Node)
  | 0 => failure
  | fuel + 1 => do
    match ← peek with
    | some .item =>
      drop
      let item ← if endsBlockValue (← peek) then absent else node true false fuel
      return item :: (← bareItems fuel)
    | _ => return []

def blockPart : Nat → Reading Node
  | 0 => failure
  | fuel + 1 => do
    match ← peek with
    | some .key | some .value | some .blockEnd => absent
    | _ => node true true fuel

def blockEntries : Nat → Reading (List (Node × Node))
  | 0 => failure
  | fuel + 1 => do
    match ← peek with
    | some .key =>
      drop
      let key ← blockPart fuel
      let value ← match ← peek with
        | some .value => drop; blockPart fuel
        | _ => absent
      return (key, value) :: (← blockEntries fuel)
    | some .blockEnd => drop; return []
    | _ => failure

/-- The items between brackets; every one but the first has a comma before it. -/
def flowItems (first : Bool) : Nat → Reading (List Node)
  | 0 => failure
  | fuel + 1 => do
    match first, ← peek with
    | _, some .closeSequence => drop; return []
    | false, some .comma => drop; flowItem fuel
    | true, _ => flowItem fuel
    | _, _ => failure

def flowItem : Nat → Reading (List Node)
  | 0 => failure
  | fuel + 1 => do
    match ← peek with
    | some .closeSequence => drop; return []
    | some .key =>
      drop
      let pair ← mapping ⟨none, none⟩ (flowPair fuel)
      return pair :: (← flowItems false fuel)
    | _ =>
      let item ← node false false fuel
      return item :: (← flowItems false fuel)

/-- A single entry in the place of an item. The sign in the place of an absent key is skipped. -/
def flowPair : Nat → Reading (List (Node × Node))
  | 0 => failure
  | fuel + 1 => do
    let key ← match ← peek with
      | some .value | some .comma | some .closeSequence => drop; absent
      | _ => node false false fuel
    let value ← match ← peek with
      | some .value =>
        drop
        match ← peek with
        | some .comma | some .closeSequence => absent
        | _ => node false false fuel
      | _ => absent
    return [(key, value)]

/-- The entries between braces; every one but the first has a comma before it. -/
def flowEntries (first : Bool) : Nat → Reading (List (Node × Node))
  | 0 => failure
  | fuel + 1 => do
    match first, ← peek with
    | _, some .closeMapping => drop; return []
    | false, some .comma => drop; flowEntry fuel
    | true, _ => flowEntry fuel
    | _, _ => failure

def flowPart : Nat → Reading Node
  | 0 => failure
  | fuel + 1 => do
    match ← peek with
    | some .value | some .comma | some .closeMapping => absent
    | _ => node false false fuel

def flowEntry : Nat → Reading (List (Node × Node))
  | 0 => failure
  | fuel + 1 => do
    match ← peek with
    | some .closeMapping => drop; return []
    | some .key =>
      drop
      let key ← flowPart fuel
      let value ← match ← peek with
        | some .value =>
          drop
          match ← peek with
          | some .comma | some .closeMapping => absent
          | _ => node false false fuel
        | _ => absent
      return (key, value) :: (← flowEntries false fuel)
    | _ =>
      let key ← node false false fuel
      let value ← absent
      return (key, value) :: (← flowEntries false fuel)

end

def defaultHandles : List (String × List UInt8) :=
  [("!", [Schema.ownMark]), ("!!", Schema.coreTag "")]

/-- Directives before a document: at most one version, and no handle twice. -/
def readDirectives (version : Bool) (handles : List (String × List UInt8)) :
    List Token → Option (List (String × List UInt8) × List Token)
  | .directive (.version major minor) :: rest =>
    if !version ∧ major = 1 ∧ (minor = 1 ∨ minor = 2) then readDirectives true handles rest
    else none
  | .directive (.tag handle start) :: rest =>
    if (handles.lookup handle).isSome then none
    else readDirectives version (handles ++ [(handle, start)]) rest
  | tokens => some (handles, tokens)

/-- The content of an explicit document, which may be empty. -/
def content (fuel : Nat) : Reading Node := do
  match ← peek with
  | none | some (.directive _) | some .documentStart | some .documentEnd => absent
  | _ => node true false fuel

/-- The start of a document: directives end with a marker, but no directives need none. -/
def start? (tokens : List Token) : Option (Bool × List (String × List UInt8) × List Token) :=
  match tokens with
  | .directive _ :: _ | .documentStart :: _ =>
    match readDirectives false [] tokens with
    | some (handles, .documentStart :: rest) => some (true, handles, rest)
    | _ => none
  | _ => some (false, [], tokens)

/-- How often aliases may be followed for every event. -/
def maxAliases : Nat := 100

def isMarkerEnd : Token → Bool
  | .documentEnd => true
  | _ => false

def ofTokens? (tokens : List Token) : Option Value := do
  if tokens.isEmpty then some .null
  else
    let (isExplicit, handles, tokens) ← start? tokens
    let fuel := 4 * tokens.length + 8
    let read := if isExplicit then content fuel else node true false fuel
    let (root, rest) ← read.run ⟨tokens, handles ++ defaultHandles, [], 0⟩
    if rest.tokens.all isMarkerEnd then root.value? (maxAliases * rest.events) else none

end Document

/-- The value of a text without a document is null. -/
def Value.parse? (text : String) : Option Value :=
  (tokens? text).bind Document.ofTokens?

end TestHistory.Yaml
