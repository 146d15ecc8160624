import Triage.Text.Yaml.Token

/-!
The nodes of a document, as its tokens nest. A node may have an anchor and an alias may stand for a
node with an anchor. Anchors are numbered: each takes the count of the names before it, so that a
name that is given again, or the next new one, may take a number over from another node.
-/

namespace Triage

namespace Yaml

structure Properties where
  anchor : Option Nat := none
  tag : Option (List Char) := none
deriving DecidableEq, Repr, Inhabited

end Yaml

inductive Yaml
  | reference (anchor : Nat)
  | scalar (properties : Yaml.Properties) (style : Yaml.Style) (text : String)
  | sequence (properties : Yaml.Properties) (items : List Yaml)
  | mapping (properties : Yaml.Properties) (fields : List (Yaml × Yaml))
deriving Repr, Inhabited

namespace Yaml

def empty : Yaml := .scalar {} .plain ""

/-! ## Anchors -/

def anchor? : Yaml → Option Nat
  | reference _ => none
  | scalar p .. | sequence p .. | mapping p .. => p.anchor

/-- The nodes from a node down, each before those within it. -/
def nodes : Yaml → List Yaml
  | reference n => [reference n]
  | scalar p style text => [scalar p style text]
  | sequence p items => sequence p items :: items.attach.flatMap fun ⟨item, _⟩ => nodes item
  | mapping p fields =>
    mapping p fields :: fields.attach.flatMap fun ⟨(key, value), _⟩ => nodes key ++ nodes value
decreasing_by
  all_goals simp_wf
  all_goals rename_i h
  all_goals have := List.sizeOf_lt_of_mem h
  all_goals simp_all
  all_goals omega

/-- What a node of a document stands for: of the nodes with an alias's number the last one. -/
def resolve (root : Yaml) : Yaml → Yaml
  | reference n => (root.nodes.filter (·.anchor? = some n)).getLast?.getD (reference n)
  | node => node

/-! ## Reading nodes -/

/-- The tokens that are left, the numbers of the names so far, and what handles stand for. -/
structure Reading where
  tokens : List Token
  anchors : List (List Char × Nat) := []
  handles : List (List Char × List Char) := []

abbrev Reader := StateT Reading Option

namespace Reader

def peek : Reader (Option Token) := do return (← get).tokens.head?

def skip : Reader Unit := modify fun r => { r with tokens := r.tokens.drop 1 }

def expect (t : Token) : Reader Unit := do
  if (← peek) = some t then skip else failure

/-- Whether the next token is one of these. There is none at the end. -/
def at? (ts : List Token) : Reader Bool := do return (← peek).any ts.contains

/-- Gives a name to the node that starts here. -/
def nameAnchor (name : List Char) : Reader Nat :=
  modifyGet fun r =>
    let n := r.anchors.length
    (n, { r with anchors :=
      if (r.anchors.lookup name).isSome then
        r.anchors.map fun a => if a.1 = name then (name, n) else a
      else r.anchors ++ [(name, n)] })

/-- A tag without a handle is complete. -/
def resolveTag (handle rest : List Char) : Reader (List Char) := do
  if handle.isEmpty then return rest
  match (← get).handles.lookup handle with
  | some uri => return uri ++ rest
  | none => failure

/-- An anchor and a tag, in either order. -/
def properties (p : Properties := {}) : Nat → Reader Properties
  | 0 => return p
  | n + 1 => do
    match ← peek with
    | some (.anchor name) =>
      if p.anchor.isSome then return p
      skip
      properties { p with anchor := some (← nameAnchor name) } n
    | some (.tag handle rest) =>
      if p.tag.isSome then return p
      skip
      properties { p with tag := some (← resolveTag handle rest) } n
    | _ => return p

mutual

/-- A node. Blocks are read only where a block may stand, and items without a block of their own only
where `bareItems` allows them. -/
def node (block bareItems : Bool) : Nat → Reader Yaml
  | 0 => failure
  | fuel + 1 => do
    if let some (.reference name) ← peek then
      skip
      match (← get).anchors.lookup name with
      | some n => return .reference n
      | none => failure
    let p ← properties {} 2
    let orEmpty : Reader Yaml :=
      if p.anchor.isSome || p.tag.isSome then return .scalar p .plain "" else failure
    match ← peek with
    | some .item =>
      if bareItems then return .sequence p (← items [.key, .value, .blockEnd] fuel) else orEmpty
    | some (.scalar style text) =>
      skip
      let tag := p.tag.filter (· ≠ ['!'])
      return .scalar { p with tag } style (String.ofList text)
    | some .openSequence =>
      skip
      return .sequence p (← flowItems true fuel)
    | some .openMapping =>
      skip
      return .mapping p (← flowFields true fuel)
    | some .blockSequence =>
      if !block then orEmpty
      else
        skip
        let nodes ← items [.blockEnd] fuel
        expect .blockEnd
        return .sequence p nodes
    | some .blockMapping =>
      if !block then orEmpty
      else
        skip
        return .mapping p (← fields fuel)
    | _ => orEmpty

/-- The items of a block; an item without a node is empty. -/
def items (ends : List Token) : Nat → Reader (List Yaml)
  | 0 => failure
  | fuel + 1 => do
    if !(← at? [.item]) then return []
    skip
    let item ← if ← at? (.item :: ends) then pure empty else node true false fuel
    return item :: (← items ends fuel)

/-- The fields of a block up to its end. A key may be empty, and so may a value. -/
def fields : Nat → Reader (List (Yaml × Yaml))
  | 0 => failure
  | fuel + 1 => do
    if ← at? [.blockEnd] then
      skip
      return []
    expect .key
    let ends := [.key, .value, .blockEnd]
    let key ← if ← at? ends then pure empty else node true true fuel
    let value ←
      if ← at? [.value] then
        skip
        if ← at? ends then pure empty else node true true fuel
      else pure empty
    return (key, value) :: (← fields fuel)

/-- The items of a flow up to its end. A key among them is a mapping of one field. -/
def flowItems (first : Bool) : Nat → Reader (List Yaml)
  | 0 => failure
  | fuel + 1 => do
    if !first && !(← at? [.closeSequence]) then expect .comma
    if ← at? [.closeSequence] then
      skip
      return []
    let item ←
      if ← at? [.key] then
        skip
        pure (.mapping {} [← singleField fuel])
      else node false false fuel
    return item :: (← flowItems false fuel)

/-- The field of a key in a sequence. A token at which the key is empty is left out. -/
def singleField : Nat → Reader (Yaml × Yaml)
  | 0 => failure
  | fuel + 1 => do
    let key ←
      if ← at? [.value, .comma, .closeSequence] then
        skip
        pure empty
      else node false false fuel
    if ← at? [.value] then
      skip
      let value ← if ← at? [.comma, .closeSequence] then pure empty else node false false fuel
      return (key, value)
    return (key, empty)

/-- The fields of a flow up to its end. A node without a key before it has an empty value. -/
def flowFields (first : Bool) : Nat → Reader (List (Yaml × Yaml))
  | 0 => failure
  | fuel + 1 => do
    if !first && !(← at? [.closeMapping]) then expect .comma
    if ← at? [.closeMapping] then
      skip
      return []
    let field ←
      if ← at? [.key] then
        skip
        let key ←
          if ← at? [.value, .comma, .closeMapping] then pure empty else node false false fuel
        if ← at? [.value] then
          skip
          let value ← if ← at? [.comma, .closeMapping] then pure empty else node false false fuel
          pure (key, value)
        else pure (key, empty)
      else do
        let key ← node false false fuel
        pure (key, empty)
    return field :: (← flowFields false fuel)

end

/-! ## Reading documents -/

/-- What handles stand for unless a directive says so. -/
def commonHandles : List (List Char × List Char) :=
  [("!".toList, "!".toList), ("!!".toList, "tag:yaml.org,2002:".toList)]

/-- The directives in front of a document. At most one tells the version, and each handle comes at
most once. -/
def directives (versioned : Bool) : Nat → Reader Unit
  | 0 => return
  | fuel + 1 => do
    match ← peek with
    | some (.version major minor) =>
      if versioned || major ≠ 1 || (minor ≠ 1 && minor ≠ 2) then failure
      skip
      directives true fuel
    | some (.handle name uri) =>
      if ((← get).handles.lookup name).isSome then failure
      skip
      modify fun r => { r with handles := r.handles ++ [(name, uri)] }
      directives versioned fuel
    | _ => return

def isDirective : Token → Bool
  | .version .. | .handle .. => true
  | _ => false

/-- The node of the first document, if there is one. It may do without a mark at its start if it has
no directives. -/
def document : Reader (Option Yaml) := do
  let size := (← get).tokens.length
  let useCommon : Reader Unit := modify fun r => { r with handles := r.handles ++ commonHandles }
  match ← peek with
  | none => return none
  | some t =>
    if isDirective t || t = .documentStart then
      directives false size
      useCommon
      expect .documentStart
      match ← peek with
      | none => return some empty
      | some t =>
        if isDirective t || t = .documentStart || t = .documentEnd then return some empty
        else return some (← node true false (4 * size))
    else
      useCommon
      return some (← node true false (4 * size))

end Reader

/-- The node of a text with at most one document, none if it has no document. Fails on a text that is
malformed. -/
def parse? (text : String) : Option (Option Yaml) := do
  let tokens ← Token.ofText? text.toList
  let (node, rest) ← Reader.document.run { tokens }
  if rest.tokens.all (· = .documentEnd) then some node else none

end Yaml

end Triage
