import MarkerScan.Yaml.Node
/-
  MarkerScan.Yaml.Reader — the documents of a YAML text.

  Where a key, a value or an item is left out there is `null`; after an anchor or a tag
  there is an empty scalar instead. An alias is a copy of the node its anchor was last
  put on, and no value inside that node itself.
-/

namespace MarkerScan.Yaml

/-- Anchors: which node each name stands for, and the nodes that are complete. -/
structure Anchors where
  names : List (List Char × Nat) := []
  nodes : List (Nat × Node) := []
  next : Nat := 1

/-- Where reading stands. -/
structure Place where
  tokens : List Token
  anchors : Anchors := {}

namespace Place

def peek (p : Place) : Token := p.tokens.headD .streamEnd

def skip (p : Place) : Place := { p with tokens := p.tokens.drop 1 }

/-- Puts an anchor on the node that is read next. -/
def addAnchor (p : Place) (name : List Char) : Nat × Place :=
  (p.anchors.next, { p with anchors := { p.anchors with
    names := (name, p.anchors.next) :: p.anchors.names, next := p.anchors.next + 1 } })

/-- The node of an anchor is complete. -/
def complete (p : Place) (anchor : Option Nat) (n : Node) : Place :=
  match anchor with
  | some id => { p with anchors := { p.anchors with nodes := (id, n) :: p.anchors.nodes } }
  | none => p

end Place

/-- What stands in front of a node: an anchor, and the handle and suffix of a tag. -/
structure Properties where
  anchor : Option Nat := none
  tag : Option (List Char × List Char) := none

/-- The anchor and the tag in front of a node, in either order. -/
def properties (p : Place) : Properties × Place :=
  match p.peek with
  | .anchor name =>
    let (id, p) := p.skip.addAnchor name
    match p.peek with
    | .tag handle suffix => (⟨some id, some (handle, suffix)⟩, p.skip)
    | _ => (⟨some id, none⟩, p)
  | .tag handle suffix =>
    let p := p.skip
    match p.peek with
    | .anchor name =>
      let (id, p) := p.skip.addAnchor name
      (⟨some id, some (handle, suffix)⟩, p)
    | _ => (⟨none, some (handle, suffix)⟩, p)
  | _ => ({}, p)

/-- The kinds of collections: how their items are marked off. -/
inductive Collection where
  | blockSequence
  /-- A block sequence at the indentation of the mapping it is in. -/
  | flatSequence
  | blockMapping
  | flowSequence
  | flowMapping
  deriving DecidableEq, Repr

/-- The token opens a collection here; its own token is to be skipped, except in a flat sequence. -/
def opens? (block flat : Bool) : Token → Option Collection
  | .blockEntry => if flat then some .flatSequence else none
  | .flowSequenceStart => some .flowSequence
  | .flowMappingStart => some .flowMapping
  | .blockSequenceStart => if block then some .blockSequence else none
  | .blockMappingStart => if block then some .blockMapping else none
  | _ => none

def Collection.node : Collection → List Node → Node
  | .blockMapping, nodes => .ofPairs nodes
  | .flowMapping, nodes => .ofPairs nodes
  | _, nodes => .list nodes

/-- An entry of a block mapping or sequence is left out before these. -/
def endsEntry : Token → Bool
  | .key => true
  | .value => true
  | .blockEnd => true
  | _ => false

/-- An entry of a flow collection is left out before these. -/
def endsFlowEntry (close : Token) (t : Token) : Bool := t == .flowEntry || t == close

/-- Passes the comma in front of an entry that is not the first. -/
def flowEntry? (close : Token) (first : Bool) (p : Place) : Option Place :=
  if first || p.peek == close then some p
  else if p.peek = .flowEntry then some p.skip
  else none

mutual
/-- A node. `block` admits block collections, `flat` a sequence without indentation. -/
def node? : Nat → Bool → Bool → Place → Option (Node × Place)
  | 0, _, _, _ => none
  | fuel + 1, block, flat, p =>
    match p.peek with
    | .reference name =>
      match p.anchors.names.lookup name with
      | some id => some ((p.anchors.nodes.lookup id).getD .missing, p.skip)
      | none => none
    | _ =>
      let (props, p) := properties p
      match p.peek with
      | .scalar style text =>
        let n := Node.ofScalar style props.tag text
        some (n, p.skip.complete props.anchor n)
      | t =>
        match opens? block flat t with
        | some kind =>
          match items? fuel kind true [] (if kind = .flatSequence then p else p.skip) with
          | some (nodes, p) =>
            let n := kind.node nodes
            some (n, p.complete props.anchor n)
          | none => none
        | none =>
          if props.tag.isSome || props.anchor.isSome then
            let n := Node.ofScalar .plain props.tag []
            some (n, p.complete props.anchor n)
          else none

/-- The nodes of a collection from its next entry on; `read` holds those before, latest first. -/
def items? : Nat → Collection → Bool → List Node → Place → Option (List Node × Place)
  | 0, _, _, _, _ => none
  | fuel + 1, .blockSequence, _, read, p =>
    match p.peek with
    | .blockEnd => some (read.reverse, p.skip)
    | .blockEntry =>
      let p := p.skip
      if p.peek = .blockEntry ∨ p.peek = .blockEnd then items? fuel .blockSequence false (.null :: read) p
      else match node? fuel true false p with
        | some (n, p) => items? fuel .blockSequence false (n :: read) p
        | none => none
    | _ => none
  | fuel + 1, .flatSequence, _, read, p =>
    match p.peek with
    | .blockEntry =>
      let p := p.skip
      if p.peek = .blockEntry ∨ endsEntry p.peek then items? fuel .flatSequence false (.null :: read) p
      else match node? fuel true false p with
        | some (n, p) => items? fuel .flatSequence false (n :: read) p
        | none => none
    | _ => some (read.reverse, p)
  | fuel + 1, .blockMapping, _, read, p =>
    match p.peek with
    | .blockEnd => some (read.reverse, p.skip)
    | .key =>
      let p := p.skip
      if endsEntry p.peek then blockValue? fuel (.null :: read) p
      else match node? fuel true true p with
        | some (n, p) => blockValue? fuel (n :: read) p
        | none => none
    | .value => blockValue? fuel (.null :: read) p
    | _ => none
  | fuel + 1, .flowSequence, first, read, p =>
    match flowEntry? .flowSequenceEnd first p with
    | none => none
    | some p =>
      match p.peek with
      | .flowSequenceEnd => some (read.reverse, p.skip)
      | .key =>
        let p := p.skip
        if p.peek = .value ∨ endsFlowEntry .flowSequenceEnd p.peek then pairValue? fuel .null read p.skip
        else match node? fuel false false p with
          | some (n, p) => pairValue? fuel n read p
          | none => none
      | _ => match node? fuel false false p with
        | some (n, p) => items? fuel .flowSequence false (n :: read) p
        | none => none
  | fuel + 1, .flowMapping, first, read, p =>
    match flowEntry? .flowMappingEnd first p with
    | none => none
    | some p =>
      match p.peek with
      | .flowMappingEnd => some (read.reverse, p.skip)
      | .key =>
        let p := p.skip
        if p.peek = .value ∨ endsFlowEntry .flowMappingEnd p.peek then flowValue? fuel (.null :: read) p
        else match node? fuel false false p with
          | some (n, p) => flowValue? fuel (n :: read) p
          | none => none
      | .value => flowValue? fuel (.null :: read) p
      | _ => match node? fuel false false p with
        | some (n, p) => items? fuel .flowMapping false (.null :: n :: read) p
        | none => none

/-- The value of an entry of a block mapping, and the entries after it. -/
def blockValue? : Nat → List Node → Place → Option (List Node × Place)
  | 0, _, _ => none
  | fuel + 1, read, p =>
    if p.peek = .value then
      let p := p.skip
      if endsEntry p.peek then items? fuel .blockMapping false (.null :: read) p
      else match node? fuel true true p with
        | some (n, p) => items? fuel .blockMapping false (n :: read) p
        | none => none
    else items? fuel .blockMapping false (.null :: read) p

/-- The value of an entry of a flow mapping, and the entries after it. -/
def flowValue? : Nat → List Node → Place → Option (List Node × Place)
  | 0, _, _ => none
  | fuel + 1, read, p =>
    if p.peek = .value then
      let p := p.skip
      if endsFlowEntry .flowMappingEnd p.peek then items? fuel .flowMapping false (.null :: read) p
      else match node? fuel false false p with
        | some (n, p) => items? fuel .flowMapping false (n :: read) p
        | none => none
    else items? fuel .flowMapping false (.null :: read) p

/-- The value of a single pair in a flow sequence, and the items after it. -/
def pairValue? : Nat → Node → List Node → Place → Option (List Node × Place)
  | 0, _, _, _ => none
  | fuel + 1, key, read, p =>
    if p.peek = .value then
      let p := p.skip
      if endsFlowEntry .flowSequenceEnd p.peek then
        items? fuel .flowSequence false (.ofPairs [key, .null] :: read) p
      else match node? fuel false false p with
        | some (n, p) => items? fuel .flowSequence false (.ofPairs [key, n] :: read) p
        | none => none
    else items? fuel .flowSequence false (.ofPairs [key, .null] :: read) p
end

/-! ## Documents -/

/-- The content of a document is left out before these. -/
def endsDocument : Token → Bool
  | .directive => true
  | .documentStart => true
  | .documentEnd => true
  | .streamEnd => true
  | _ => false

def skipTokens (t : Token) (p : Place) : Place := { p with tokens := p.tokens.dropWhile (· == t) }

/-- A document that starts with `---`. -/
def explicit? (fuel : Nat) (p : Place) : Option (Node × Place) :=
  let p := skipTokens .directive p
  if p.peek = .documentStart then
    let p := p.skip
    if endsDocument p.peek then some (.null, p) else node? fuel true false p
  else none

/-- The documents after the first; `read` holds those before, latest first. -/
def more? : Nat → Nat → List Node → Place → Option (List Node)
  | 0, _, _, _ => none
  | count + 1, fuel, read, p =>
    let p := if p.peek = .documentEnd then p.skip else p
    let p := skipTokens .documentEnd p
    if p.peek = .streamEnd then some read.reverse
    else match explicit? fuel { p with anchors := { p.anchors with names := [] } } with
      | some (n, p) => more? count fuel (n :: read) p
      | none => none

/-- The documents of a text. -/
def documents? (text : List Char) : Option (List Node) := do
  let tokens ← tokens? text
  let p : Place := { tokens := tokens.toList }
  let fuel := 2 * tokens.size + 2
  let (n, p) ←
    match p.peek with
    | .streamEnd => return []
    | .directive => explicit? fuel p
    | .documentStart => explicit? fuel p
    | _ => node? fuel true false p
  more? (tokens.size + 1) fuel [n] p

end MarkerScan.Yaml
