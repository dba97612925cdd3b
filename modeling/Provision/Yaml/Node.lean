import Provision.Yaml.Token.Scan

namespace Provision.Yaml

/-!
# Nodes of YAML

A document is a tree of scalars, sequences and mappings. A node with an anchor
can be referred to from later nodes: anchors take numbered slots, and a
reference stands for what its slot holds at the end of the document. An anchor
takes the slot whose number is that of the anchor names known so far.
-/

/-- A node. -/
inductive Node where
  /-- A scalar with its tag, if it has one. -/
  | scalar (content : Scalar) (tag : Option TagName)
  | sequence (items : List Node)
  | mapping (entries : List (Node × Node))
  /-- Stands for the node in a slot. -/
  | reference (slot : Nat)

/-- The scalar that stands where nothing is written. -/
def Node.nothing : Node :=
  .scalar ⟨[], .plain⟩ none

/-- A document that is being read. -/
structure Reading where
  tokens : List Token
  /-- Names of anchors with their slots, the latest first. -/
  slots : List (Text × Nat) := []
  /-- Slots with the number of the anchored node that took them, the latest first. -/
  owners : List (Nat × Nat) := []
  /-- Anchored nodes that were read, by number. -/
  anchored : List (Nat × Node) := []

/-- Reads a part of a document. -/
abbrev NodeReader := StateT Reading Option

namespace NodeReader

/-- The next token. -/
def peek : NodeReader (Option Token) := do
  return (← get).tokens.head?

/-- Move over the next token. -/
def advance : NodeReader Unit :=
  modify fun reading => { reading with tokens := reading.tokens.tail }

/-- Whether a certain token comes next. -/
def isAt (token : Token) : NodeReader Bool := do
  return (← peek) == some token

/-- Whether one of some tokens comes next. -/
def isAtAny (tokens : List Token) : NodeReader Bool := do
  return (← peek).any tokens.contains

/-- Move over a certain token, if it comes next. -/
def accept (token : Token) : NodeReader Bool := do
  let found ← isAt token
  if found then
    advance
  return found

/-- Move over a certain token, which has to come next. -/
def expect (token : Token) : NodeReader Unit := do
  unless ← accept token do
    failure

/-- Give an anchor its slot. Answers the number of the anchored node. -/
def takeSlot (name : Text) : NodeReader Nat := do
  let reading ← get
  let known := (reading.slots.map Prod.fst).eraseDups
  let number := reading.owners.length
  set { reading with
    slots := (name, known.length) :: reading.slots
    owners := (known.length, number) :: reading.owners }
  return number

/-- Keep an anchored node. -/
def keep (number : Option Nat) (node : Node) : NodeReader Node := do
  if let some number := number then
    modify fun reading => { reading with anchored := (number, node) :: reading.anchored }
  return node

/-- The slot of an anchor that is known. -/
def slotOf (name : Text) : NodeReader Nat := do
  match (← get).slots.lookup name with
  | some slot => return slot
  | none => failure

/-- What stands in front of a node. -/
structure Properties where
  anchor : Option Nat := none
  tag : Option TagName := none
  deriving Repr, DecidableEq

/-- Whether nothing stands in front of a node. -/
def Properties.isEmpty (properties : Properties) : Bool :=
  properties.anchor.isNone && properties.tag.isNone

/-- Handles of tags with the names that they stand for. -/
abbrev TagHandles := List (Text × TagName)

/-- The full name of a tag. -/
def tagName? (handles : TagHandles) (handle : Text) (suffix : TagName) : Option TagName :=
  if handle.isEmpty then
    some suffix
  else
    (handles.lookup handle).map (· ++ suffix)

/-- Read an anchor, if there is one. -/
def readAnchor : NodeReader (Option Nat) := do
  match ← peek with
  | some (.anchor name) =>
      advance
      return some (← takeSlot name)
  | _ => return none

/-- Read a tag, if there is one. -/
def readTag (handles : TagHandles) : NodeReader (Option TagName) := do
  match ← peek with
  | some (.tag handle suffix) =>
      advance
      match tagName? handles handle suffix with
      | some tag => return some tag
      | none => failure
  | _ => return none

/-- Read an anchor and a tag in either order. -/
def readProperties (handles : TagHandles) : NodeReader Properties := do
  match ← readTag handles with
  | some tag => return { anchor := ← readAnchor, tag := some tag }
  | none => return { anchor := ← readAnchor, tag := ← readTag handles }

/-- Where a node stands. -/
inductive Place where
  /-- Inside brackets. -/
  | flow
  /-- An entry of a block sequence, or the whole document. -/
  | block
  /-- A key or value of a block mapping, where a sequence needs no indentation. -/
  | inMapping
  deriving Repr, DecidableEq

/-- Tokens that end an entry of a block without a node. -/
def mappingEnds : List Token :=
  [.key, .value, .blockEnd]

/-- A node of which only the properties are written. -/
def absent (properties : Properties) : NodeReader Node :=
  if properties.isEmpty then
    failure
  else
    keep properties.anchor (.scalar ⟨[], .plain⟩ properties.tag)

mutual

/-- Read a node. -/
def node (handles : TagHandles) (place : Place) : (fuel : Nat) → NodeReader Node
  | 0 => failure
  | fuel + 1 => do
      match ← peek with
      | some (.reference name) =>
          advance
          return .reference (← slotOf name)
      | _ =>
          let properties ← readProperties handles
          content handles place properties fuel
termination_by fuel => (fuel, 0)

/-- Read what stands behind the properties of a node. -/
def content (handles : TagHandles) (place : Place) (properties : Properties) :
    (fuel : Nat) → NodeReader Node
  | fuel => do
      match ← peek with
      | some (.scalar scalar) =>
          advance
          keep properties.anchor (.scalar scalar properties.tag)
      | some .flowSequenceStart =>
          advance
          keep properties.anchor (.sequence (← flowItems handles true fuel))
      | some .flowMappingStart =>
          advance
          keep properties.anchor (.mapping (← flowEntries handles true fuel))
      | some .blockEntry =>
          if place == .inMapping then
            keep properties.anchor (.sequence (← looseItems handles fuel))
          else
            absent properties
      | some .blockSequenceStart =>
          if place == .flow then
            absent properties
          else
            advance
            keep properties.anchor (.sequence (← blockItems handles fuel))
      | some .blockMappingStart =>
          if place == .flow then
            absent properties
          else
            advance
            keep properties.anchor (.mapping (← blockEntries handles fuel))
      | _ => absent properties
termination_by fuel => (fuel, 3)

/-- Read a node, unless a token comes next that ends its place. -/
def nodeOrNothing (handles : TagHandles) (place : Place) (ends : List Token) :
    (fuel : Nat) → NodeReader Node
  | fuel => do
      if ← isAtAny ends then
        return Node.nothing
      else
        node handles place fuel
termination_by fuel => (fuel, 1)

/-- Read entries of a block sequence to its end. -/
def blockItems (handles : TagHandles) : (fuel : Nat) → NodeReader (List Node)
  | 0 => failure
  | fuel + 1 => do
      if ← accept .blockEntry then
        let item ← nodeOrNothing handles .block [.blockEntry, .blockEnd] fuel
        return item :: (← blockItems handles fuel)
      else
        expect .blockEnd
        return []
termination_by fuel => (fuel, 0)

/-- Read entries of a block sequence that is not indented. -/
def looseItems (handles : TagHandles) : (fuel : Nat) → NodeReader (List Node)
  | 0 => failure
  | fuel + 1 => do
      if ← accept .blockEntry then
        let item ← nodeOrNothing handles .block (.blockEntry :: mappingEnds) fuel
        return item :: (← looseItems handles fuel)
      else
        return []
termination_by fuel => (fuel, 0)

/-- Read entries of a block mapping to its end. -/
def blockEntries (handles : TagHandles) :
    (fuel : Nat) → NodeReader (List (Node × Node))
  | 0 => failure
  | fuel + 1 => do
      if ← accept .blockEnd then
        return []
      else
        expect .key
        let key ← nodeOrNothing handles .inMapping mappingEnds fuel
        let value ←
          if ← accept .value then
            nodeOrNothing handles .inMapping mappingEnds fuel
          else
            pure Node.nothing
        return (key, value) :: (← blockEntries handles fuel)
termination_by fuel => (fuel, 0)

/-- Read items between brackets; a comma stands before every item but the first. -/
def flowItems (handles : TagHandles) (first : Bool) :
    (fuel : Nat) → NodeReader (List Node)
  | 0 => failure
  | fuel + 1 => do
      if ← accept .flowSequenceEnd then
        return []
      unless first do
        expect .flowEntry
      if ← accept .flowSequenceEnd then
        return []
      let item ←
        if ← accept .key then
          pairItem handles fuel
        else
          node handles .flow fuel
      return item :: (← flowItems handles false fuel)
termination_by fuel => (fuel, 0)

/-- Read an item that is a mapping of one entry. -/
def pairItem (handles : TagHandles) : (fuel : Nat) → NodeReader Node
  | fuel => do
      let ends := [.flowEntry, .flowSequenceEnd]
      let key ← nodeOrNothing handles .flow (.value :: ends) fuel
      let value ←
        if ← accept .value then
          nodeOrNothing handles .flow ends fuel
        else
          pure Node.nothing
      return .mapping [(key, value)]
termination_by fuel => (fuel, 2)

/-- Read entries between braces; a comma stands before every entry but the first. -/
def flowEntries (handles : TagHandles) (first : Bool) :
    (fuel : Nat) → NodeReader (List (Node × Node))
  | 0 => failure
  | fuel + 1 => do
      if ← accept .flowMappingEnd then
        return []
      unless first do
        expect .flowEntry
      if ← accept .flowMappingEnd then
        return []
      let ends := [.flowEntry, .flowMappingEnd]
      let entry ←
        if ← accept .key then do
          let key ← nodeOrNothing handles .flow (.value :: ends) fuel
          let value ←
            if ← accept .value then
              nodeOrNothing handles .flow ends fuel
            else
              pure Node.nothing
          pure (key, value)
        else do
          let key ← node handles .flow fuel
          pure (key, Node.nothing)
      return entry :: (← flowEntries handles false fuel)
termination_by fuel => (fuel, 0)

end

/-- The handles of tags that are always known. -/
def commonHandles : TagHandles :=
  [(['!'], Utf8.encode ['!']), (['!', '!'], Utf8.encode "tag:yaml.org,2002:".toList)]

/-- Whether a version of YAML can be read. -/
def isKnownVersion (major minor : Nat) : Bool :=
  major == 1 && (minor == 1 || minor == 2)

/-- Read directives. Answers whether there were any, and the handles of tags. -/
def directives : (fuel : Nat) → Bool → TagHandles →
    NodeReader (Bool × TagHandles)
  | 0, version, handles => return (version || !handles.isEmpty, handles)
  | fuel + 1, version, handles => do
      match ← peek with
      | some (.versionDirective major minor) =>
          if version || !isKnownVersion major minor then
            failure
          advance
          directives fuel true handles
      | some (.tagDirective handle expansion) =>
          if (handles.lookup handle).isSome then
            failure
          advance
          directives fuel version ((handle, expansion) :: handles)
      | _ => return (version || !handles.isEmpty, handles)

/-- Tokens between documents. -/
def betweenDocuments (token : Token) : Bool :=
  match token with
  | .versionDirective .. | .tagDirective .. | .documentStart | .documentEnd => true
  | _ => false

/-- Read the one document of a text. There is no node if the text is empty. -/
def document : NodeReader (Option Node) := do
  let fuel := 4 * (← get).tokens.length + 4
  match ← peek with
  | none => return none
  | some _ =>
      let (directed, declared) ← directives fuel false []
      let handles := declared ++ commonHandles
      let started ← accept .documentStart
      if directed && !started then
        failure
      let root ←
        if started && (← peek).all betweenDocuments then
          pure Node.nothing
        else
          node handles .block fuel
      return some root

/-- Read the rest of a text, which holds no other document. -/
def ending : NodeReader Unit := do
  unless (← get).tokens.all (· == .documentEnd) do
    failure

end NodeReader

/-- A document that was read. -/
structure Document where
  root : Option Node
  /-- The node in each slot that was taken. -/
  slots : List (Nat × Node)

/-- The node that a node stands for. -/
def Document.resolve? (document : Document) : Node → Option Node
  | .reference slot => document.slots.lookup slot
  | other => some other

/-- Read a text that holds at most one document. -/
def Document.read? (text : Text) : Option Document := do
  let tokens ← tokens? text
  let reader := do
    let root ← NodeReader.document
    NodeReader.ending
    return root
  let (root, reading) ← reader.run { tokens := tokens }
  return {
    root := root
    slots := reading.owners.filterMap fun (slot, number) =>
      (reading.anchored.lookup number).map (slot, ·)
  }

end Provision.Yaml
