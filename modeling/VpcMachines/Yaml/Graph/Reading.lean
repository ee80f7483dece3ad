import VpcMachines.Yaml.Graph.Basic
import VpcMachines.Yaml.Scan

/-!
# Graphs from tokens

A node may have properties in front: an anchor and a tag. Nodes are numbered as they begin. A node that
holds others is known by its anchor before they are read, so that they may refer to it.
-/

namespace VpcMachines.Yaml

namespace Node

/-- The tokens that are left, the nodes that anchors mark, and the nodes so far. -/
structure Feed where
  tokens : List Token
  anchors : List (String × Ref)
  nodes : Array Node

namespace Feed

def head (f : Feed) : Token := f.tokens.headD (.broken .malformed)

def next (f : Feed) : Feed := { f with tokens := f.tokens.tail }

/-- The fault of a token that is not expected here. -/
def refuse {α : Type} (f : Feed) : Except Fault α :=
  match f.head with
  | .broken fault => .error fault
  | _ => .error .malformed

/-- Whether the next token is one of these. Where the document breaks there is no answer. -/
def isAt (f : Feed) (tokens : List Token) : Except Fault Bool :=
  match f.head with
  | .broken fault => .error fault
  | t => .ok (tokens.contains t)

/-- Passes over a token that has to be there. -/
def expect (f : Feed) (t : Token) : Except Fault Feed := do
  if ← f.isAt [t] then return f.next else f.refuse

/-- Adds a node. No two nodes have the same anchor. -/
def add (f : Feed) (anchor : Option String) (node : Node) : Except Fault (Ref × Feed) :=
  let r := f.nodes.size
  let known := { f with nodes := f.nodes.push node }
  match anchor with
  | none => .ok (r, known)
  | some name =>
    if (f.anchors.lookup name).isSome then .error .malformed
    else .ok (r, { known with anchors := (name, r) :: f.anchors })

/-- Completes a node. -/
def complete (f : Feed) (r : Ref) (node : Node) : Feed :=
  { f with nodes := f.nodes.setIfInBounds r node }

end Feed

/-- What is written in front of a node: an anchor and a tag, in either order. -/
structure Properties where
  anchor : Option String
  tag : Option (Option String × String)

def Properties.read (f : Feed) : Properties × Feed :=
  match f.head with
  | .anchor name =>
    match f.next.head with
    | .tag handle rest => (⟨some name, some (handle, rest)⟩, f.next.next)
    | _ => (⟨some name, none⟩, f.next)
  | .tag handle rest =>
    match f.next.head with
    | .anchor name => (⟨some name, some (handle, rest)⟩, f.next.next)
    | _ => (⟨none, some (handle, rest)⟩, f.next)
  | _ => (⟨none, none⟩, f)

abbrev Handles := List (String × String)

def standardHandles : Handles := [("!", "!"), ("!!", standardUri)]

/-- The URI of a tag, if there is one. -/
def Properties.uri (p : Properties) (handles : Handles) : Except Fault (Option String) :=
  match p.tag with
  | none => .ok none
  | some (none, rest) => .ok (some rest)
  | some (some handle, rest) =>
    match handles.lookup handle with
    | none => .error .malformed
    | some uri => .ok (some (uri ++ rest))

/-- A URI that asks for a specific tag; the mark `!` alone does not. -/
def specific (uri : Option String) : Option String := uri.filter (· ≠ "!")

def scalarTag (uri : Option String) (plain : Bool) (text : String) : Tag :=
  match specific uri with
  | some uri => .ofUri uri
  | none => if plain || uri.isSome then resolve text else .text

def collectionTag (uri : Option String) (usual : Tag) : Tag :=
  match specific uri with
  | some uri => .ofUri uri
  | none => usual

/-- Where a node stands, which decides what may be there. -/
inductive Position where
  | inBlock
  /-- Where the entries of a sequence need not be indented. -/
  | inMapping
  | inFlow
  deriving DecidableEq, Repr

def endsEntry : List Token := [.blockEntry, .key, .value, .blockEnd]

def endsPart : List Token := [.key, .value, .blockEnd]

/-- How deep nodes may lie inside each other in a text. -/
def nestingLimit : Nat := 490

/-- A node that holds others: it is added before they are read, so that they may refer to it. -/
def collect {α : Type} (f : Feed) (depth : Nat) (anchor : Option String) (make : List α → Node)
    (readItems : Feed → Except Fault (List α × Feed)) : Except Fault (Ref × Feed) :=
  if nestingLimit ≤ depth then .error .tooDeep
  else do
    let (r, f) ← f.add anchor (make [])
    let (items, f) ← readItems f
    return (r, f.complete r (make items))

mutual

/-- Reads a node that lies inside `depth` others. -/
def read (handles : Handles) (position : Position) :
    (fuel : Nat) → (depth : Nat) → Feed → Except Fault (Ref × Feed)
  | 0, _, f => f.refuse
  | fuel + 1, depth, f => do
    match f.head with
    | .alias name =>
      match f.anchors.lookup name with
      | some r => return (r, f.next)
      | none => .error .malformed
    | _ =>
      let (properties, f) := Properties.read f
      -- What follows a tag is looked at before the tag is, unless it was an anchor or had one in front.
      if properties.anchor.isNone then
        let _ ← f.isAt []
      let uri ← properties.uri handles
      let _ ← f.isAt []
      let sequence := Node.sequence (collectionTag uri .sequence)
      let mapping := Node.mapping (collectionTag uri .mapping)
      let leaf (f : Feed) (plain : Bool) (text : String) : Except Fault (Ref × Feed) :=
        f.add properties.anchor (.scalar (scalarTag uri plain text) text)
      match position, f.head with
      | .inMapping, .blockEntry =>
        collect f depth properties.anchor sequence (looseItems handles fuel (depth + 1))
      | _, .scalar text plain => leaf f.next plain text
      | _, .flowSequenceStart =>
        collect f.next depth properties.anchor sequence (flowItems handles true fuel (depth + 1))
      | _, .flowMappingStart =>
        collect f.next depth properties.anchor mapping (flowEntries handles true fuel (depth + 1))
      | .inFlow, .blockSequenceStart => f.refuse
      | _, .blockSequenceStart =>
        collect f.next depth properties.anchor sequence (blockItems handles fuel (depth + 1))
      | .inFlow, .blockMappingStart => f.refuse
      | _, .blockMappingStart =>
        collect f.next depth properties.anchor mapping (blockEntries handles fuel (depth + 1))
      | _, _ =>
        if properties.anchor.isSome || properties.tag.isSome then
          leaf f (properties.tag.isNone || uri == some "!") ""
        else f.refuse
termination_by structural fuel => fuel

/-- Reads a node, or takes it as empty if one of the tokens `ends` follows. -/
def readUnless (handles : Handles) (position : Position) (ends : List Token) :
    (fuel : Nat) → (depth : Nat) → Feed → Except Fault (Ref × Feed)
  | 0, _, f => f.refuse
  | fuel + 1, depth, f => do
    if ← f.isAt ends then f.add none empty else read handles position fuel depth f
termination_by structural fuel => fuel

/-- The items of a block sequence, up to its end. -/
def blockItems (handles : Handles) :
    (fuel : Nat) → (depth : Nat) → Feed → Except Fault (List Ref × Feed)
  | 0, _, f => f.refuse
  | fuel + 1, depth, f => do
    if ← f.isAt [.blockEntry] then
      let (item, f) ← readUnless handles .inBlock [.blockEntry, .blockEnd] fuel depth f.next
      let (items, f) ← blockItems handles fuel depth f
      return (item :: items, f)
    else return ([], ← f.expect .blockEnd)
termination_by structural fuel => fuel

/-- The items of a sequence that is not indented; nothing marks its end. -/
def looseItems (handles : Handles) :
    (fuel : Nat) → (depth : Nat) → Feed → Except Fault (List Ref × Feed)
  | 0, _, f => f.refuse
  | fuel + 1, depth, f => do
    if ← f.isAt [.blockEntry] then
      let (item, f) ← readUnless handles .inBlock endsEntry fuel depth f.next
      let (items, f) ← looseItems handles fuel depth f
      return (item :: items, f)
    else return ([], f)
termination_by structural fuel => fuel

/-- The value behind a key, which is empty if there is none. -/
def valueOf (handles : Handles) (position : Position) (ends : List Token) :
    (fuel : Nat) → (depth : Nat) → Feed → Except Fault (Ref × Feed)
  | 0, _, f => f.refuse
  | fuel + 1, depth, f => do
    if ← f.isAt [.value] then readUnless handles position ends fuel depth f.next
    else f.add none empty
termination_by structural fuel => fuel

/-- The entries of a block mapping, up to its end. -/
def blockEntries (handles : Handles) :
    (fuel : Nat) → (depth : Nat) → Feed → Except Fault (List (Ref × Ref) × Feed)
  | 0, _, f => f.refuse
  | fuel + 1, depth, f => do
    if ← f.isAt [.key] then
      let (key, f) ← readUnless handles .inMapping endsPart fuel depth f.next
      let (value, f) ← valueOf handles .inMapping endsPart fuel depth f
      let (entries, f) ← blockEntries handles fuel depth f
      return ((key, value) :: entries, f)
    else return ([], ← f.expect .blockEnd)
termination_by structural fuel => fuel

/-- The entry of a flow collection that begins with a key. -/
def flowPair (handles : Handles) (ends : List Token) :
    (fuel : Nat) → (depth : Nat) → Feed → Except Fault ((Ref × Ref) × Feed)
  | 0, _, f => f.refuse
  | fuel + 1, depth, f => do
    let (key, f) ← readUnless handles .inFlow (.value :: ends) fuel depth f
    let (value, f) ← valueOf handles .inFlow ends fuel depth f
    return ((key, value), f)
termination_by structural fuel => fuel

/-- The items of a flow sequence, up to its end. An item with a key is a mapping of one entry. -/
def flowItems (handles : Handles) (atFront : Bool) :
    (fuel : Nat) → (depth : Nat) → Feed → Except Fault (List Ref × Feed)
  | 0, _, f => f.refuse
  | fuel + 1, depth, f => do
    if ← f.isAt [.flowSequenceEnd] then return ([], f.next)
    let f ← if atFront then Except.ok f else f.expect .flowEntry
    if ← f.isAt [.key] then
      let readPair (f : Feed) : Except Fault (List (Ref × Ref) × Feed) := do
        let (entry, f) ← flowPair handles [.flowEntry, .flowSequenceEnd] fuel (depth + 1) f
        return ([entry], f)
      let (item, f) ← collect f.next depth none (.mapping .mapping) readPair
      let (items, f) ← flowItems handles false fuel depth f
      return (item :: items, f)
    else if ← f.isAt [.flowSequenceEnd] then return ([], f.next)
    else
      let (item, f) ← read handles .inFlow fuel depth f
      let (items, f) ← flowItems handles false fuel depth f
      return (item :: items, f)
termination_by structural fuel => fuel

/-- The entries of a flow mapping, up to its end. A node without a colon is a key. -/
def flowEntries (handles : Handles) (atFront : Bool) :
    (fuel : Nat) → (depth : Nat) → Feed → Except Fault (List (Ref × Ref) × Feed)
  | 0, _, f => f.refuse
  | fuel + 1, depth, f => do
    if ← f.isAt [.flowMappingEnd] then return ([], f.next)
    let f ← if atFront then Except.ok f else f.expect .flowEntry
    if ← f.isAt [.key] then
      let (entry, f) ← flowPair handles [.flowEntry, .flowMappingEnd] fuel depth f.next
      let (entries, f) ← flowEntries handles false fuel depth f
      return (entry :: entries, f)
    else if ← f.isAt [.flowMappingEnd] then return ([], f.next)
    else
      let (key, f) ← read handles .inFlow fuel depth f
      let (value, f) ← f.add none empty
      let (entries, f) ← flowEntries handles false fuel depth f
      return ((key, value) :: entries, f)
termination_by structural fuel => fuel

end

/-- What the directives in front of a document say. -/
structure Prologue where
  version : Option Nat
  handles : Handles

/-- Reads directives. The version may be given once and has to be of the first generation. -/
def prologueFrom (p : Prologue) : List Token → Except Fault (Prologue × List Token)
  | .version major :: rest =>
    if p.version.isSome || major ≠ 1 then .error .malformed
    else prologueFrom { p with version := some major } rest
  | .tagHandle handle uri :: rest =>
    if (p.handles.lookup handle).isSome then .error .malformed
    else prologueFrom { p with handles := (handle, uri) :: p.handles } rest
  | .unknownDirective :: rest => prologueFrom p rest
  | tokens => .ok (p, tokens)

/-- Whether a document without content ends here. -/
def endsDocument : Token → Bool
  | .version _ => true
  | .tagHandle _ _ => true
  | .unknownDirective => true
  | .documentStart => true
  | .documentEnd => true
  | .streamEnd => true
  | _ => false

def isDirective : Token → Bool
  | .version _ => true
  | .tagHandle _ _ => true
  | .unknownDirective => true
  | _ => false

/-- The end of a document, which goes on to the end of the text. Where another begins instead, it is read
up to its start. -/
def expectEnd (tokens : List Token) : Except Fault Unit :=
  match tokens.dropWhile (· == .documentEnd) with
  | [.streamEnd] => .ok ()
  | rest => do
    let (_, rest) ← prologueFrom ⟨none, []⟩ rest
    let _ ← Feed.expect ⟨rest, [], #[]⟩ .documentStart
    .error .malformed

/-- Reads the graph of a document. -/
def readGraph (handles : Handles) (tokens : List Token) : Except Fault Graph := do
  let (root, f) ← read handles .inBlock (5 * tokens.length + 5) 0 ⟨tokens, [], #[]⟩
  expectEnd f.tokens
  return ⟨f.nodes, root⟩

end Node

/-- The graph of a text that holds at most one document; none if it holds nothing. -/
def Graph.ofTokens (tokens : List Token) : Except Fault (Option Graph) := do
  match tokens with
  | [.streamEnd] => return none
  | t :: _ =>
    if Node.isDirective t || t == .documentStart then
      let (prologue, rest) ← Node.prologueFrom ⟨none, []⟩ tokens
      let f ← Node.Feed.expect ⟨rest, [], #[]⟩ .documentStart
      if Node.endsDocument f.head then
        Node.expectEnd f.tokens
        return some ⟨#[Node.empty], 0⟩
      else return some (← Node.readGraph (prologue.handles ++ Node.standardHandles) f.tokens)
    else return some (← Node.readGraph Node.standardHandles tokens)
  | [] => .error .malformed

end VpcMachines.Yaml
