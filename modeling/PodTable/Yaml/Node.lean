import PodTable.Yaml.Graph
import PodTable.Yaml.Lexer

/-!
# Nodes

The tokens of a text make up one node, which may be missing and is then null. A node with an
anchor may be referred to by later nodes and from inside itself, and a reference stands for the
node itself.

A broken token stops the reading where it is looked at, and what stands before it is checked
first. So does a collection that is deeper than there is room for.
-/

namespace PodTable

namespace Yaml

/-- The anchor and the tag of a node, the tag written in full. -/
structure Properties where
  anchor : Option String := none
  tag : Option String := none

namespace Properties

/-- The tag that stands for no tag at all. -/
def noTag : String := "!"

/-- The kind of a node that is of kind `t` when it is not tagged. -/
def kind (p : Properties) (t : Tag) : Tag :=
  match p.tag with
  | some name => if name = noTag then t else Tag.ofName name
  | none => t

/-- The kind of a scalar. Without a tag, only the form of a plain scalar tells its kind. -/
def scalarKind (p : Properties) (plain : Bool) (text : Text.Codes) : Tag :=
  p.kind (if plain || p.tag.isSome then Tag.ofPlain text.chars else Tag.text)

/-- Whether a node has no properties. -/
def isNone (p : Properties) : Bool := p.anchor.isNone && p.tag.isNone

end Properties

/-- What is wrong where tokens do not go on as they have to. -/
def refusal : List Token → Defect
  | .broken d :: _ => d
  | _ => .malformed

/-- The tag written in full with the handles of a document. -/
def fullTag? (handles : List (String × String)) : Option String → String → Option String
  | some handle, suffix => (handles.lookup handle).map (· ++ suffix)
  | none, suffix => some suffix

/-- The properties of a node and the tokens after them. -/
def properties (handles : List (String × String)) :
    List Token → Except Defect (Properties × List Token)
  | .anchor a :: .tag h t :: ts =>
    (wellFormed (fullTag? handles h t)).map (fun tag => (⟨some a, some tag⟩, ts))
  | .tag h t :: .anchor a :: ts =>
    (wellFormed (fullTag? handles h t)).map (fun tag => (⟨some a, some tag⟩, ts))
  | .anchor a :: ts => .ok (⟨some a, none⟩, ts)
  | .tag h t :: ts =>
    match fullTag? handles h t with
    | some tag => .ok (⟨none, some tag⟩, ts)
    | none => .error (refusal ts)
  | ts => .ok ({}, ts)

/-- The state of reading nodes: the tokens left, the number of collections that may be open within
those that are, the nodes that have anchors, and all nodes. -/
structure NodeReader where
  tokens : List Token
  room : Nat
  anchors : List (String × NodeId) := []
  graph : Graph := {}

namespace NodeReader

/-- Go on with the tokens `ts`. -/
def goOn (ts : List Token) (s : NodeReader) : NodeReader := { s with tokens := ts }

/-- What is wrong where the tokens left do not go on as they have to. -/
def refuse {α : Type} (s : NodeReader) : Except Defect α := .error (refusal s.tokens)

/-- Add a node. -/
def add (n : Node) (s : NodeReader) : NodeId × NodeReader :=
  let (i, g) := s.graph.add n
  (i, { s with graph := g })

/-- Add a node with its anchor, which no other node may have. -/
def addAnchored (p : Properties) (n : Node) (s : NodeReader) :
    Except Defect (NodeId × NodeReader) :=
  let (i, s) := s.add n
  match p.anchor with
  | some a =>
    if (s.anchors.lookup a).isSome then .error .malformed
    else .ok (i, { s with anchors := (a, i) :: s.anchors })
  | none => .ok (i, s)

/-- Put content into a node. -/
def fill (i : NodeId) (c : Content) (s : NodeReader) : NodeReader :=
  { s with graph := s.graph.fill i c }

/-- The scalar with the given properties, the tokens going on with `ts`. -/
def scalar (p : Properties) (plain : Bool) (text : Text.Codes) (ts : List Token) (s : NodeReader) :
    Except Defect (NodeId × NodeReader) :=
  (s.goOn ts).addAnchored p ⟨p.scalarKind plain text, .scalar text⟩

/-- Whether the next token is one of those given. -/
def stops (stopping : List Token) (s : NodeReader) : Bool :=
  match s.tokens with
  | t :: _ => stopping.contains t
  | [] => true

/-- Read nothing where only properties are written. -/
def absent (p : Properties) (ts : List Token) (s : NodeReader) :
    Except Defect (NodeId × NodeReader) :=
  if p.isNone then .error (refusal ts) else s.scalar p true [] ts

/-- Read what stands in one more collection. -/
def inside {α : Type} (read : NodeReader → Except Defect (α × NodeReader)) (s : NodeReader) :
    Except Defect (α × NodeReader) :=
  match s.room with
  | 0 => .error .tooDeep
  | room + 1 => (read { s with room := room }).map (fun (a, s) => (a, { s with room := room + 1 }))

/-- Read a sequence with the items that `read` gives. -/
def sequence (read : NodeReader → Except Defect (List NodeId × NodeReader)) (p : Properties)
    (s : NodeReader) : Except Defect (NodeId × NodeReader) := do
  let (i, s) ← s.addAnchored p ⟨p.kind .sequence, .sequence []⟩
  let (items, s) ← s.inside read
  .ok (i, s.fill i (.sequence items))

/-- Read a mapping with the entries that `read` gives. -/
def mapping (read : NodeReader → Except Defect (List (NodeId × NodeId) × NodeReader))
    (p : Properties) (s : NodeReader) : Except Defect (NodeId × NodeReader) := do
  let (i, s) ← s.addAnchored p ⟨p.kind .mapping, .mapping []⟩
  let (entries, s) ← s.inside read
  .ok (i, s.fill i (.mapping entries))

/-- The tokens after the comma that stands before all items but the first. -/
def afterComma (first : Bool) (ts : List Token) : Except Defect (List Token) :=
  if first then .ok ts
  else
    match ts with
    | .flowEntry :: ts => .ok ts
    | _ => .error (refusal ts)

mutual

/-- Read a node. Outside brackets it may be a block, and in a mapping a sequence may stand at the
indentation of the mapping. -/
def node (handles : List (String × String)) (block indentless : Bool) :
    Nat → NodeReader → Except Defect (NodeId × NodeReader)
  | 0, s => s.refuse
  | fuel + 1, s =>
    match s.tokens with
    | .reference a :: ts => (wellFormed (s.anchors.lookup a)).map (fun n => (n, s.goOn ts))
    | tokens => do
      let (p, tokens) ← properties handles tokens
      match tokens with
      | .broken d :: _ => .error d
      | .scalar plain text :: ts => s.scalar p plain text ts
      | .flowSequenceStart :: ts => sequence (flowItems handles true fuel) p (s.goOn ts)
      | .flowMappingStart :: ts => mapping (flowEntries handles true fuel) p (s.goOn ts)
      | .blockSequenceStart :: ts =>
        if block then sequence (blockItems handles fuel) p (s.goOn ts) else absent p tokens s
      | .blockMappingStart :: ts =>
        if block then mapping (blockEntries handles fuel) p (s.goOn ts) else absent p tokens s
      | .blockEntry :: _ =>
        if indentless then sequence (indentlessItems handles fuel) p (s.goOn tokens)
        else absent p tokens s
      | _ => absent p tokens s

/-- Read a node of an entry unless it is missing before one of the tokens given. -/
def nodeUnless (handles : List (String × String)) (block indentless : Bool)
    (stopping : List Token) : Nat → NodeReader → Except Defect (NodeId × NodeReader)
  | 0, s => s.refuse
  | fuel + 1, s =>
    if s.stops stopping then .ok (s.add .empty) else node handles block indentless fuel s

/-- Read the value of an entry, which may be missing. -/
def entryValue (handles : List (String × String)) (block : Bool) (stopping : List Token) :
    Nat → NodeReader → Except Defect (NodeId × NodeReader)
  | 0, s => s.refuse
  | fuel + 1, s =>
    match s.tokens with
    | .value :: ts => nodeUnless handles block block stopping fuel (s.goOn ts)
    | _ => .ok (s.add .empty)

/-- Read the items of a sequence that is a block. -/
def blockItems (handles : List (String × String)) :
    Nat → NodeReader → Except Defect (List NodeId × NodeReader)
  | 0, s => s.refuse
  | fuel + 1, s =>
    match s.tokens with
    | .blockEntry :: ts => do
      let (n, s) ← nodeUnless handles true false [.blockEntry, .blockEnd] fuel (s.goOn ts)
      let (ns, s) ← blockItems handles fuel s
      .ok (n :: ns, s)
    | .blockEnd :: ts => .ok ([], s.goOn ts)
    | _ => s.refuse

/-- Read the items of a sequence at the indentation of a mapping. -/
def indentlessItems (handles : List (String × String)) :
    Nat → NodeReader → Except Defect (List NodeId × NodeReader)
  | 0, s => s.refuse
  | fuel + 1, s =>
    match s.tokens with
    | .blockEntry :: ts => do
      let (n, s) ←
        nodeUnless handles true false [.blockEntry, .key, .value, .blockEnd] fuel (s.goOn ts)
      let (ns, s) ← indentlessItems handles fuel s
      .ok (n :: ns, s)
    | _ => .ok ([], s)

/-- Read the entries of a mapping that is a block. -/
def blockEntries (handles : List (String × String)) :
    Nat → NodeReader → Except Defect (List (NodeId × NodeId) × NodeReader)
  | 0, s => s.refuse
  | fuel + 1, s =>
    match s.tokens with
    | .key :: ts => do
      let stopping := [Token.key, .value, .blockEnd]
      let (k, s) ← nodeUnless handles true true stopping fuel (s.goOn ts)
      let (v, s) ← entryValue handles true stopping fuel s
      let (es, s) ← blockEntries handles fuel s
      .ok ((k, v) :: es, s)
    | .blockEnd :: ts => .ok ([], s.goOn ts)
    | _ => s.refuse

/-- Read the items of a sequence between brackets. An item with a key is a mapping of one
entry. -/
def flowItems (handles : List (String × String)) (first : Bool) :
    Nat → NodeReader → Except Defect (List NodeId × NodeReader)
  | 0, s => s.refuse
  | fuel + 1, s =>
    match s.tokens with
    | .flowSequenceEnd :: ts => .ok ([], s.goOn ts)
    | tokens => do
      let tokens ← afterComma first tokens
      match tokens with
      | .flowSequenceEnd :: ts => .ok ([], s.goOn ts)
      | .key :: ts =>
        let stopping := [Token.flowEntry, .flowSequenceEnd]
        let (n, s) ← mapping (fun s => do
          let (k, s) ← nodeUnless handles false false (.value :: stopping) fuel s
          let (v, s) ← entryValue handles false stopping fuel s
          .ok ([(k, v)], s)) {} (s.goOn ts)
        let (ns, s) ← flowItems handles false fuel s
        .ok (n :: ns, s)
      | _ =>
        let (n, s) ← node handles false false fuel (s.goOn tokens)
        let (ns, s) ← flowItems handles false fuel s
        .ok (n :: ns, s)

/-- Read the entries of a mapping between braces. A node without a key indicator is a key
without a value. -/
def flowEntries (handles : List (String × String)) (first : Bool) :
    Nat → NodeReader → Except Defect (List (NodeId × NodeId) × NodeReader)
  | 0, s => s.refuse
  | fuel + 1, s =>
    match s.tokens with
    | .flowMappingEnd :: ts => .ok ([], s.goOn ts)
    | tokens => do
      let tokens ← afterComma first tokens
      match tokens with
      | .flowMappingEnd :: ts => .ok ([], s.goOn ts)
      | .key :: ts =>
        let stopping := [Token.flowEntry, .flowMappingEnd]
        let (k, s) ← nodeUnless handles false false (.value :: stopping) fuel (s.goOn ts)
        let (v, s) ← entryValue handles false stopping fuel s
        let (es, s) ← flowEntries handles false fuel s
        .ok ((k, v) :: es, s)
      | _ =>
        let (k, s) ← node handles false false fuel (s.goOn tokens)
        let (v, s) := s.add .empty
        let (es, s) ← flowEntries handles false fuel s
        .ok ((k, v) :: es, s)

end

end NodeReader

/-! ### Documents -/

/-- The handles that need no directive. -/
def standardHandles : List (String × String) := [("!", "!"), ("!!", Tag.family)]

/-- The handles that the directives at the start give a meaning, and the tokens after them. -/
def directives? : Bool → List (String × String) → List Token →
    Option (List (String × String) × List Token)
  | versioned, handles, .version major :: ts =>
    if versioned || major != 1 then none else directives? true handles ts
  | versioned, handles, .shorthand handle meaning :: ts =>
    if (handles.lookup handle).isSome then none
    else directives? versioned ((handle, meaning) :: handles) ts
  | versioned, handles, .directive :: ts => directives? versioned handles ts
  | _, handles, ts => some (handles ++ standardHandles, ts)

/-- Whether a token cannot begin the node of a document. -/
def beginsDocument : Token → Bool
  | .version _ => true
  | .shorthand _ _ => true
  | .directive => true
  | .documentStart => true
  | .streamEnd => true
  | _ => false

/-- The node that the tokens of a document begin with, and the state after it. -/
def documentNode (room : Room) (handles : List (String × String)) (ts : List Token) :
    Except Defect (NodeId × NodeReader) :=
  NodeReader.node handles true false (4 * ts.length + 4) { tokens := ts, room := room.collections }

/-- The node of a document in which nothing is written, before the tokens `ts`. -/
def missingNode (room : Room) (ts : List Token) : NodeId × NodeReader :=
  NodeReader.add .empty { tokens := ts, room := room.collections }

/-- The node of the first document and the state after it. -/
def firstDocument (room : Room) : List Token → Except Defect (NodeId × NodeReader)
  | [] => .error .malformed
  | .streamEnd :: ts => .ok (missingNode room (.streamEnd :: ts))
  | t :: ts =>
    if beginsDocument t then do
      let (handles, ts) ← wellFormed (directives? false [] (t :: ts))
      match ts with
      | .documentStart :: t :: ts =>
        if beginsDocument t || t == .documentEnd then .ok (missingNode room (t :: ts))
        else documentNode room handles (t :: ts)
      | _ => .error (refusal ts)
    else documentNode room standardHandles (t :: ts)

/-- Check that nothing follows the first document. -/
def checkEnd (ts : List Token) : Except Defect Unit :=
  match ts.dropWhile (· == .documentEnd) with
  | [.streamEnd] => .ok ()
  | ts => do
    let (_, ts) ← wellFormed (directives? false [] ts)
    .error (refusal ts)

/-- The node of a text that is a single document, and its graph. -/
def node (room : Room) (text : String) : Except Defect (NodeId × Graph) := do
  let (n, s) ← firstDocument room (tokens text)
  checkEnd s.tokens
  .ok (n, s.graph)

end Yaml

end PodTable
