import GoIndex.Data.Yaml.Token

/-!
# Documents of YAML

A text holds one document. Its tokens are first read into a graph of nodes, in which scalars are
still as they were written: an anchor names the node behind it once and for all, and a reference to
a name is that node again, also inside the node itself. A key that stands without a value, and a
value that is left out, is an empty plain scalar.

Nothing is read behind the first token that does not fit. When that token is an unreadable place,
its defect is the document's; any other makes the document malformed.
-/

namespace GoIndex.Data.Yaml

open Text

/-! ### Graphs -/

/-- What a node consists of: its text, or the numbers of other nodes. -/
inductive Content where
  | scalar (text : Letters)
  | list (items : List Nat)
  | map (pairs : List (Nat × Nat))

/-- A part of a document as it was written. -/
structure Node where
  tag : Tag
  content : Content

/-- What is left out. -/
def Node.empty : Node := ⟨.null, .scalar []⟩

/-- A document as it was written: nodes by their numbers, and the number of the topmost one. -/
structure Graph where
  nodes : Array Node
  root : Nat

/-! ### Reading tokens -/

/-- The handles of tags that need no directive. -/
def plainHandles : List (List Char × List Char) :=
  [(['!'], ['!']), (['!', '!'], knownStem)]

/-- The tokens that are left, the handles of tags, the nodes that have been named, and all nodes.
The content of a node is put in once it has been read to its end. -/
structure Reading where
  tokens : List Token
  handles : List (List Char × List Char) := plainHandles
  named : List (List Char × Nat) := []
  nodes : Array Node := #[]

/-- What stands before a node: the name it is given, and the name of its tag. -/
structure Properties where
  anchor : Option (List Char) := none
  tag : Option (List Char) := none

/-- Whether nothing stands before a node. -/
def Properties.isNone (p : Properties) : Bool :=
  p.anchor.isNone && p.tag.isNone

/-- The tag of a node: the one that is given, or the one that follows from what it is. A mere mark
gives none, but lets the tag of a scalar follow from its form. -/
def Properties.tagOr (p : Properties) (unmarked marked : Tag) : Tag :=
  match p.tag with
  | none => unmarked
  | some name => if name = ['!'] then marked else .ofName name

namespace Reading

/-- The next token. -/
def head? (r : Reading) : Option Token :=
  r.tokens.head?

/-- Whether the next token is one of these. -/
def sees (r : Reading) (tokens : List Token) : Bool :=
  r.head?.any tokens.contains

/-- Passes over one token. -/
def skip (r : Reading) : Reading :=
  { r with tokens := r.tokens.tail }

/-- Why nothing can be read on. -/
def defect (r : Reading) : Defect :=
  match r.head? with
  | some (.unreadable defect) => defect
  | _ => .malformed

/-- Sees to it that the next token can be read. -/
def readable (r : Reading) : Except Defect Reading :=
  match r.head? with
  | some (.unreadable defect) => .error defect
  | _ => .ok r

/-- Passes over a token that has to come next. -/
def expect (r : Reading) (token : Token) : Except Defect Reading :=
  if r.head? = some token then .ok r.skip else .error r.defect

/-- The full name of a tag; none when its handle stands for nothing. -/
def tagName? (r : Reading) : Option (List Char) → List Char → Option (List Char)
  | none, suffix => some suffix
  | some handle, suffix => (r.handles.lookup handle).map (· ++ suffix)

/-- Reads what stands before a node, in either order. -/
def properties (r : Reading) : Except Defect (Properties × Reading) := do
  match r.head? with
  | some (.anchor name) =>
    let r ← r.skip.readable
    match r.head? with
    | some (.tag handle suffix) =>
      .ok (⟨some name, some (← wellFormed (r.tagName? handle suffix))⟩, r.skip)
    | _ => .ok (⟨some name, none⟩, r)
  | some (.tag handle suffix) =>
    let r ← r.skip.readable
    let tag ← wellFormed (r.tagName? handle suffix)
    match r.head? with
    | some (.anchor name) => .ok (⟨some name, some tag⟩, r.skip)
    | _ => .ok (⟨none, some tag⟩, r)
  | _ => .ok ({}, r)

/-- Adds a node under the name it is given; a name is given once. -/
def add (r : Reading) (p : Properties) (node : Node) : Nat × Reading :=
  let number := r.nodes.size
  let named := match p.anchor with
    | some name => (name, number) :: r.named
    | none => r.named
  (number, { r with named := named, nodes := r.nodes.push node })

/-- Adds what is left out. -/
def addEmpty (r : Reading) : Nat × Reading :=
  r.add {} .empty

/-- Leaves a node out behind its properties; there have to be some. -/
def leaveOut (r : Reading) (p : Properties) : Except Defect (Nat × Reading) :=
  if p.isNone then .error r.defect else .ok (r.add p ⟨p.tagOr .null .null, .scalar []⟩)

/-- Puts in the content of a node. -/
def settle (r : Reading) (number : Nat) (content : Content) : Nat × Reading :=
  (number, { r with nodes := r.nodes.modify number fun node => { node with content := content } })

end Reading

/-- What may be read as a node: also an unindented sequence, a block, or a flow node only. -/
inductive Context where
  | blockOrItems
  | block
  | flow
  deriving DecidableEq, Repr

/-- The tokens that end a pair or an item of a block without a value. -/
def endOfBlockPart : List Token := [.key, .value, .blockEnd]

mutual

/-- Reads a node. -/
def readNode : (fuel : Nat) → Context → Reading → Except Defect (Nat × Reading)
  | 0, _, _ => .error .malformed
  | fuel + 1, context, r => do
    match r.head? with
    | some (.reference name) => .ok (← wellFormed (r.named.lookup name), r.skip)
    | _ =>
      let (p, r) ← r.properties
      let r ← r.readable
      if p.anchor.any fun name => (r.named.lookup name).isSome then .error .malformed
      else readContent fuel context p r

/-- Reads a node behind its properties. With any, the node may be left out. -/
def readContent :
    (fuel : Nat) → Context → Properties → Reading → Except Defect (Nat × Reading)
  | 0, _, _, _ => .error .malformed
  | fuel + 1, context, p, r => do
    match r.head? with
    | some (.scalar plain text) =>
      let form := Tag.ofForm text.chars
      .ok (r.skip.add p ⟨p.tagOr (if plain then form else .str) form, .scalar text⟩)
    | some .flowSequence =>
      let (n, r) := r.skip.add p ⟨p.tagOr .seq .seq, .list []⟩
      let (items, r) ← readFlowItems fuel [] r
      .ok (r.settle n (.list items))
    | some .flowMapping =>
      let (n, r) := r.skip.add p ⟨p.tagOr .map .map, .map []⟩
      let (pairs, r) ← readFlowPairs fuel [] r
      .ok (r.settle n (.map pairs))
    | some .item =>
      if context = .blockOrItems then
        let (n, r) := r.add p ⟨p.tagOr .seq .seq, .list []⟩
        let (items, r) ← readItems fuel [] r
        .ok (r.settle n (.list items))
      else r.leaveOut p
    | some .blockSequence =>
      if context = .flow then r.leaveOut p
      else
        let (n, r) := r.skip.add p ⟨p.tagOr .seq .seq, .list []⟩
        let (items, r) ← readItems fuel [] r
        .ok ((← r.expect .blockEnd).settle n (.list items))
    | some .blockMapping =>
      if context = .flow then r.leaveOut p
      else
        let (n, r) := r.skip.add p ⟨p.tagOr .map .map, .map []⟩
        let (pairs, r) ← readPairs fuel [] r
        .ok ((← r.expect .blockEnd).settle n (.map pairs))
    | _ => r.leaveOut p

/-- Reads the items of a block sequence that follow the ones read, last first. -/
def readItems : (fuel : Nat) → List Nat → Reading → Except Defect (List Nat × Reading)
  | 0, _, _ => .error .malformed
  | fuel + 1, done, r =>
    if r.sees [.item] then do
      let r := r.skip
      let (item, r) ←
        if r.sees (.item :: endOfBlockPart) then .ok r.addEmpty else readNode fuel .block r
      readItems fuel (item :: done) r
    else .ok (done.reverse, r)

/-- Reads the pairs of a block mapping that follow the ones read, last first. -/
def readPairs :
    (fuel : Nat) → List (Nat × Nat) → Reading → Except Defect (List (Nat × Nat) × Reading)
  | 0, _, _ => .error .malformed
  | fuel + 1, done, r =>
    if r.sees [.key] then do
      let r := r.skip
      let (key, r) ←
        if r.sees endOfBlockPart then .ok r.addEmpty else readNode fuel .blockOrItems r
      let (value, r) ←
        if r.sees [.value] then
          if r.skip.sees endOfBlockPart then .ok r.skip.addEmpty
          else readNode fuel .blockOrItems r.skip
        else .ok r.addEmpty
      readPairs fuel ((key, value) :: done) r
    else .ok (done.reverse, r)

/-- Reads the items of a flow sequence that follow the ones read, last first. An item may be a
single pair. -/
def readFlowItems : (fuel : Nat) → List Nat → Reading → Except Defect (List Nat × Reading)
  | 0, _, _ => .error .malformed
  | fuel + 1, done, r =>
    if r.sees [.flowSequenceEnd] then .ok (done.reverse, r.skip)
    else do
      let r ← if done.isEmpty then .ok r else r.expect .comma
      if r.sees [.flowSequenceEnd] then .ok (done.reverse, r.skip)
      else if r.sees [.key] then
        let (n, r) := r.skip.add {} ⟨.map, .map []⟩
        let (pair, r) ← readFlowPair fuel .flowSequenceEnd r
        let (n, r) := r.settle n (.map [pair])
        readFlowItems fuel (n :: done) r
      else
        let (item, r) ← readNode fuel .flow r
        readFlowItems fuel (item :: done) r

/-- Reads the pairs of a flow mapping that follow the ones read, last first. -/
def readFlowPairs :
    (fuel : Nat) → List (Nat × Nat) → Reading → Except Defect (List (Nat × Nat) × Reading)
  | 0, _, _ => .error .malformed
  | fuel + 1, done, r =>
    if r.sees [.flowMappingEnd] then .ok (done.reverse, r.skip)
    else do
      let r ← if done.isEmpty then .ok r else r.expect .comma
      if r.sees [.flowMappingEnd] then .ok (done.reverse, r.skip)
      else if r.sees [.key] then
        let (pair, r) ← readFlowPair fuel .flowMappingEnd r.skip
        readFlowPairs fuel (pair :: done) r
      else
        let (key, r) ← readNode fuel .flow r
        let (value, r) := r.addEmpty
        readFlowPairs fuel ((key, value) :: done) r

/-- Reads a pair in a flow collection that `close` ends; key and value may be left out. -/
def readFlowPair :
    (fuel : Nat) → (close : Token) → Reading → Except Defect ((Nat × Nat) × Reading)
  | 0, _, _ => .error .malformed
  | fuel + 1, close, r => do
    let (key, r) ←
      if r.sees [.value, .comma, close] then .ok r.addEmpty else readNode fuel .flow r
    let (value, r) ←
      if r.sees [.value] then
        if r.skip.sees [.comma, close] then .ok r.skip.addEmpty else readNode fuel .flow r.skip
      else .ok r.addEmpty
    .ok ((key, value), r)

end

/-! ### Documents -/

/-- Whether the next token is a directive. -/
def Reading.seesDirective (r : Reading) : Bool :=
  match r.head? with
  | some (.directive _) => true
  | _ => false

/-- Reads directives. The version is given once and has to be one, and a handle is given once. -/
def readDirectives (versioned : Bool) (handles : List (List Char × List Char)) :
    List Token → Option (List (List Char × List Char) × List Token)
  | .directive (.version major) :: tokens =>
    if versioned || major != 1 then none else readDirectives true handles tokens
  | .directive (.handle handle stem) :: tokens =>
    if (handles.lookup handle).isSome then none
    else readDirectives versioned ((handle, stem) :: handles) tokens
  | .directive .other :: tokens => readDirectives versioned handles tokens
  | tokens => some (handles, tokens)

/-- Reads the directives and the mark before a document. -/
def Reading.start (r : Reading) : Except Defect Reading := do
  let (handles, tokens) ← wellFormed (readDirectives false [] r.tokens)
  Reading.expect { r with tokens := tokens, handles := handles ++ plainHandles } .documentStart

/-- Reads one document from tokens; nothing but marks that end a document may follow it. -/
def document (tokens : List Token) : Except Defect Graph := do
  let r : Reading := { tokens := tokens }
  let explicit := r.seesDirective || r.sees [.documentStart]
  let r ← if explicit then r.start else .ok r
  let (root, r) ←
    if r.tokens.isEmpty ∨
        (explicit ∧ (r.seesDirective ∨ r.sees [.documentStart, .documentEnd])) then
      .ok r.addEmpty
    else readNode (3 * tokens.length + 3) .block r
  let r := { r with tokens := r.tokens.dropWhile (· == Token.documentEnd) }
  if r.tokens.isEmpty then .ok ⟨r.nodes, root⟩
  else .error (← r.start).defect

end GoIndex.Data.Yaml
