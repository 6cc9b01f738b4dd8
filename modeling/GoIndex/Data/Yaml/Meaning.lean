import GoIndex.Data.Yaml.Document

/-!
# What a YAML text means

The values of a document are made from its nodes, level by level: a collection is first made empty
and filled later, after everything on its own level has been made. A node that is referred to
several times is one value.

Of two equal keys in a mapping the last wins, in the place of the first; a value with parts is no
key. A key with the tag of `<<` takes over the pairs of a mapping, or of several in a list: they
stand before the mapping's own pairs, and those of a later mapping of the list before those of an
earlier one, so that the nearer pair wins. A key with the tag of `=` becomes a text for good;
elsewhere these two tags have no value.

The defect of a text is the first that is met: what keeps it from being read, then what keeps its
values from being made.
-/

namespace GoIndex.Data.Yaml

open Text

/-! ### Nodes that change -/

/-- The tag of a node. -/
def tagAt (nodes : Array Node) (n : Nat) : Tag :=
  (nodes[n]?.map (·.tag)).getD .unknown

/-- What a node consists of. -/
def contentAt (nodes : Array Node) (n : Nat) : Content :=
  (nodes[n]?.map (·.content)).getD (.scalar [])

/-- Whether a node is a mapping. -/
def isMap : Content → Bool
  | .map _ => true
  | _ => false

/-- The pairs of a mapping. -/
def pairsAt (nodes : Array Node) (n : Nat) : List (Nat × Nat) :=
  match contentAt nodes n with
  | .map pairs => pairs
  | _ => []

/-- The nodes with other pairs in a mapping. -/
def setPairs (nodes : Array Node) (n : Nat) (pairs : List (Nat × Nat)) : Array Node :=
  nodes.modify n fun node => { node with content := .map pairs }

/-- The nodes with another tag for one of them. -/
def setTag (nodes : Array Node) (n : Nat) (tag : Tag) : Array Node :=
  nodes.modify n fun node => { node with tag := tag }

/-! ### Mappings that take over pairs -/

mutual

/-- Takes over pairs into a mapping for its keys from a place on; `taken` are those of the keys
before it. -/
def flatten : (fuel : Nat) → (n place : Nat) → (taken : List (Nat × Nat)) → Array Node →
    Except Defect (Array Node)
  | 0, _, _, _, _ => .error .malformed
  | fuel + 1, n, place, taken, nodes =>
    let pairs := pairsAt nodes n
    match pairs[place]? with
    | none => .ok (setPairs nodes n (taken ++ pairs))
    | some (key, value) =>
      match tagAt nodes key with
      | .merge => do
        let (more, nodes) ← takeOver fuel value (setPairs nodes n (pairs.eraseIdx place))
        flatten fuel n place (taken ++ more) nodes
      | .value => flatten fuel n (place + 1) taken (setTag nodes key .str)
      | _ => flatten fuel n (place + 1) taken nodes

/-- The pairs of a mapping, or of the mappings of a list from the last on. -/
def takeOver : (fuel n : Nat) → Array Node → Except Defect (List (Nat × Nat) × Array Node)
  | 0, _, _ => .error .malformed
  | fuel + 1, n, nodes =>
    match contentAt nodes n with
    | .scalar _ => .error .malformed
    | .list items => takeOverAll fuel items nodes
    | .map _ => do
      let nodes ← flatten fuel n 0 [] nodes
      .ok (pairsAt nodes n, nodes)

/-- The pairs of mappings from the last on. -/
def takeOverAll : (fuel : Nat) → (items : List Nat) → Array Node →
    Except Defect (List (Nat × Nat) × Array Node)
  | 0, _, _ => .error .malformed
  | _ + 1, [], nodes => .ok ([], nodes)
  | fuel + 1, n :: items, nodes =>
    match contentAt nodes n with
    | .map _ => do
      let nodes ← flatten fuel n 0 [] nodes
      let pairs := pairsAt nodes n
      let (more, nodes) ← takeOverAll fuel items nodes
      .ok (more ++ pairs, nodes)
    | _ => .error .malformed

end

/-- How many nodes and parts of nodes there are. -/
def sizeOf (nodes : Array Node) : Nat :=
  nodes.foldl (fun sum node => sum + 1 + match node.content with
    | .scalar _ => 0
    | .list items => items.length
    | .map pairs => pairs.length) 0

/-! ### Making values -/

/-- What a node stands for. Parts are given by the numbers of their nodes. -/
inductive Item where
  | scalar (value : Scalar)
  | list (items : List Nat)
  | map (entries : List (Scalar × Nat))
  | keys (keys : List Scalar)
  | pairs (pairs : List (Nat × Nat))

/-- The nodes, what has been made of them, and the collections that wait to be filled. -/
structure Making where
  nodes : Array Node
  items : Array (Option Item)
  waiting : List Nat := []

/-- In how many nodes, one below the other, the text of a scalar is looked for. -/
def textLevels : Nat := 980

/-- The text of a node that has to have one. A mapping has that of its value under the tag of `=`,
and one that leads back into itself has none within any number of levels. -/
def scalarText : (levels : Nat) → (nodes : Array Node) → (n : Nat) → Except Defect Letters
  | 0, _, _ => .error .buriedText
  | levels + 1, nodes, n =>
    match contentAt nodes n with
    | .scalar text => .ok text
    | .list _ => .error .malformed
    | .map pairs =>
      match pairs.find? fun pair => tagAt nodes pair.1 == .value with
      | some pair => scalarText levels nodes pair.2
      | none => .error .malformed

namespace Making

/-- What has been made of a node. -/
def item? (m : Making) (n : Nat) : Option Item :=
  m.items[n]?.join

/-- Tells what a node stands for. -/
def put (m : Making) (n : Nat) (item : Item) : Making :=
  { m with items := m.items.setIfInBounds n (some item) }

/-- Makes what a node stands for, unless it has been made. -/
def make (m : Making) (n : Nat) : Except Defect Making := do
  if (m.item? n).isSome then .ok m
  else
    match tagAt m.nodes n with
    | .seq | .map | .set | .omap | .pairs =>
      .ok { m.put n (.list []) with waiting := m.waiting ++ [n] }
    | tag =>
      let text ← scalarText textLevels m.nodes n
      if tag = .timestamp ∧ isMap (contentAt m.nodes n) then .error .mappedDate
      else .ok (m.put n (.scalar (← tag.read text)))

/-- Makes what several nodes stand for. -/
def makeAll (m : Making) (numbers : List Nat) : Except Defect Making :=
  numbers.foldlM make m

/-- Makes keys and values in turn; the entries of the pairs before them are given. -/
def makeEntries (entries : List (Scalar × Nat)) :
    (pairs : List (Nat × Nat)) → Making → Except Defect (List (Scalar × Nat) × Making)
  | [], m => .ok (entries, m)
  | (key, value) :: pairs, m => do
    let m ← m.make key
    match m.item? key with
    | some (.scalar scalar) =>
      let m ← m.make value
      makeEntries (setEntry scalar value entries) pairs m
    | _ => .error .malformed

/-- Makes the entries of a mapping. -/
def makeMap (m : Making) (n : Nat) : Except Defect (List (Scalar × Nat) × Making) := do
  match contentAt m.nodes n with
  | .map _ =>
    let nodes ← flatten (Nat.pow 2 (sizeOf m.nodes)) n 0 [] m.nodes
    makeEntries [] (pairsAt nodes n) { m with nodes := nodes }
  | _ => .error .malformed

/-- The only pair of a mapping. -/
def onlyPair? (m : Making) (n : Nat) : Option (Nat × Nat) :=
  match contentAt m.nodes n with
  | .map [pair] => some pair
  | _ => none

/-- Makes pairs out of mappings with one pair each. -/
def makePairs (pairs : List (Nat × Nat)) :
    (numbers : List Nat) → Making → Except Defect (List (Nat × Nat) × Making)
  | [], m => .ok (pairs.reverse, m)
  | n :: numbers, m => do
    let pair ← wellFormed (m.onlyPair? n)
    makePairs (pair :: pairs) numbers (← m.makeAll [pair.1, pair.2])

/-- Fills a collection. -/
def fill (m : Making) (n : Nat) : Except Defect Making := do
  match tagAt m.nodes n, contentAt m.nodes n with
  | .seq, .list items => .ok ((← m.makeAll items).put n (.list items))
  | .map, _ =>
    let (entries, m) ← m.makeMap n
    .ok (m.put n (.map entries))
  | .set, _ =>
    let (entries, m) ← m.makeMap n
    .ok (m.put n (.keys (entries.map (·.1))))
  | .omap, .list items | .pairs, .list items =>
    let (pairs, m) ← makePairs [] items m
    .ok (m.put n (.pairs pairs))
  | _, _ => .error .malformed

/-- Fills all collections that wait, in order; `fuel` bounds their number. -/
def fillAll : (fuel : Nat) → Making → Except Defect Making
  | 0, _ => .error .malformed
  | fuel + 1, m =>
    match m.waiting with
    | [] => .ok m
    | n :: waiting => do fillAll fuel (← fill { m with waiting := waiting } n)

end Making

/-! ### Values -/

/-- What a document stands for: items by the numbers of their nodes, and the topmost one. -/
structure Document where
  items : Array (Option Item)
  root : Nat

/-- The values of a graph. -/
def Graph.make (graph : Graph) : Except Defect Document := do
  let start : Making := ⟨graph.nodes, Array.replicate graph.nodes.size none, []⟩
  let m ← Making.fillAll (graph.nodes.size + 1) (← start.make graph.root)
  .ok ⟨m.items, graph.root⟩

/-- What a text stands for. -/
def parse (source : Source) : Except Defect Document := do
  (← document (tokens source)).make

namespace Document

/-- The value of a node down to a depth, where collections are left empty. -/
def unfold (d : Document) : (depth n : Nat) → Value
  | 0, n =>
    match d.items[n]?.join with
    | some (.scalar value) => .scalar value
    | some (.map _) => .map []
    | _ => .list []
  | depth + 1, n =>
    match d.items[n]?.join with
    | some (.scalar value) => .scalar value
    | some (.map entries) => .map (entries.map fun entry => (entry.1, d.unfold depth entry.2))
    | some (.list items) => .list (items.map (d.unfold depth))
    | some (.keys keys) => .list (keys.map Value.scalar)
    | some (.pairs pairs) =>
      .list (pairs.map fun pair => .list [d.unfold depth pair.1, d.unfold depth pair.2])
    | none => .list []

/-- Whether a node stands for a mapping. -/
def isMapping (d : Document) (n : Nat) : Bool :=
  match d.items[n]?.join with
  | some (.map _) => true
  | _ => false

/-- The entries of a mapping; any other value has none. -/
def entriesAt (d : Document) (n : Nat) : List (Scalar × Nat) :=
  match d.items[n]?.join with
  | some (.map entries) => entries
  | _ => []

/-- The entries of a document, each down to a depth. -/
def entries (d : Document) (depth : Nat) : Entries :=
  (d.entriesAt d.root).map fun entry => (entry.1, d.unfold depth entry.2)

end Document

end GoIndex.Data.Yaml
