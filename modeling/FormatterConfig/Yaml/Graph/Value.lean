import FormatterConfig.Value.SetOrder
import FormatterConfig.Yaml.Graph.Basic
import FormatterConfig.Yaml.Scalar

set_option autoImplicit false

/-! # From the node graph to a value

Nodes are converted outermost first: a collection's scalars, and the keys of a mapping, before the
contents of the collections in it. This fixes which of several faults is reported. Once every node
has been converted, the value is put together; a collection that contains itself becomes a knot.

A mapping may merge others into itself. Their pairs come before its own, so that its own win; of
several the earlier win. -/

namespace FormatterConfig.Yaml

/-! ## Collections by tag -/

/-- What the node of a collection becomes. -/
inductive CollectionKind where
  | list
  | map
  | set
  | orderedMap
  | pairs
  deriving DecidableEq

/-- The collection that a standard tag stands for. -/
def CollectionKind.ofTag? (tag : String) : Option CollectionKind :=
  if tag = coreTag "seq" then some .list
  else if tag = coreTag "map" then some .map
  else if tag = coreTag "set" then some .set
  else if tag = coreTag "omap" then some .orderedMap
  else if tag = coreTag "pairs" then some .pairs
  else none

/-- The tags whose values are scalars. -/
def scalarTags : List String :=
  ["null", "bool", "int", "float", "binary", "timestamp", "str"].map coreTag

/-- The conversion of a graph: its nodes, the values of the scalars so far, and the collections that
have been met, of which those in `waiting` are still to be converted. -/
structure Conversion where
  graph : Graph
  scalars : Array (Option Value)
  met : Array Bool
  waiting : List Nat

namespace Conversion

/-- The start of a conversion. -/
def ofGraph (g : Graph) : Conversion :=
  ⟨g, Array.replicate g.nodes.size none, Array.replicate g.nodes.size false, []⟩

/-- The items of a sequence. -/
def items (s : Conversion) (i : Nat) : List Nat :=
  match (s.graph.node i).body with
  | .sequence items => items
  | _ => []

/-- The pairs of a mapping. -/
def pairs (s : Conversion) (i : Nat) : List (Nat × Nat) :=
  match (s.graph.node i).body with
  | .mapping pairs => pairs
  | _ => []

/-- Replaces the pairs of a mapping. -/
def setPairs (s : Conversion) (i : Nat) (pairs : List (Nat × Nat)) : Conversion :=
  { s with graph := s.graph.set i { s.graph.node i with body := .mapping pairs } }

/-- The tag of a node. -/
def tag (s : Conversion) (i : Nat) : String := (s.graph.node i).tag

/-- Makes a key that is the mark `=` a text. -/
def retagValueKey (s : Conversion) (i : Nat) : Conversion :=
  if s.tag i = coreTag "value" then
    { s with graph := s.graph.set i { s.graph.node i with tag := coreTag "str" } }
  else s

/-! ## Merging -/

/-- Whether a pair asks for merging. -/
def isMerge (s : Conversion) (p : Nat × Nat) : Bool := s.tag p.1 == coreTag "merge"

/-- The number of pairs that ask for merging. -/
def mergeCount (s : Conversion) : Nat :=
  s.graph.nodes.toList.foldl (fun count n =>
    match n.body with
    | .mapping pairs => count + (pairs.filter s.isMerge).length
    | _ => count) 0

/-- Replaces the merge pairs of mapping `i` from `index` on by the pairs they stand for, which are
collected in `merged` and go in front. Every call removes a merge pair, so their number bounds the
depth. -/
def flattenFrom (i : Nat) : (fuel index : Nat) → (merged : List (Nat × Nat)) → Conversion →
    Except Error Conversion
  | 0, _, _, s => .ok s
  | fuel + 1, index, merged, s => do
    let ps := s.pairs i
    let passed := (ps.drop index).takeWhile fun p => !s.isMerge p
    let s := passed.foldl (fun s p => s.retagValueKey p.1) s
    let index := index + passed.length
    match ps.drop index with
    | [] => return if merged.isEmpty then s else s.setPairs i (merged ++ ps)
    | (_, v) :: _ =>
      let s := s.setPairs i (ps.eraseIdx index)
      let start := (s.graph.node i).start
      let source := s.graph.node v
      match source.body with
      | .mapping _ =>
        let s ← flattenFrom v fuel 0 [] s
        flattenFrom i fuel index (merged ++ s.pairs v) s
      | .sequence parts =>
        let (s, found) ← parts.foldlM
          (fun (acc : Conversion × List (List (Nat × Nat))) part => do
            let node := acc.1.graph.node part
            match node.body with
            | .mapping _ =>
              let s ← flattenFrom part fuel 0 [] acc.1
              return (s, s.pairs part :: acc.2)
            | _ => throw (.within .mapping start node.start (.notMergeableItem node.kind))) (s, [])
        flattenFrom i fuel index (merged ++ found.flatten) s
      | .scalar _ => throw (.within .mapping start source.start (.notMergeable source.kind))

/-- Replaces the merge pairs of a mapping. -/
def flatten (i : Nat) (s : Conversion) : Except Error Conversion :=
  flattenFrom i (s.mergeCount + 1) 0 [] s

/-! ## Converting nodes -/

/-- The text of a node under a scalar tag: a mapping passes for the value of its key `=`. A way that
is longer than there are nodes comes to a mapping again, and would go round until the stack is used
up. -/
def scalarText (s : Conversion) : (fuel i : Nat) → Except Error String
  | 0, _ => .error (.crash .stackExhausted)
  | fuel + 1, i =>
    let node := s.graph.node i
    match node.body with
    | .scalar text => .ok text
    | .sequence _ => .error (.at node.start (.wrongNode .scalar .sequence))
    | .mapping pairs =>
      match pairs.find? fun p => s.tag p.1 == coreTag "value" with
      | some (_, v) => scalarText s fuel v
      | none => .error (.at node.start (.wrongNode .scalar .mapping))

/-- Converts a scalar, or puts a collection in line, unless that has been done. A date must be a
scalar itself, a mapping does not pass for it. -/
def visit (i : Nat) (s : Conversion) : Except Error Conversion := do
  if s.met.getD i true then return s
  let node := s.graph.node i
  let s := { s with met := s.met.setIfInBounds i true }
  if (CollectionKind.ofTag? node.tag).isSome then return { s with waiting := i :: s.waiting }
  else if scalarTags.contains node.tag then
    let text ← s.scalarText (s.graph.nodes.size + 1) i
    if node.tag = coreTag "timestamp" ∧ node.kind ≠ .scalar then
      throw (.conversion .timestampInMapping)
    let v ← convertScalar node.tag node.start (i + 1) text
    return { s with scalars := s.scalars.setIfInBounds i (some v) }
  else throw (.at node.start (.unknownTag node.tag))

/-- Visits nodes one after the other. -/
def visitAll : List Nat → Conversion → Except Error Conversion
  | [], s => .ok s
  | i :: rest, s => do visitAll rest (← visit i s)

/-- Visits the keys and values of a mapping; a key must not be a collection. -/
def visitPairs (start : Mark) : List (Nat × Nat) → Conversion → Except Error Conversion
  | [], s => .ok s
  | (k, v) :: rest, s => do
    let s ← visit k s
    if (CollectionKind.ofTag? (s.tag k)).isSome then
      throw (.within .mapping start (s.graph.node k).start .unhashableKey)
    visitPairs start rest (← visit v s)

/-- Visits the mappings of one pair that an ordered map or a list of pairs is made of. -/
def visitSinglePairs (context : Context) (start : Mark) : List Nat → Conversion →
    Except Error Conversion
  | [], s => .ok s
  | i :: rest, s => do
    let node := s.graph.node i
    match node.body with
    | .mapping [(k, v)] =>
      let s ← visit k s
      visitSinglePairs context start rest (← visit v s)
    | .mapping pairs => throw (.within context start node.start (.notSingleItem pairs.length))
    | _ => throw (.within context start node.start (.notSingleMapping node.kind))

/-- Converts the contents of a collection. -/
def openNode (i : Nat) (s : Conversion) : Except Error Conversion := do
  let node := s.graph.node i
  let ordered (context : Context) : Except Error Conversion :=
    match node.body with
    | .sequence parts => visitSinglePairs context node.start parts s
    | _ => throw (.within context node.start node.start (.notSequence node.kind))
  match CollectionKind.ofTag? node.tag, node.body with
  | some .list, .sequence parts => visitAll parts s
  | some .list, _ => throw (.at node.start (.wrongNode .sequence node.kind))
  | some .orderedMap, _ => ordered .orderedMap
  | some .pairs, _ => ordered .pairs
  | some _, .mapping _ =>
    let s ← s.flatten i
    visitPairs node.start (s.pairs i) s
  | some _, _ => throw (.at node.start (.wrongNode .mapping node.kind))
  | none, _ => return s

/-- Converts the collections in line, and those they put in line behind them, until none is left. A
collection is put in line once, so the number of nodes bounds the rounds. -/
def openAll : (fuel : Nat) → (line : List Nat) → Conversion → Except Error Conversion
  | 0, _, s => .ok s
  | _ + 1, [], s => .ok s
  | fuel + 1, i :: line, s => do
    let s ← s.openNode i
    openAll fuel (line ++ s.waiting.reverse) { s with waiting := [] }

/-! ## Putting the value together -/

/-- The values that are put together, and those of the collections whose value is already closed. -/
abbrev Assembly := StateM (Array (Option Value))

/-- The pairs of the mappings that an ordered map is made of. -/
def singlePairs (s : Conversion) (i : Nat) : List (Nat × Nat) :=
  (s.items i).flatMap s.pairs

/-- The value of node `i` inside the collections of `path`, and those of them that it contains. -/
def assemble (s : Conversion) : (fuel : Nat) → (path : List Nat) → (i : Nat) →
    Assembly (Value × List Nat)
  | 0, _, i => return (.again i, [i])
  | fuel + 1, path, i => do
    if let some v := s.scalars.getD i none then return (v, [])
    if let some v := (← get).getD i none then return (v, [])
    if path.contains i then return (.again i, [i])
    let inner := i :: path
    let parts (nodes : List Nat) : Assembly (List Value × List Nat) := do
      let found ← nodes.mapM fun j => assemble s fuel inner j
      return (found.map (·.1), (found.flatMap (·.2)).eraseDups)
    let pairParts (ps : List (Nat × Nat)) : Assembly (List (Value × Value) × List Nat) := do
      let (ks, kFree) ← parts (ps.map (·.1))
      let (vs, vFree) ← parts (ps.map (·.2))
      return (ks.zip vs, (kFree ++ vFree).eraseDups)
    let (body, free) ←
      match CollectionKind.ofTag? (s.tag i) with
      | some .list => do
        let (vs, free) ← parts (s.items i)
        pure (Value.list vs, free)
      | some .map => do
        let (entries, free) ← pairParts (s.pairs i)
        pure (Value.map (Mapping.ofList entries), free)
      | some .set => do
        let (ks, free) ← parts ((s.pairs i).map (·.1))
        pure (Value.setOfKeys ks, free)
      | some .orderedMap | some .pairs => do
        let (entries, free) ← pairParts (s.singlePairs i)
        pure (Value.list (entries.map fun e => .tuple [e.1, e.2]), free)
      | none => pure (Value.null, [])
    let v := if free.contains i then .knot i body else body
    let free := free.filter (· != i)
    if free.isEmpty then modify fun done => done.setIfInBounds i (some v)
    return (v, free)

/-- The value of a node of a converted graph. -/
def value (s : Conversion) (root : Nat) : Value :=
  let n := s.graph.nodes.size
  ((s.assemble (n + 1) [] root).run (Array.replicate n none)).1.1

end Conversion

/-- The value of a graph with the given root. -/
def Graph.value (g : Graph) (root : Nat) : Except Error Value := do
  let s ← (Conversion.ofGraph g).visit root
  let s ← Conversion.openAll (g.nodes.size + 1) s.waiting { s with waiting := [] }
  return s.value root

end FormatterConfig.Yaml
