import FormatterConfig.Yaml.Graph.Basic
import FormatterConfig.Yaml.Resolve
import FormatterConfig.Yaml.Token.Lexer

set_option autoImplicit false

/-! # From tokens to the node graph

The grammar of documents over tokens. Nodes enter the graph in the order in which they start, so
that an alias inside a collection can refer to that collection. A token that the lexer could not
certify is a fault at the moment when the grammar asks for it, and no earlier. -/

namespace FormatterConfig.Yaml

/-- The state of reading nodes. -/
structure NodeReader where
  tokens : List Token
  fault : Option Error
  graph : Graph
  /-- The anchored nodes: name, number and mark. -/
  anchors : List (String × Nat × Mark)
  /-- The handles of tags and what they stand for. -/
  handles : List (String × String)

/-- A step of reading. -/
abbrev ReadM := StateT NodeReader (Except Error)

namespace NodeReader

/-- The handles that every document has. -/
def defaultHandles : List (String × String) := [("!", "!"), ("!!", coreTagStart)]

/-- The next token. -/
def peek : ReadM Token := do
  let s ← get
  match s.tokens, s.fault with
  | t :: _, _ => return t
  | [], some e => throw e
  | [], none => return ⟨.streamEnd, ⟨0, 0, 0⟩, ⟨0, 0, 0⟩⟩

/-- Takes the next token. -/
def take : ReadM Token := do
  let t ← peek
  modify fun s => { s with tokens := s.tokens.tail }
  return t

/-- Whether the next token is of a kind. -/
def nextIs (kind : TokenKind) : ReadM Bool := return (← peek).kind == kind

/-- Whether the next token is of one of some kinds. -/
def nextIsOneOf (kinds : List TokenKind) : ReadM Bool := return kinds.contains (← peek).kind

/-- Adds a node under a number of its own and notes its anchor. -/
def addNode (node : Node) (anchor : Option String) : ReadM Nat := do
  let s ← get
  let i := s.graph.nodes.size
  let anchors :=
    match anchor with
    | some name => (name, i, node.start) :: s.anchors
    | none => s.anchors
  set { s with graph := s.graph.add node, anchors := anchors }
  return i

/-- Fills in the parts of a collection. -/
def fill (i : Nat) (body : NodeBody) : ReadM Unit :=
  modify fun s => { s with graph := s.graph.set i { s.graph.node i with body := body } }

/-- Adds an empty scalar at a mark. -/
def addEmpty (mark : Mark) : ReadM Nat :=
  addNode ⟨resolveScalar [], mark, .scalar ""⟩ none

/-- Reads an alias that is next: the node it refers to. -/
def readAlias (name : String) : ReadM Nat := do
  let t ← take
  let s ← get
  match s.anchors.find? (·.1 == name) with
  | some (_, i, _) => return i
  | none => throw (.at t.start (.undefinedAlias name))

/-- The anchor and the tag in front of a node, the mark at the first of them, and the marks at the
tag and after the last of them. -/
structure Properties where
  anchor : Option String
  tag : Option (Option String × String)
  start : Option Mark
  tagStart : Mark
  stop : Mark

/-- Reads an anchor if one is next. -/
def readAnchor? : ReadM (Option (String × Token)) := do
  match (← peek).kind with
  | .anchor name => return some (name, ← take)
  | _ => return none

/-- Reads a tag if one is next. -/
def readTag? : ReadM (Option ((Option String × String) × Token)) := do
  match (← peek).kind with
  | .tag handle suffix => return some ((handle, suffix), ← take)
  | _ => return none

/-- Reads an anchor and a tag, in either order. -/
def readProperties : ReadM Properties := do
  let zero : Mark := ⟨0, 0, 0⟩
  match ← readAnchor? with
  | some (anchor, a) =>
    match ← readTag? with
    | some (tag, t) => return ⟨some anchor, some tag, some a.start, t.start, t.stop⟩
    | none => return ⟨some anchor, none, some a.start, zero, a.stop⟩
  | none =>
    match ← readTag? with
    | some (tag, t) =>
      match ← readAnchor? with
      | some (anchor, a) => return ⟨some anchor, some tag, some t.start, t.start, a.stop⟩
      | none => return ⟨none, some tag, some t.start, t.start, t.stop⟩
    | none => return ⟨none, none, none, zero, zero⟩

/-- The tag in full. -/
def fullTag (p : Properties) : ReadM (Option String) := do
  match p.tag with
  | none => return none
  | some (none, suffix) => return some suffix
  | some (some handle, suffix) =>
    match (← get).handles.find? (·.1 == handle) with
    | some (_, uri) => return some (uri ++ suffix)
    | none =>
      throw (.within .taggedNode (p.start.getD p.tagStart) p.tagStart (.undefinedHandle handle))

/-- An anchor may be given once in a document. -/
def checkAnchor (anchor : Option String) (start : Mark) : ReadM Unit := do
  if let some name := anchor then
    if let some (_, _, first) := (← get).anchors.find? (·.1 == name) then
      throw (.within (.firstOccurrence name) first start .secondOccurrence)

/-- The tag of a scalar: a plain one without a tag, or one under `!`, is what its text
looks like. -/
def scalarTag (tag : Option String) (style : ScalarStyle) (text : String) : String :=
  match tag, style with
  | none, .plain => resolveScalar text.toList
  | none, .quoted => coreTag "str"
  | some t, _ => if t = "!" then resolveScalar text.toList else t

/-- The tag of a collection. -/
def collectionTag (tag : Option String) (standard : String) : String :=
  match tag with
  | none => coreTag standard
  | some t => if t = "!" then coreTag standard else t

/-- Starts a collection and notes its anchor. -/
def openNode (tag : Option String) (standard : String) (start : Mark) (anchor : Option String)
    (body : NodeBody) : ReadM Nat := do
  checkAnchor anchor start
  addNode ⟨collectionTag tag standard, start, body⟩ anchor

/-- The fault of a token that does not go on with a collection. -/
def unexpected {α : Type} (context : Context) (start : Mark) (wanted : WantedToken) : ReadM α := do
  let t ← peek
  throw (.within context start t.start (.unexpectedToken wanted t.kind.name))

mutual

/-- Reads a node. In block context it may be a block collection, and as the value of a key also a
sequence without indentation of its own. -/
def readNode (block indentless : Bool) : (fuel : Nat) → ReadM Nat
  | 0 => return 0
  | fuel + 1 => do
    match (← peek).kind with
    | .alias name => readAlias name
    | _ =>
      let p ← readProperties
      let tag ← fullTag p
      let t ← peek
      let start := p.start.getD t.start
      match t.kind, block, indentless with
      | .blockEntry, _, true =>
        let i ← openNode tag "seq" start p.anchor (.sequence [])
        fill i (.sequence (← readIndentless fuel []))
        return i
      | .scalar text style, _, _ =>
        let _ ← take
        checkAnchor p.anchor start
        addNode ⟨scalarTag tag style text, start, .scalar text⟩ p.anchor
      | .flowSequenceStart, _, _ =>
        let i ← openNode tag "seq" start p.anchor (.sequence [])
        let _ ← take
        fill i (.sequence (← readFlowSequence t.start fuel true []))
        return i
      | .flowMappingStart, _, _ =>
        let i ← openNode tag "map" start p.anchor (.mapping [])
        let _ ← take
        fill i (.mapping (← readFlowMapping t.start fuel true []))
        return i
      | .blockSequenceStart, true, _ =>
        let i ← openNode tag "seq" start p.anchor (.sequence [])
        let _ ← take
        fill i (.sequence (← readBlockSequence t.start fuel []))
        return i
      | .blockMappingStart, true, _ =>
        let i ← openNode tag "map" start p.anchor (.mapping [])
        let _ ← take
        fill i (.mapping (← readBlockMapping t.start fuel []))
        return i
      | _, _, _ =>
        if p.anchor.isSome || p.tag.isSome then
          checkAnchor p.anchor start
          addNode ⟨scalarTag tag .plain "", start, .scalar ""⟩ p.anchor
        else unexpected (if block then .blockNode else .flowNode) start .nodeContent

/-- Reads a node, or an empty scalar at a mark if one of the `ends` is next. -/
def readNodeUnless (ends : List TokenKind) (mark : Mark) (block indentless : Bool) :
    (fuel : Nat) → ReadM Nat
  | 0 => return 0
  | fuel + 1 => do
    if ← nextIsOneOf ends then addEmpty mark else readNode block indentless fuel

/-- The items of a block sequence; `items` are those read, the last one first. -/
def readBlockSequence (start : Mark) : (fuel : Nat) → (items : List Nat) → ReadM (List Nat)
  | 0, items => return items.reverse
  | fuel + 1, items => do
    if ← nextIs .blockEntry then
      let t ← take
      let i ← readNodeUnless [.blockEntry, .blockEnd] t.stop true false fuel
      readBlockSequence start fuel (i :: items)
    else if ← nextIs .blockEnd then
      let _ ← take
      return items.reverse
    else unexpected .blockCollection start .blockEnd

/-- The items of a sequence at its key's own indentation. -/
def readIndentless : (fuel : Nat) → (items : List Nat) → ReadM (List Nat)
  | 0, items => return items.reverse
  | fuel + 1, items => do
    if ← nextIs .blockEntry then
      let t ← take
      let i ← readNodeUnless [.blockEntry, .key, .value, .blockEnd] t.stop true false fuel
      readIndentless fuel (i :: items)
    else return items.reverse

/-- The pairs of a block mapping. -/
def readBlockMapping (start : Mark) : (fuel : Nat) → (pairs : List (Nat × Nat)) →
    ReadM (List (Nat × Nat))
  | 0, pairs => return pairs.reverse
  | fuel + 1, pairs => do
    if ← nextIs .key then
      let t ← take
      let k ← readNodeUnless [.key, .value, .blockEnd] t.stop true true fuel
      let v ←
        if ← nextIs .value then do
          let t ← take
          readNodeUnless [.key, .value, .blockEnd] t.stop true true fuel
        else addEmpty (← peek).start
      readBlockMapping start fuel ((k, v) :: pairs)
    else if ← nextIs .blockEnd then
      let _ ← take
      return pairs.reverse
    else unexpected .blockMapping start .blockEnd

/-- The value after a key of a flow collection that `close` ends. -/
def readFlowValue (close : TokenKind) : (fuel : Nat) → ReadM Nat
  | 0 => return 0
  | fuel + 1 => do
    if ← nextIs .value then
      let t ← take
      readNodeUnless [.flowEntry, close] t.stop false false fuel
    else addEmpty (← peek).start

/-- The items of a flow sequence; an item that starts as a key is a mapping of one pair. -/
def readFlowSequence (start : Mark) : (fuel : Nat) → (first : Bool) → (items : List Nat) →
    ReadM (List Nat)
  | 0, _, items => return items.reverse
  | fuel + 1, first, items => do
    if ← nextIs .flowSequenceEnd then
      let _ ← take
      return items.reverse
    else
      if !first then
        if ← nextIs .flowEntry then
          let _ ← take
        else unexpected .flowSequence start .sequenceSeparator
      if ← nextIs .key then
        let t ← peek
        let m ← addNode ⟨coreTag "map", t.start, .mapping []⟩ none
        let _ ← take
        let k ← readNodeUnless [.value, .flowEntry, .flowSequenceEnd] t.stop false false fuel
        let v ← readFlowValue .flowSequenceEnd fuel
        let _ ← peek
        fill m (.mapping [(k, v)])
        readFlowSequence start fuel false (m :: items)
      else if ← nextIs .flowSequenceEnd then
        let _ ← take
        return items.reverse
      else
        let i ← readNode false false fuel
        readFlowSequence start fuel false (i :: items)

/-- The pairs of a flow mapping; a key alone has an empty value. -/
def readFlowMapping (start : Mark) : (fuel : Nat) → (first : Bool) → (pairs : List (Nat × Nat)) →
    ReadM (List (Nat × Nat))
  | 0, _, pairs => return pairs.reverse
  | fuel + 1, first, pairs => do
    if ← nextIs .flowMappingEnd then
      let _ ← take
      return pairs.reverse
    else
      if !first then
        if ← nextIs .flowEntry then
          let _ ← take
        else unexpected .flowMapping start .mappingSeparator
      if ← nextIs .key then
        let t ← take
        let k ← readNodeUnless [.value, .flowEntry, .flowMappingEnd] t.stop false false fuel
        let v ← readFlowValue .flowMappingEnd fuel
        readFlowMapping start fuel false ((k, v) :: pairs)
      else if ← nextIs .flowMappingEnd then
        let _ ← take
        return pairs.reverse
      else
        let k ← readNode false false fuel
        let v ← addEmpty (← peek).start
        readFlowMapping start fuel false ((k, v) :: pairs)

end

/-! ## Documents -/

/-- The directives in front of a document, with the version if one was given: they say which handles
its tags may use. -/
def readDirectives : (fuel : Nat) → (versioned : Bool) → (handles : List (String × String)) →
    ReadM (List (String × String))
  | 0, _, handles => return handles
  | fuel + 1, versioned, handles => do
    match (← peek).kind with
    | .directive d =>
      let t ← take
      match d with
      | .version major _ =>
        if versioned then throw (.at t.start .duplicateVersion)
        else if major ≠ 1 then throw (.at t.start .incompatibleVersion)
        else readDirectives fuel true handles
      | .tagHandle handle uri =>
        if handles.any (·.1 == handle) then throw (.at t.start (.duplicateHandle handle))
        else readDirectives fuel versioned ((handle, uri) :: handles)
      | .other => readDirectives fuel versioned handles
    | _ => return handles

/-- Passes over marks that end documents. -/
def skipDocumentEnds : (fuel : Nat) → ReadM Unit
  | 0 => return
  | fuel + 1 => do
    if ← nextIs .documentEnd then
      let _ ← take
      skipDocumentEnds fuel

/-- Reads the start of a document with its directives, or the end of the stream: the mark at the
start if there is a document. -/
def readExplicitStart (fuel : Nat) : ReadM (Option Mark) := do
  skipDocumentEnds fuel
  if ← nextIs .streamEnd then return none
  else
    let start := (← peek).start
    let handles ← readDirectives fuel false []
    if ← nextIs .documentStart then
      let _ ← take
      let missing := defaultHandles.filter fun h => !handles.any (·.1 == h.1)
      modify fun s => { s with handles := handles ++ missing }
      return some start
    else
      let t ← peek
      throw (.at t.start (.unexpectedToken .documentStart t.kind.name))

/-- Whether a token starts or ends a document. -/
def isDocumentBoundary : TokenKind → Bool
  | .directive _ | .documentStart | .documentEnd | .streamEnd => true
  | _ => false

/-- Reads the root of a document. -/
def readRoot (explicit : Bool) (fuel : Nat) : ReadM Nat := do
  let t ← peek
  if explicit && isDocumentBoundary t.kind then addEmpty t.start
  else readNode true false fuel

/-- Reads the only document of a stream: the number of its root, or nothing if there is none. -/
def readSingle (fuel : Nat) : ReadM (Option Nat) := do
  let t ← peek
  let start ←
    match t.kind with
    | .directive _ | .documentStart | .streamEnd => do
      match ← readExplicitStart fuel with
      | none => return none
      | some _ => pure true
    | _ => pure false
  let root ← readRoot start fuel
  if ← nextIs .documentEnd then
    let _ ← take
  let rootStart := (← get).graph.node root |>.start
  match ← readExplicitStart fuel with
  | none => return some root
  | some mark => throw (.within .singleDocument rootStart mark .anotherDocument)

end NodeReader

/-- The graph of the only document in a stream of tokens and the number of its root. -/
def Graph.ofTokens (s : TokenStream) : Except Error (Graph × Option Nat) := do
  let fuel := 4 * s.tokens.length + 8
  let reader : NodeReader := ⟨s.tokens, s.fault, Graph.empty, [], NodeReader.defaultHandles⟩
  let (root, reader) ← (NodeReader.readSingle fuel).run reader
  return (reader.graph, root)

end FormatterConfig.Yaml
