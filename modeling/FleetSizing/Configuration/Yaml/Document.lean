import FleetSizing.Configuration.Yaml.Node
import FleetSizing.Configuration.Yaml.Token

/-! Reading YAML documents. -/
namespace FleetSizing.Yaml

/-- Tokens that are still to be read, and what earlier ones have introduced. -/
structure Progress where
  tokens : List Token
  /-- What handles of tags stand for. -/
  handles : List (String × String) := []
  /-- Anchors by name, the last first, and how many there have been. -/
  anchors : List (String × Nat) := []
  anchorCount : Nat := 0
  /-- Nodes of anchors, once they are complete. -/
  nodes : List (Nat × Node) := []

abbrev Reading := StateT Progress Option

def peek? : Reading (Option Token) := do return (← get).tokens.head?

def advance : Reading Unit := modify fun p => { p with tokens := p.tokens.drop 1 }

/-- Whether one of some tokens comes next. -/
def nextIs (ts : List Token) : Reading Bool := do return (← peek?).any ts.contains

/-- A tag by the handles of the document; two exclamation marks stand for kinds of scalars. -/
def resolve? (t : Tag) : Reading Tag := do
  match (← get).handles.lookup t.handle with
  | some start => return ⟨start, t.suffix⟩
  | none =>
    if t.handle = "!!" then return ⟨Node.kindStart, t.suffix⟩
    else if isHandle t.handle then failure
    else return t

/-- The node of an alias, which has to come after its anchor. -/
def aliased (name : String) : Reading Node := do
  let p ← get
  let some id := p.anchors.lookup name | failure
  return (p.nodes.lookup id).getD .bad

def addAnchor (name : String) : Reading Nat :=
  modifyGet fun p => (p.anchorCount,
    { p with anchors := (name, p.anchorCount) :: p.anchors, anchorCount := p.anchorCount + 1 })

def anchorHere : Reading (Option Nat) := do
  match ← peek? with
  | some (.anchor name) => do
    advance
    return some (← addAnchor name)
  | _ => return none

def tagHere : Reading (Option Tag) := do
  match ← peek? with
  | some (.tag t) => do
    advance
    return some (← resolve? t)
  | _ => return none

/-- An anchor and a tag, in either order. -/
def properties : Reading (Option Nat × Option Tag) := do
  match ← anchorHere with
  | some id => return (some id, ← tagHere)
  | none =>
    match ← tagHere with
    | some t => return (← anchorHere, some t)
    | none => return (none, none)

/-- Nothing but an anchor or a tag. -/
def blank (id? : Option Nat) (tag? : Option Tag) : Reading Node :=
  if id?.isSome ∨ tag?.isSome then return Node.ofScalar true tag? "" else failure

/-- A mapping out of keys and values in turn. -/
def mapping (ns : List Node) : Reading Node := do
  let some n := Node.ofTurns? ns | failure
  return n

mutual

/-- A node. Blocks may start only where the surroundings allow it; a sequence may go without
indentation after a key. -/
def node (inBlock mayOutdent : Bool) : Nat → Reading Node
  | 0 => failure
  | fuel + 1 => do
    if let some (.alias name) ← peek? then
      advance
      return (← aliased name)
    let (id?, tag?) ← properties
    let n ← match ← peek?, inBlock, mayOutdent with
      | some (.scalar isPlain s), _, _ => do
        advance
        pure (Node.ofScalar isPlain tag? s)
      | some .flowSequenceStart, _, _ => do
        advance
        Node.list <$> flowItems true fuel
      | some .flowMappingStart, _, _ => do
        advance
        mapping (← flowFields true fuel)
      | some .sequenceStart, true, _ => do
        advance
        Node.list <$> blockItems fuel
      | some .mappingStart, true, _ => do
        advance
        mapping (← blockFields fuel)
      | some .entry, _, true => Node.list <$> outdentedItems fuel
      | _, _, _ => blank id? tag?
    if let some id := id? then modify fun p => { p with nodes := (id, n) :: p.nodes }
    return n

/-- A node, or null before one of some tokens. -/
def nodeUnless (ts : List Token) (inBlock mayOutdent : Bool) : Nat → Reading Node
  | 0 => failure
  | fuel + 1 => do
    if ← nextIs ts then return .null else node inBlock mayOutdent fuel

/-- Elements of a block sequence. -/
def blockItems : Nat → Reading (List Node)
  | 0 => failure
  | fuel + 1 => do
    match ← peek? with
    | some .blockEnd => do
      advance
      return []
    | some .entry => do
      advance
      let n ← nodeUnless [.entry, .blockEnd] true false fuel
      return n :: (← blockItems fuel)
    | _ => failure

/-- Elements of a sequence that is not indented. -/
def outdentedItems : Nat → Reading (List Node)
  | 0 => failure
  | fuel + 1 => do
    match ← peek? with
    | some .entry => do
      advance
      let n ← nodeUnless [.entry, .key, .value, .blockEnd] true false fuel
      return n :: (← outdentedItems fuel)
    | _ => return []

/-- Keys and values of a block mapping, in turn. -/
def blockFields : Nat → Reading (List Node)
  | 0 => failure
  | fuel + 1 => do
    let stops : List Token := [.key, .value, .blockEnd]
    match ← peek? with
    | some .blockEnd => do
      advance
      return []
    | some .key => do
      advance
      let k ← nodeUnless stops true true fuel
      let v ← blockValue fuel
      return k :: v :: (← blockFields fuel)
    | some .value => do
      let v ← blockValue fuel
      return .null :: v :: (← blockFields fuel)
    | _ => failure

def blockValue : Nat → Reading Node
  | 0 => failure
  | fuel + 1 => do
    if ← nextIs [.value] then
      advance
      nodeUnless [.key, .value, .blockEnd] true true fuel
    else return .null

/-- Elements of a flow sequence; a pair with a colon is a mapping of its own. -/
def flowItems (isFirst : Bool) : Nat → Reading (List Node)
  | 0 => failure
  | fuel + 1 => do
    if ← nextIs [.flowSequenceEnd] then
      advance
      return []
    unless isFirst do
      if ← nextIs [.comma] then advance else failure
    match ← peek? with
    | some .flowSequenceEnd => do
      advance
      return []
    | some .key => do
      advance
      let k ← pairKey fuel
      let v ← pairValue fuel
      let n ← mapping [k, v]
      return n :: (← flowItems false fuel)
    | _ => do
      let n ← node false false fuel
      return n :: (← flowItems false fuel)

def pairKey : Nat → Reading Node
  | 0 => failure
  | fuel + 1 => do
    if ← nextIs [.value, .comma, .flowSequenceEnd] then
      advance
      return .null
    else node false false fuel

def pairValue : Nat → Reading Node
  | 0 => failure
  | fuel + 1 => do
    if ← nextIs [.value] then
      advance
      nodeUnless [.comma, .flowSequenceEnd] false false fuel
    else return .null

/-- Keys and values of a flow mapping, in turn. -/
def flowFields (isFirst : Bool) : Nat → Reading (List Node)
  | 0 => failure
  | fuel + 1 => do
    if ← nextIs [.flowMappingEnd] then
      advance
      return []
    unless isFirst do
      if ← nextIs [.comma] then advance else failure
    match ← peek? with
    | some .flowMappingEnd => do
      advance
      return []
    | some .key => do
      advance
      let k ← nodeUnless [.value, .comma, .flowMappingEnd] false false fuel
      let v ← flowValue fuel
      return k :: v :: (← flowFields false fuel)
    | some .value => do
      let v ← flowValue fuel
      return .null :: v :: (← flowFields false fuel)
    | _ => do
      let k ← node false false fuel
      return k :: .null :: (← flowFields false fuel)

def flowValue : Nat → Reading Node
  | 0 => failure
  | fuel + 1 => do
    if ← nextIs [.value] then
      advance
      nodeUnless [.comma, .flowMappingEnd] false false fuel
    else return .null

end

/-- Directives before a document, of which one gives the version. Of handles the last counts. -/
def directives : Nat → Bool → Reading Unit
  | 0, _ => failure
  | fuel + 1, hasVersion => do
    match ← peek? with
    | some (.directive .version) => do
      if hasVersion then failure
      modify fun p => { p with handles := [] }
      advance
      directives fuel true
    | some (.directive (.tag handle start)) => do
      modify fun p => { p with handles := [(handle, start)] }
      advance
      directives fuel hasVersion
    | _ => return ()

def documentEnds : Nat → Reading Unit
  | 0 => return ()
  | fuel + 1 => do
    if ← nextIs [.documentEnd] then
      advance
      documentEnds fuel

/-- The only document there is, if there is any. -/
def document : Reading (Option Node) := do
  let fuel := 4 * (← get).tokens.length + 4
  documentEnds fuel
  if (← peek?).isNone then return none
  let isMarked := match ← peek? with
    | some (.directive _) | some .documentStart => true
    | _ => false
  let n ←
    if isMarked then do
      directives fuel false
      unless ← nextIs [.documentStart] do failure
      advance
      match ← peek? with
      | none | some (.directive _) | some .documentStart | some .documentEnd => pure Node.null
      | _ => node true false fuel
    else node true false fuel
  documentEnds fuel
  if (← peek?).isSome then failure
  return some n

/-- A document whose root is a mapping; no document counts as an empty one. -/
def read? (s : String) : Option Configuration.Table := do
  let tokens ← tokens? s
  match ← (document.run' { tokens } : Option (Option Node)) with
  | none => return []
  | some n =>
    match ← n.toJson? with
    | .object fields => return fields
    | _ => none

end FleetSizing.Yaml
