import CoopSched.Yaml.Tokens
/-!
# From tokens to nodes

A document is a tree of scalars, sequences and mappings, in which an alias stands for the node of an
anchor. The grammar follows the tokens one by one; each rule below reads one kind of collection.
-/

namespace CoopSched.Yaml

/-- A value of a document. -/
inductive Node where
  | scalar (text : String) (style : Style) (tag : Option String)
  | sequence (items : List Node)
  | mapping (pairs : List (Node × Node))
  | alias (target : Nat)
  deriving Repr, Inhabited

/-- What is left out counts as an empty plain scalar. -/
def Node.blank : Node := .scalar "" .plain none

/-- A node with an anchor. -/
structure Anchored where
  target : Nat
  /-- Where the node begins: how many units come before it in the document. -/
  start : Nat
  node : Node
  deriving Repr

/-- A document: its root, none if there is nothing in the text, and its anchored nodes, the one that
ends last first. -/
structure Document where
  root : Option Node
  anchored : List Anchored
  /-- The number of units: one for a scalar or alias, two for the ends of a collection. -/
  units : Nat
  deriving Repr

/-- The node that an alias stands for. An anchor's number is the count of different names before it,
so a name used twice may share its number with a later one; the node that begins last is meant. -/
def Document.target? (d : Document) (target : Nat) : Option Node :=
  let candidates := d.anchored.filter (·.target == target)
  (candidates.foldl (fun best a =>
    match best with
    | none => some a
    | some b => if b.start < a.start then some a else some b) (none : Option Anchored)).map (·.node)

/-- The state of reading one document. -/
structure Reader where
  tokens : List Token
  handles : List (String × String) := []
  /-- Anchor names with their numbers, the latest first. -/
  names : List (String × Nat) := []
  anchored : List Anchored := []
  units : Nat := 0

/-- Reading with a state, or a fault. -/
abbrev Reading := StateT Reader (Except Fault)

namespace Reading

/-- The next token, which stays. -/
def peek : Reading (Option Token) := fun r => .ok (r.tokens.head?, r)

/-- Pass a token. -/
def pass : Reading Unit := fun r => .ok ((), { r with tokens := r.tokens.drop 1 })

/-- Is the next token one of these? The end of the document counts as none of them. -/
def nextIs (p : Token → Bool) : Reading Bool := fun r => .ok (r.tokens.head?.any p, r)

/-- Refuse the document. -/
def refuse {α : Type} (f : Fault) : Reading α := fun _ => .error f

/-- Count some units. -/
def count (n : Nat) : Reading Unit := fun r => .ok ((), { r with units := r.units + n })

/-- Give a name a number for the node that begins here. -/
def bind (name : String) : Reading (Nat × Nat) := fun r =>
  let target := r.names.length
  let others := r.names.filter (·.1 != name)
  .ok ((target, r.units), { r with names := (name, target) :: others })

/-- Remember the node of a number. -/
def remember (target start : Nat) (node : Node) : Reading Unit := fun r =>
  .ok ((), { r with anchored := ⟨target, start, node⟩ :: r.anchored })

/-- The meaning of a tag. Its handle has to be known. -/
def resolveTag (handle suffix : String) : Reading String := fun r =>
  if handle.isEmpty then .ok (suffix, r)
  else match r.handles.find? (·.1 == handle) with
    | some (_, leading) => .ok (leading ++ suffix, r)
    | none => .error .unknownHandle

/-- An anchor and a tag in either order. -/
def properties : Reading (Option String × Option String) := do
  let anchor ← takeAnchor
  let tag ← takeTag
  match anchor with
  | some _ => pure (anchor, tag)
  | none => pure (← takeAnchor, tag)
where
  takeAnchor : Reading (Option String) := do
    match ← peek with
    | some (.anchor name) => pass; pure (some name)
    | _ => pure none
  takeTag : Reading (Option String) := do
    match ← peek with
    | some (.tag handle suffix) => pass; pure (some (← resolveTag handle suffix))
    | _ => pure none

/-- An empty scalar where a value is left out. -/
def leftOut : Reading Node := do
  count 1
  pure .blank

mutual

/-- One node. `block` allows block collections, `indentless` a sequence whose hyphens stand at the
column of the mapping around it. -/
def node (block indentless : Bool) : Nat → Reading Node
  | 0 => refuse .tooLong
  | fuel + 1 => do
    match ← peek with
    | some (.alias name) =>
      pass
      let r ← get
      match r.names.find? (·.1 == name) with
      | some (_, target) => count 1; pure (.alias target)
      | none => refuse .unknownAnchor
    | _ =>
      let (anchor, tag) ← properties
      let bound ← match anchor with
        | some name => some <$> bind name
        | none => pure none
      let found ← content block indentless (anchor.isSome || tag.isSome) tag fuel
      match bound with
      | some (target, start) => remember target start found
      | none => pure ()
      pure found

/-- The content of a node after its anchor and tag. -/
def content (block indentless marked : Bool) (tag : Option String) : Nat → Reading Node
  | 0 => refuse .tooLong
  | fuel + 1 => do
    match ← peek with
    | some (.scalar text style) =>
      pass
      count 1
      pure (.scalar text style tag)
    | some .flowSequenceStart => pass; count 2; .sequence <$> flowItems true fuel
    | some .flowMappingStart => pass; count 2; .mapping <$> flowPairs true fuel
    | some .blockEntry =>
      if indentless then do
        count 2
        .sequence <$> indentlessItems fuel
      else empty
    | some .blockSequenceStart =>
      if block then do
        pass
        count 2
        .sequence <$> blockItems fuel
      else empty
    | some .blockMappingStart =>
      if block then do
        pass
        count 2
        .mapping <$> blockPairs fuel
      else empty
    | _ => empty
where
  empty : Reading Node :=
    if marked then do
      count 1
      pure (.scalar "" .plain tag)
    else refuse .missingContent

/-- The entries of a block sequence, up to its end. -/
def blockItems : Nat → Reading (List Node)
  | 0 => refuse .tooLong
  | fuel + 1 => do
    match ← peek with
    | some .blockEntry =>
      pass
      let item ←
        if ← nextIs (fun t => t == .blockEntry || t == .blockEnd) then leftOut
        else node true false fuel
      let rest ← blockItems fuel
      pure (item :: rest)
    | some .blockEnd => pass; pure []
    | _ => refuse .missingEntry

/-- The entries of a sequence without an indentation of its own. -/
def indentlessItems : Nat → Reading (List Node)
  | 0 => refuse .tooLong
  | fuel + 1 => do
    match ← peek with
    | some .blockEntry =>
      pass
      let item ←
        if ← nextIs (fun t => t == .blockEntry || t == .key || t == .value || t == .blockEnd) then
          leftOut
        else node true false fuel
      let rest ← indentlessItems fuel
      pure (item :: rest)
    | _ => pure []

/-- The pairs of a block mapping, up to its end. -/
def blockPairs : Nat → Reading (List (Node × Node))
  | 0 => refuse .tooLong
  | fuel + 1 => do
    match ← peek with
    | some .blockEnd => pass; pure []
    | some .key =>
      pass
      let key ← blockPart fuel
      let value ← blockValue fuel
      let rest ← blockPairs fuel
      pure ((key, value) :: rest)
    | _ => refuse .missingKey

/-- A key or a value of a block mapping, empty if another mark follows at once. -/
def blockPart : Nat → Reading Node
  | 0 => refuse .tooLong
  | fuel + 1 => do
    if ← nextIs (fun t => t == .key || t == .value || t == .blockEnd) then leftOut
    else node true true fuel

/-- The value of a pair, empty without its mark. -/
def blockValue : Nat → Reading Node
  | 0 => refuse .tooLong
  | fuel + 1 => do
    if ← nextIs (· == .value) then
      pass
      blockPart fuel
    else leftOut

/-- The items of a sequence in brackets; between two of them there is a comma. -/
def flowItems (first : Bool) : Nat → Reading (List Node)
  | 0 => refuse .tooLong
  | fuel + 1 => do
    if ← nextIs (· == .flowSequenceEnd) then
      pass
      pure []
    else
      if !first then
        if ← nextIs (· == .flowEntry) then pass else refuse .missingComma
      if ← nextIs (· == .key) then
        pass
        count 2
        let key ← singleKey fuel
        let value ← flowValue .flowSequenceEnd fuel
        let rest ← flowItems false fuel
        pure (.mapping [(key, value)] :: rest)
      else if ← nextIs (· == .flowSequenceEnd) then
        pass
        pure []
      else
        let item ← node false false fuel
        let rest ← flowItems false fuel
        pure (item :: rest)

/-- The key of a single pair inside a sequence in brackets. Where it is left out, the mark that
follows is passed with it. -/
def singleKey : Nat → Reading Node
  | 0 => refuse .tooLong
  | fuel + 1 => do
    if ← nextIs (fun t => t == .value || t == .flowEntry || t == .flowSequenceEnd) then
      pass
      leftOut
    else node false false fuel

/-- The value of a pair in brackets, up to a comma or the closing bracket. -/
def flowValue (closing : Token) : Nat → Reading Node
  | 0 => refuse .tooLong
  | fuel + 1 => do
    if ← nextIs (· == .value) then
      pass
      if ← nextIs (fun t => t == .flowEntry || t == closing) then leftOut
      else node false false fuel
    else leftOut

/-- The pairs of a mapping in braces; between two of them there is a comma. -/
def flowPairs (first : Bool) : Nat → Reading (List (Node × Node))
  | 0 => refuse .tooLong
  | fuel + 1 => do
    if ← nextIs (· == .flowMappingEnd) then
      pass
      pure []
    else
      if !first then
        if ← nextIs (· == .flowEntry) then pass else refuse .missingComma
      if ← nextIs (· == .key) then
        pass
        let key ←
          if ← nextIs (fun t => t == .value || t == .flowEntry || t == .flowMappingEnd) then
            leftOut
          else node false false fuel
        let value ← flowValue .flowMappingEnd fuel
        let rest ← flowPairs false fuel
        pure ((key, value) :: rest)
      else if ← nextIs (· == .flowMappingEnd) then
        pass
        pure []
      else
        let key ← node false false fuel
        let value ← leftOut
        let rest ← flowPairs false fuel
        pure ((key, value) :: rest)

end

/-- The directives before a document. A version is given once and is 1.1 or 1.2, a handle once. -/
def directives : Nat → Bool → List (String × String) → Reading (List (String × String))
  | 0, _, _ => refuse .tooLong
  | fuel + 1, versionSeen, handles => do
    match ← peek with
    | some (.version major minor) =>
      if versionSeen || major != 1 || (minor != 1 && minor != 2) then refuse .badDirective
      else
        pass
        directives fuel true handles
    | some (.tagHandle handle leading) =>
      if handles.any (·.1 == handle) then refuse .badDirective
      else
        pass
        directives fuel versionSeen (handles ++ [(handle, leading)])
    | _ => pure handles

/-- The handles that every document knows. -/
def knownHandles : List (String × String) := [("!", "!"), ("!!", "tag:yaml.org,2002:")]

/-- The first document. It needs no mark at its start unless it has directives. -/
def document (fuel : Nat) : Reading Document := do
  let explicit ← nextIs fun
    | .version .. | .tagHandle .. | .documentStart => true
    | _ => false
  if (← peek).isNone then
    pure { root := none, anchored := [], units := 1 }
  else
    let declared ← if explicit then directives fuel false [] else pure []
    modify fun r => { r with handles := declared ++ knownHandles }
    if explicit then
      if ← nextIs (· == .documentStart) then pass else refuse .missingDocumentStart
    let absent ← match ← peek with
      | none => pure true
      | some t => pure (explicit && match t with
        | .version .. | .tagHandle .. | .documentStart | .documentEnd => true
        | _ => false)
    let root ← if absent then leftOut else node true false fuel
    if ← nextIs (· == .documentEnd) then pass
    let r ← get
    pure { root := some root, anchored := r.anchored, units := r.units }

/-- Is there nothing but ends of documents left? -/
def nothingElse : Reading Bool := fun r => .ok (r.tokens.all (· == .documentEnd), r)

end Reading

/-- The only document of a text. A second one is refused, and so is what can be no document. -/
def Document.ofText? (text : String) : Except Fault Document := do
  let ts ← tokens text
  let reading : Reading Document := do
    let d ← Reading.document (8 * ts.length + 16)
    if ← Reading.nothingElse then pure d else Reading.refuse .severalDocuments
  reading.run' { tokens := ts }

end CoopSched.Yaml
