import ApiCatalog.Document.Tree
import ApiCatalog.Yaml.Token

/-! # YAML nodes

The nodes that the tokens of a YAML document describe. An alias holds the number of its anchor.

The number of an anchor counts the names declared before it. A name that is declared again does not
count anew, so that anchors may share a number; it stands for the last one of their nodes.
-/

namespace ApiCatalog.Yaml

inductive Node where
  | scalar (s : Scalar)
  | list (items : List Node)
  | map (entries : List (Node × Node))
  | tagged (name : String) (content : Node)
  | aliasOf (number : Nat)
  deriving Repr

namespace Node

def void : Node := .scalar (.text "" .plain none)

mutual

/-- How many events it takes to write a node: one for a leaf and two for the ends of a
collection. -/
def events : Node → Nat
  | scalar _ => 1
  | list items => itemEvents items + 2
  | map entries => entryEvents entries + 2
  | tagged _ content => events content
  | aliasOf _ => 1

def itemEvents : List Node → Nat
  | [] => 0
  | item :: items => events item + itemEvents items

def entryEvents : List (Node × Node) → Nat
  | [] => 0
  | (key, value) :: entries => events key + events value + entryEvents entries

end

end Node

structure Document where
  root : Node
  /-- The places of the nodes that the numbers of anchors stand for, the last one declared
  first. -/
  places : List (Nat × Nat) := []
  /-- The anchored nodes, each with its place in the order in which they start. -/
  anchored : List (Nat × Node) := []
  deriving Repr

def Document.node? (d : Document) (number : Nat) : Option Node :=
  (d.places.lookup number).bind fun place => d.anchored.lookup place

/-- What is left of the tokens, and what is known of anchors and tag handles. -/
structure Composer where
  tokens : List Token
  handles : List (String × List UInt8)
  /-- The numbers of the anchors, each name once. -/
  anchors : List (String × Nat) := []
  /-- As in `Document`. -/
  places : List (Nat × Nat) := []
  anchored : List (Nat × Node) := []

/-- A step in reading tokens, which may find that they are no document. -/
abbrev Compose (α : Type) := StateT Composer Option α

namespace Composer

def peek : Compose (Option Token) := do return (← get).tokens.head?

def skip : Compose Unit := modify fun c => { c with tokens := c.tokens.drop 1 }

def accept (token : Token) : Compose Bool := do
  if (← peek) == some token then
    skip
    return true
  else return false

def atAny (tokens : List Token) : Compose Bool := do
  return (← peek).any tokens.contains

def resolveTag (handle : String) (suffix : List UInt8) : Compose (List UInt8) := do
  if handle.isEmpty then return suffix
  match (← get).handles.lookup handle with
  | some expansion => return expansion ++ suffix
  | none => failure

/-- The anchor and the tag in front of a node, in either order. -/
def properties :
    Nat → Option String → Option (List UInt8) → Compose (Option String × Option (List UInt8))
  | 0, anchor, tag => return (anchor, tag)
  | fuel + 1, anchor, tag => do
    match ← peek with
    | some (.anchor name) =>
      if anchor.isSome then return (anchor, tag)
      else
        skip
        properties fuel (some name) tag
    | some (.tag handle suffix) =>
      if tag.isSome then return (anchor, tag)
      else
        skip
        properties fuel anchor (some (← resolveTag handle suffix))
    | _ => return (anchor, tag)

/-- Declare an anchor for the node that comes next, and give the place of the node. -/
def declare (name : String) : Compose Nat := do
  let number := (← get).anchors.length
  let place := (← get).places.length
  modify fun c =>
    { c with
      anchors := (name, number) :: c.anchors.filter (·.1 != name)
      places := (number, place) :: c.places }
  return place

def coreType (tag : List UInt8) : CoreType :=
  let named := [("tag:yaml.org,2002:bool", CoreType.bool), ("tag:yaml.org,2002:int", .int),
    ("tag:yaml.org,2002:float", .float), ("tag:yaml.org,2002:null", .null)].find?
      (Text.encodeUtf8 ·.1 == tag)
  (named.map (·.2)).getD .other

/-- The name in a tag of the document's own, after its exclamation mark. The mark alone is a name
too. -/
def ownName? (name : List UInt8) : Option String :=
  if name.isEmpty then some "!" else (Text.decodeUtf8 name).toOption.map String.ofList

/-- A node with the tag in front of it. A tag of the document's own starts with an exclamation
mark, and is passed over if it is no text; any other one gives its type to a scalar. -/
def applyTag (tag : List UInt8) (node : Node) : Node :=
  if tag.head? == some 0x21 then
    match ownName? (tag.drop 1) with
    | some name => .tagged name node
    | none => node
  else
    match node with
    | .scalar (.text content style _) => .scalar (.text content style (some (coreType tag)))
    | _ => node

mutual

/-- A node. Block collections are nodes only where `block` says so, and a list without a deeper
indentation of its own only as the value of a mapping (`indentless`). `fuel` bounds the number of
steps. -/
def node : Nat → Bool → Bool → Compose Node
  | 0, _, _ => failure
  | fuel + 1, block, indentless => do
    match ← peek with
    | some (.aliasOf name) =>
      skip
      match (← get).anchors.lookup name with
      | some number => return .aliasOf number
      | none => failure
    | _ =>
      let (anchor, tag) ← properties 2 none none
      let place ← anchor.mapM declare
      let plain ← content fuel block indentless (anchor.isSome || tag.isSome)
      let result := match tag with
        | some tag => applyTag tag plain
        | none => plain
      match place with
      | some place => modify fun c => { c with anchored := (place, result) :: c.anchored }
      | none => pure ()
      return result

/-- A node after its anchor and tag; only after one of them may it be left out. -/
def content : Nat → Bool → Bool → Bool → Compose Node
  | 0, _, _, _ => failure
  | fuel + 1, block, indentless, mayBeLeftOut => do
    match ← peek with
    | some (.scalar text style) =>
      skip
      return .scalar (.text text style none)
    | some .flowSequenceStart =>
      skip
      return .list (← flowItems fuel true)
    | some .flowMappingStart =>
      skip
      return .map (← flowEntries fuel true)
    | some .blockSequenceStart =>
      if block then
        skip
        return .list (← blockItems fuel)
      else if mayBeLeftOut then return .void
      else failure
    | some .blockMappingStart =>
      if block then
        skip
        return .map (← blockEntries fuel)
      else if mayBeLeftOut then return .void
      else failure
    | some .blockEntry =>
      if indentless then return .list (← indentlessItems fuel)
      else if mayBeLeftOut then return .void
      else failure
    | _ => if mayBeLeftOut then return .void else failure

def nodeUnless : Nat → List Token → Bool → Bool → Compose Node
  | 0, _, _, _ => failure
  | fuel + 1, stops, block, indentless => do
    if ← atAny stops then return .void
    else node fuel block indentless

def blockItems : Nat → Compose (List Node)
  | 0 => failure
  | fuel + 1 => do
    if ← accept .blockEntry then
      let item ← nodeUnless fuel [.blockEntry, .blockEnd] true false
      return item :: (← blockItems fuel)
    else if ← accept .blockEnd then return []
    else failure

def indentlessItems : Nat → Compose (List Node)
  | 0 => failure
  | fuel + 1 => do
    if ← accept .blockEntry then
      let item ← nodeUnless fuel [.blockEntry, .key, .value, .blockEnd] true false
      return item :: (← indentlessItems fuel)
    else return []

def blockEntries : Nat → Compose (List (Node × Node))
  | 0 => failure
  | fuel + 1 => do
    if ← accept .key then
      let key ← nodeUnless fuel [.key, .value, .blockEnd] true true
      let value ←
        if ← accept .value then nodeUnless fuel [.key, .value, .blockEnd] true true
        else pure .void
      return (key, value) :: (← blockEntries fuel)
    else if ← accept .blockEnd then return []
    else failure

/-- The items of a list in brackets. An item with a key is a mapping of one entry; a key that is
left out there takes the token after it along. -/
def flowItems : Nat → Bool → Compose (List Node)
  | 0, _ => failure
  | fuel + 1, first => do
    if ← accept .flowSequenceEnd then return []
    let separated ← if first then pure true else accept .flowEntry
    if !separated then failure
    if ← accept .flowSequenceEnd then return []
    if ← accept .key then
      let key ←
        if ← atAny [.value, .flowEntry, .flowSequenceEnd] then
          skip
          pure .void
        else node fuel false false
      let value ←
        if ← accept .value then nodeUnless fuel [.flowEntry, .flowSequenceEnd] false false
        else pure .void
      return .map [(key, value)] :: (← flowItems fuel false)
    else
      let item ← node fuel false false
      return item :: (← flowItems fuel false)

def flowEntries : Nat → Bool → Compose (List (Node × Node))
  | 0, _ => failure
  | fuel + 1, first => do
    if ← accept .flowMappingEnd then return []
    let separated ← if first then pure true else accept .flowEntry
    if !separated then failure
    if ← accept .flowMappingEnd then return []
    if ← accept .key then
      let key ← nodeUnless fuel [.value, .flowEntry, .flowMappingEnd] false false
      let value ←
        if ← accept .value then nodeUnless fuel [.flowEntry, .flowMappingEnd] false false
        else pure .void
      return (key, value) :: (← flowEntries fuel false)
    else
      let key ← node fuel false false
      return (key, .void) :: (← flowEntries fuel false)

end

def isDirective : Token → Bool
  | .versionDirective _ _ => true
  | .tagDirective _ _ => true
  | _ => false

def defaultHandles : List (String × List UInt8) :=
  [("!", Text.encodeUtf8 "!"), ("!!", Text.encodeUtf8 "tag:yaml.org,2002:")]

/-- The tag handles that directives declare. Neither the version nor a handle may be declared
twice, and the version has to be 1.1 or 1.2. -/
def declaredHandles :
    Bool → List (String × List UInt8) → List Token → Option (List (String × List UInt8))
  | _, handles, [] => some handles
  | versioned, handles, .versionDirective major minor :: rest =>
    if versioned || major != 1 || !(minor == 1 || minor == 2) then none
    else declaredHandles true handles rest
  | versioned, handles, .tagDirective handle expansion :: rest =>
    if (handles.lookup handle).isSome then none
    else declaredHandles versioned ((handle, expansion) :: handles) rest
  | versioned, handles, _ :: rest => declaredHandles versioned handles rest

def rootNode (fuel : Nat) : Compose Node := do
  let root ←
    if ← accept .documentStart then
      match ← peek with
      | none => pure .void
      | some token =>
        if isDirective token then pure .void
        else nodeUnless fuel [.documentStart, .documentEnd] true false
    else node fuel true false
  modify fun c => { c with tokens := c.tokens.dropWhile (· == .documentEnd) }
  match ← peek with
  | none => return root
  | some _ => failure

def ofTokens? (tokens : List Token) : Option Document := do
  let directives := tokens.takeWhile isDirective
  let rest := tokens.dropWhile isDirective
  let declared ← declaredHandles false [] directives
  if rest.isEmpty && directives.isEmpty then return { root := .void }
  else if !directives.isEmpty && rest.head? != some .documentStart then none
  else
    let start : Composer := { tokens := rest, handles := declared ++ defaultHandles }
    let (root, done) ← (rootNode (4 * tokens.length + 8)).run start
    return { root, places := done.places, anchored := done.anchored }

end Composer

end ApiCatalog.Yaml
