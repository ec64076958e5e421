import Backtest.Table
import Backtest.Yaml.Kind
import Backtest.Yaml.Token

/-!
# Nodes

A document as nodes: scalars, lists and maps, each of a kind. A node may stand in several places, even
inside itself, so nodes know one another by number.

* `Node`, `Graph`; `Draft`, a document that is being put together from tokens;
* `Draft.node`, the next node; `Graph.ofText`, the document of a text.
-/

namespace Backtest.Yaml

/-- What a node holds; nodes inside it are numbers. -/
inductive Content
  | scalar (text : String)
  | list (items : List Nat)
  | map (entries : List (Nat × Nat))

/-- A node. -/
structure Node where
  kind : Kind
  content : Content

/-- The nodes of a document; a text may hold none. -/
structure Graph where
  nodes : Array Node
  root : Option Nat

/-- A document that is being put together. -/
structure Draft where
  /-- The tokens that are left. -/
  rest : List Token
  /-- The fault behind the last token, if the text cannot be cut further. -/
  fault : Option Fault
  /-- What the handles of tags stand for. -/
  handles : Table String
  /-- The nodes that have names. -/
  anchors : Table Nat
  nodes : Array Node

/-- A step that puts a document together. -/
abbrev Compose := StateT Draft (Except Fault)

namespace Draft

/-- A text that is no document. -/
def fail {β : Type} : Compose β := throw (.yaml .malformed)

/-- The next token; nothing at the end of the text. -/
def peek : Compose (Option Token) := do
  let d ← get
  match d.rest, d.fault with
  | t :: _, _ => return some t
  | [], none => return none
  | [], some f => throw f

/-- Over the next token. -/
def advance : Compose Unit := modify fun d => { d with rest := d.rest.drop 1 }

/-- One more node, under a name if it has one. -/
def add (anchor : Option String) (n : Node) : Compose Nat := do
  let d ← get
  let i := d.nodes.size
  match anchor with
  | none => set { d with nodes := d.nodes.push n }
  | some name =>
    if d.anchors.has name then fail
    else set { d with nodes := d.nodes.push n, anchors := d.anchors.put name i }
  return i

/-- One more node that holds others, which are put together after it. -/
def addAround (anchor : Option String) (kind : Kind) (inside : Compose Content) : Compose Nat := do
  let i ← add anchor ⟨kind, .scalar ""⟩
  let content ← inside
  modify fun d => { d with nodes := d.nodes.setIfInBounds i ⟨kind, content⟩ }
  return i

/-- The empty scalar. -/
def empty : Compose Nat := add none ⟨.null, .scalar ""⟩

/-- The full text of a tag. -/
def fullTag : TagMark → Compose String
  | .full text => return text
  | .short handle suffix => do
    match (← get).handles.get? handle with
    | some start => return start ++ suffix
    | none => fail

/-- The tag in front as it is written, if there is one. -/
def tagMark? : Compose (Option TagMark) := do
  match ← peek with
  | some (.tag t) =>
    advance
    return some t
  | _ => return none

/-- The anchor in front, if there is one. -/
def anchor? : Compose (Option String) := do
  match ← peek with
  | some (.anchor name) =>
    advance
    return some name
  | _ => return none

/-- The anchor and the tag in front, in any order. What the tag stands for is looked up when both have
been read. -/
def marks : Compose (Option String × Option String) := do
  match ← anchor? with
  | some name => return (some name, ← (← tagMark?).mapM fullTag)
  | none =>
    match ← tagMark? with
    | some tag =>
      let anchor ← anchor?
      return (anchor, some (← fullTag tag))
    | none => return (none, none)

/-- The tag that leaves the kind to the form of a node. -/
def openTag : String := "!"

/-- The kind of a scalar. -/
def scalarKind (tag : Option String) (text : String) (isPlain : Bool) : Kind :=
  match tag with
  | some t => if t == openTag then .ofPlain text else .ofTag t
  | none => if isPlain then .ofPlain text else .text

/-- The kind of a collection. -/
def collectionKind (tag : Option String) (usual : Kind) : Kind :=
  match tag with
  | some t => if t == openTag then usual else .ofTag t
  | none => usual

/-- The map of one entry. -/
def single (entry : Compose (Nat × Nat)) : Compose Nat :=
  addAround none .map do return .map [← entry]

mutual

/-- The next node. In a block, collections may be blocks too; as part of a map, a list need not stand
further in. -/
def node : Nat → Bool → Bool → Compose Nat
  | 0, _, _ => fail
  | fuel + 1, block, indentless => do
    match ← peek with
    | some (.alias name) =>
      advance
      match (← get).anchors.get? name with
      | some i => return i
      | none => fail
    | _ =>
      let (anchor, tag) ← marks
      let list (items : Compose (List Nat)) : Compose Nat :=
        addAround anchor (collectionKind tag .list) (do return .list (← items))
      let map (entries : Compose (List (Nat × Nat))) : Compose Nat :=
        addAround anchor (collectionKind tag .map) (do return .map (← entries))
      let bare : Compose Nat :=
        if anchor.isSome || tag.isSome then add anchor ⟨scalarKind tag "" true, .scalar ""⟩ else fail
      match ← peek with
      | some .item => if indentless then list (indentlessItems fuel) else bare
      | some (.scalar text isPlain) =>
        advance
        add anchor ⟨scalarKind tag text isPlain, .scalar text⟩
      | some .flowList =>
        advance
        list (flowItems fuel true)
      | some .flowMap =>
        advance
        map (flowEntries fuel true)
      | some .blockList =>
        if block then
          advance
          list (blockItems fuel)
        else bare
      | some .blockMap =>
        if block then
          advance
          map (blockEntries fuel)
        else bare
      | _ => bare

/-- The items of a block that has an end. -/
def blockItems : Nat → Compose (List Nat)
  | 0 => fail
  | fuel + 1 => do
    match ← peek with
    | some .item =>
      advance
      let i ← match ← peek with
        | some .item | some .blockEnd => empty
        | _ => node fuel true false
      return i :: (← blockItems fuel)
    | some .blockEnd =>
      advance
      return []
    | _ => fail

/-- The items of a block that stands no further in than its map. -/
def indentlessItems : Nat → Compose (List Nat)
  | 0 => fail
  | fuel + 1 => do
    match ← peek with
    | some .item =>
      advance
      let i ← match ← peek with
        | some .item | some .key | some .value | some .blockEnd => empty
        | _ => node fuel true false
      return i :: (← indentlessItems fuel)
    | _ => return []

/-- A key of a block or its value, behind its sign. -/
def blockPart : Nat → Compose Nat
  | 0 => fail
  | fuel + 1 => do
    match ← peek with
    | some .key | some .value | some .blockEnd => empty
    | _ => node fuel true true

/-- The entries of a block. -/
def blockEntries : Nat → Compose (List (Nat × Nat))
  | 0 => fail
  | fuel + 1 => do
    match ← peek with
    | some .key =>
      advance
      let k ← blockPart fuel
      let v ← match ← peek with
        | some .value =>
          advance
          blockPart fuel
        | _ => empty
      return (k, v) :: (← blockEntries fuel)
    | some .blockEnd =>
      advance
      return []
    | _ => fail

/-- The value of an entry between brackets, if its sign is there. -/
def flowValue : Nat → Compose Nat
  | 0 => fail
  | fuel + 1 => do
    match ← peek with
    | some .value =>
      advance
      match ← peek with
      | some .comma | some .flowListEnd | some .flowMapEnd => empty
      | _ => node fuel false false
    | _ => empty

/-- The entry between brackets of a key behind its sign. -/
def flowEntry : Nat → Compose (Nat × Nat)
  | 0 => fail
  | fuel + 1 => do
    let k ← match ← peek with
      | some .value | some .comma | some .flowListEnd | some .flowMapEnd => empty
      | _ => node fuel false false
    return (k, ← flowValue fuel)

/-- The items of a list between brackets. A key among them is a map of one entry. -/
def flowItems : Nat → Bool → Compose (List Nat)
  | 0, _ => fail
  | fuel + 1, first => do
    match ← peek with
    | some .flowListEnd =>
      advance
      return []
    | t =>
      match t, first with
      | _, true => pure ()
      | some .comma, false => advance
      | _, false => fail
      match ← peek with
      | some .flowListEnd =>
        advance
        return []
      | some .key =>
        advance
        let i ← single (flowEntry fuel)
        return i :: (← flowItems fuel false)
      | _ =>
        let i ← node fuel false false
        return i :: (← flowItems fuel false)

/-- The entries of a map between brackets. -/
def flowEntries : Nat → Bool → Compose (List (Nat × Nat))
  | 0, _ => fail
  | fuel + 1, first => do
    match ← peek with
    | some .flowMapEnd =>
      advance
      return []
    | t =>
      match t, first with
      | _, true => pure ()
      | some .comma, false => advance
      | _, false => fail
      match ← peek with
      | some .flowMapEnd =>
        advance
        return []
      | some .key =>
        advance
        let e ← flowEntry fuel
        return e :: (← flowEntries fuel false)
      | _ =>
        let k ← node fuel false false
        let v ← empty
        return (k, v) :: (← flowEntries fuel false)

end

/-- What the handles stand for in every document. -/
def usualHandles : Table String := [("!", "!"), ("!!", languageTag)]

/-- The directives in front, and the handles that they give; `versioned` says whether one gave the
version. `fuel` bounds them. -/
def directives : Nat → Bool → Table String → Compose (Table String)
  | 0, _, _ => fail
  | fuel + 1, versioned, handles => do
    match ← peek with
    | some (.directive d) =>
      advance
      match d with
      | .version major =>
        if versioned || major != 1 then fail else directives fuel true handles
      | .handle handle text =>
        if handles.has handle then fail else directives fuel versioned (handles.put handle text)
      | .other => directives fuel versioned handles
    | _ => return handles

/-- Over the marks that end documents; `fuel` bounds them. -/
def skipEnds : Nat → Compose Unit
  | 0 => fail
  | fuel + 1 => do
    match ← peek with
    | some .documentEnd =>
      advance
      skipEnds fuel
    | _ => return

/-- The document of a text: at most one. -/
def document (fuel : Nat) : Compose (Option Nat) := do
  let explicit : Compose (Option Nat) := do
    let given ← directives fuel false []
    match ← peek with
    | some .documentStart =>
      advance
      modify fun d => { d with handles := usualHandles.merge given }
      match ← peek with
      | none | some (.directive _) | some .documentStart | some .documentEnd => some <$> empty
      | _ => some <$> node fuel true false
    | _ => fail
  let root ← match ← peek with
    | none => return none
    | some (.directive _) | some .documentStart => explicit
    | _ => some <$> node fuel true false
  skipEnds fuel
  match ← peek with
  | none => return root
  | _ =>
    let _ ← directives fuel false []
    fail

end Draft

/-- The document of a text. -/
def Graph.ofText (cs : List Char) : Except Fault Graph :=
  let (tokens, fault) := Lexer.run cs
  let draft : Draft :=
    { rest := tokens.toList, fault, handles := Draft.usualHandles, anchors := [], nodes := #[] }
  (Draft.document (3 * tokens.size + 8) draft).map fun (root, d) => { nodes := d.nodes, root }

end Backtest.Yaml
