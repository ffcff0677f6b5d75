/-
# Nodes

A document is a tree of scalars, sequences and mappings, written as tokens.  A node may have an
anchor, and an alias stands for the node of an anchor that has come before it; so an alias may
stand inside the node that it stands for.

Anchors are known by numbers.  An anchor takes the count of names that have come before it, and an
alias the number that its name has when it comes; it stands for the last node that has this number.
Names that are given once only are so told apart.
-/
import SchemaMock.Yaml.Token

namespace SchemaMock.Yaml

/-! ## 1. The tree -/

/-- A node of a document. -/
inductive Node where
  /-- The node of the anchor with a number. -/
  | alias (number : Nat)
  | scalar (tag : Option String) (scalar : Scalar)
  | seq (tag : Option String) (items : List Node)
  | map (tag : Option String) (entries : List (Node × Node))
  deriving Inhabited

mutual
/-- The number of marks that a tree takes when it is written out: two for a collection. -/
def Node.size : Node → Nat
  | .alias _ => 1
  | .scalar _ _ => 1
  | .seq _ items => 2 + Node.sizeOfItems items
  | .map _ entries => 2 + Node.sizeOfEntries entries

/-- The sizes of some nodes. -/
def Node.sizeOfItems : List Node → Nat
  | [] => 0
  | item :: rest => item.size + Node.sizeOfItems rest

/-- The sizes of the entries of a mapping. -/
def Node.sizeOfEntries : List (Node × Node) → Nat
  | [] => 0
  | (key, value) :: rest => key.size + value.size + Node.sizeOfEntries rest
end

/-- A document: its root and the nodes with a number, the last one first. -/
structure Document where
  root : Node
  anchored : List (Nat × Node)

/-- The node of an alias: never an alias itself. -/
def Document.node? (d : Document) (number : Nat) : Option Node := d.anchored.lookup number

/-! ## 2. Reading -/

/-- What has been read of a document: the tokens that are left, the numbers of the names that have
come, the nodes with a number, and the handles of tags. -/
structure NodeReading where
  tokens : List Token
  numbers : List (String × Nat)
  anchored : List (Nat × Node)
  handles : List (String × String)

/-- A reading step. -/
abbrev ReadNode (α : Type) := StateT NodeReading Option α

namespace ReadNode

/-- The next token. -/
def peek : ReadNode (Option Token) := do return (← get).tokens.head?

/-- Passes over a token. -/
def advance : ReadNode Unit := modify fun r => { r with tokens := r.tokens.drop 1 }

/-- Whether the next token is `t`, which is then passed over. -/
def accept (t : Token) : ReadNode Bool := do
  if (← peek) = some t then
    advance
    return true
  else return false

/-- Passes over a token that must come. -/
def expect (t : Token) : ReadNode Unit := do
  if ← accept t then pure () else failure

/-- The scalar of an empty place. -/
def emptyNode (tag : Option String) : Node := .scalar tag ⟨"", .plain⟩

/-- The number for an anchor that begins here. -/
def newNumber (name : String) : ReadNode Nat := do
  let r ← get
  let number := r.numbers.length
  let others := r.numbers.map fun e => if e.1 = name then (name, number) else e
  let known := (r.numbers.lookup name).isSome
  set { r with numbers := if known then others else (name, number) :: r.numbers }
  return number

/-- The number of an alias. -/
def knownNumber (name : String) : ReadNode Nat := do
  match (← get).numbers.lookup name with
  | some number => return number
  | none => failure

/-- A node under its number, if it has one. -/
def register (number : Option Nat) (node : Node) : ReadNode Node := do
  match number with
  | some number => modify fun r => { r with anchored := (number, node) :: r.anchored }
  | none => pure ()
  return node

/-- The handles that need not be told. -/
def commonHandles : List (String × String) := [("!", "!"), ("!!", "tag:yaml.org,2002:")]

/-- The tag that a handle and a suffix make. -/
def wholeTag (handle suffix : String) : ReadNode String := do
  if handle.isEmpty then return suffix
  else
    match ((← get).handles ++ commonHandles).lookup handle with
    | some front => return front ++ suffix
    | none => failure

/-- The anchor and the tag before a node, in either order. -/
def properties : ReadNode (Option Nat × Option String) := do
  match ← peek with
  | some (.anchor name) =>
    advance
    let number ← newNumber name
    match ← peek with
    | some (.tag handle suffix) =>
      advance
      return (some number, some (← wholeTag handle suffix))
    | _ => return (some number, none)
  | some (.tag handle suffix) =>
    advance
    match ← peek with
    | some (.anchor name) =>
      advance
      let number ← newNumber name
      return (some number, some (← wholeTag handle suffix))
    | _ => return (none, some (← wholeTag handle suffix))
  | _ => return (none, none)

/-- Whether the next token is one of some; the end of the tokens is none. -/
def nextIn (tokens : List Token) : ReadNode Bool := do return (← peek).any tokens.contains

mutual
/-- A node.  `block` allows collections without brackets, and `bare` items without an indentation of
their own, as they may stand in a mapping. -/
def node : (fuel : Nat) → (block bare : Bool) → ReadNode Node
  | 0, _, _ => failure
  | fuel + 1, block, bare => do
    match ← peek with
    | some (.alias name) =>
      advance
      return .alias (← knownNumber name)
    | _ =>
      let (number, tag) ← properties
      match ← peek with
      | some .item =>
        if bare then register number (.seq tag (← bareItems fuel))
        else if number.isSome || tag.isSome then register number (emptyNode tag)
        else failure
      | some (.scalar scalar) =>
        advance
        register number (.scalar (tag.filter (· ≠ "!")) scalar)
      | some .listOpen =>
        advance
        register number (.seq tag (← listItems fuel true))
      | some .braceOpen =>
        advance
        register number (.map tag (← braceEntries fuel true))
      | some .sequenceStart =>
        if block then
          advance
          register number (.seq tag (← blockItems fuel))
        else if number.isSome || tag.isSome then register number (emptyNode tag)
        else failure
      | some .mappingStart =>
        if block then
          advance
          register number (.map tag (← blockEntries fuel))
        else if number.isSome || tag.isSome then register number (emptyNode tag)
        else failure
      | _ =>
        if number.isSome || tag.isSome then register number (emptyNode tag)
        else failure

/-- A node, or an empty place before one of some tokens. -/
def nodeUnless : (fuel : Nat) → (stops : List Token) → (block bare : Bool) → ReadNode Node
  | 0, _, _, _ => failure
  | fuel + 1, stops, block, bare => do
    if ← nextIn stops then return emptyNode none else node fuel block bare

/-- The items of a sequence of its own indentation. -/
def blockItems : (fuel : Nat) → ReadNode (List Node)
  | 0 => failure
  | fuel + 1 => do
    if ← accept .item then
      let item ← nodeUnless fuel [.item, .blockEnd] true false
      return item :: (← blockItems fuel)
    else
      expect .blockEnd
      return []

/-- The items of a sequence that stands at the columns of the keys around it. -/
def bareItems : (fuel : Nat) → ReadNode (List Node)
  | 0 => failure
  | fuel + 1 => do
    if ← accept .item then
      let item ← nodeUnless fuel [.item, .key, .value, .blockEnd] true false
      return item :: (← bareItems fuel)
    else return []

/-- The entries of a mapping without brackets. -/
def blockEntries : (fuel : Nat) → ReadNode (List (Node × Node))
  | 0 => failure
  | fuel + 1 => do
    if ← accept .key then
      let key ← nodeUnless fuel [.key, .value, .blockEnd] true true
      let value ←
        if ← accept .value then nodeUnless fuel [.key, .value, .blockEnd] true true
        else pure (emptyNode none)
      return (key, value) :: (← blockEntries fuel)
    else
      expect .blockEnd
      return []

/-- The items of a sequence in brackets; an item with a colon is a mapping of one entry. -/
def listItems : (fuel : Nat) → (first : Bool) → ReadNode (List Node)
  | 0, _ => failure
  | fuel + 1, first => do
    if ← accept .listClose then return []
    else
      if !first then expect .comma
      if ← accept .listClose then return []
      else if ← accept .key then
        let key ← listKey fuel
        let value ←
          if ← accept .value then nodeUnless fuel [.comma, .listClose] false false
          else pure (emptyNode none)
        return .map none [(key, value)] :: (← listItems fuel false)
      else
        let item ← node fuel false false
        return item :: (← listItems fuel false)

/-- The key of a mapping in a sequence in brackets.  A key that is marked and empty takes the token
behind its mark with it. -/
def listKey : (fuel : Nat) → ReadNode Node
  | 0 => failure
  | fuel + 1 => do
    if ← nextIn [.value, .comma, .listClose] then
      advance
      return emptyNode none
    else node fuel false false

/-- The entries of a mapping in braces; an entry without a colon has an empty value. -/
def braceEntries : (fuel : Nat) → (first : Bool) → ReadNode (List (Node × Node))
  | 0, _ => failure
  | fuel + 1, first => do
    if ← accept .braceClose then return []
    else
      if !first then expect .comma
      if ← accept .braceClose then return []
      else if ← accept .key then
        let key ← nodeUnless fuel [.value, .comma, .braceClose] false false
        let value ←
          if ← accept .value then nodeUnless fuel [.comma, .braceClose] false false
          else pure (emptyNode none)
        return (key, value) :: (← braceEntries fuel false)
      else
        let key ← node fuel false false
        return (key, emptyNode none) :: (← braceEntries fuel false)
end

/-- The lines before a document: the version of the format, 1.1 or 1.2, which comes once at most,
and handles, each of them once at most. -/
def directives : (fuel : Nat) → (versioned : Bool) → ReadNode Unit
  | 0, _ => failure
  | fuel + 1, versioned => do
    match ← peek with
    | some (.version major minor) =>
      if versioned ∨ major ≠ 1 ∨ (minor ≠ 1 ∧ minor ≠ 2) then failure
      advance
      directives fuel true
    | some (.handle name front) =>
      if ((← get).handles.lookup name).isSome then failure
      advance
      modify fun r => { r with handles := (name, front) :: r.handles }
      directives fuel versioned
    | _ => return

/-- Whether there are lines before a document. -/
def isDirected : ReadNode Bool := do
  match ← peek with
  | some (.version _ _) => return true
  | some (.handle _ _) => return true
  | _ => return false

/-- The only document of some tokens; nothing if there are several.  A text without any token is a
document with an empty root. -/
def document (fuel : Nat) : ReadNode Document := do
  if (← peek).isNone then return ⟨emptyNode none, []⟩
  else
    let directed ← isDirected
    directives fuel false
    let started ← accept .documentStart
    if directed && !started then failure
    let root ←
      if started then
        if (← peek).isNone || (← nextIn [.documentStart, .documentEnd]) then
          pure (emptyNode none)
        else node fuel true false
      else node fuel true false
    modify fun r => { r with tokens := r.tokens.dropWhile (· = .documentEnd) }
    if (← peek).isNone then return ⟨root, (← get).anchored⟩ else failure

end ReadNode

/-- The document that a text holds. -/
def Document.ofText? (text : String) : Option Document := do
  let tokens ← tokens? text
  let (d, _) ← (ReadNode.document (3 * tokens.length + 3)).run ⟨tokens, [], [], []⟩
  some d

end SchemaMock.Yaml
