import JsonQuery.Yaml.Token

/-!
The tree of a YAML document: scalars, sequences and mappings, each with the tag it was
given, if any. A reference stands for the node that was given its name, which is kept beside
the tree, so that a node that is referred to many times is there once.
-/

namespace JsonQuery.Yaml

/-- A node of a document. -/
inductive Node where
  | scalar (tag : Option String) (isPlain : Bool) (text : String)
  | sequence (tag : Option String) (items : List Node)
  | mapping (tag : Option String) (entries : List (Node × Node))
  | reference (name : String)

/-- The node where nothing is written. -/
def Node.empty : Node := .scalar none true ""

/-- A document: its tree, the nodes with a name, and a bound on how deep nodes lie within each
other when references are followed. -/
structure Document where
  root : Node
  names : List (String × Node)
  bound : Nat

/-- How far the reading of a document has come: the tokens ahead, what handles of tags stand
for, and the names of nodes, with the nodes that are complete. -/
structure Composing where
  tokens : List Token
  handles : List (String × String)
  names : List (String × Option Node)

/-- The reading of nodes, none when the document is malformed. -/
abbrev Compose := StateT Composing Option

namespace Compose

/-- A malformed document. -/
def refuse {α : Type} : Compose α := fun _ => none

/-- The next token, none at the end. -/
def next : Compose (Option Token) := return (← get).tokens.head?

/-- Goes over the next token. -/
def drop : Compose Unit := modify fun s => { s with tokens := s.tokens.tail }

/-- Goes over the next token if it is the given one, and says whether it was. -/
def accept (t : Token) : Compose Bool := do
  if (← next) == some t then
    drop
    return true
  else return false

/-- Whether the next token is one of the given ones. -/
def isNext (ts : List Token) : Compose Bool := return (← next).any ts.contains

/-- A reference to the node with a name. Data are a tree, so within itself a node stands for
nothing. -/
def referTo (name : String) : Compose Node := do
  match (← get).names.lookup name with
  | some (some _) => return .reference name
  | some none => return .sequence none []
  | none => refuse

/-- Gives a name away, which must not be taken. -/
def reserve (name : String) : Compose Unit := do
  if ((← get).names.lookup name).isSome then refuse
  else modify fun s => { s with names := (name, none) :: s.names }

/-- Completes the node with a name. -/
def complete (name : String) (node : Node) : Compose Unit :=
  modify fun s => { s with names := (name, some node) :: s.names }

/-- The text of a tag. -/
def tagText (handle : Option String) (suffix : String) : Compose String := do
  match handle with
  | none => return suffix
  | some h =>
      match (← get).handles.lookup h with
      | some start => return start ++ suffix
      | none => refuse

/-- The name of a node in front of it, if there is one. -/
def anchorAhead : Compose (Option String) := do
  match ← next with
  | some (.anchor name) => drop; return some name
  | _ => return none

/-- The tag of a node in front of it, if there is one. -/
def tagAhead : Compose (Option String) := do
  match ← next with
  | some (.tag handle suffix) => drop; return some (← tagText handle suffix)
  | _ => return none

/-- The name and the tag of a node, in either order. -/
def properties : Compose (Option String × Option String) := do
  match ← anchorAhead with
  | some name => return (some name, ← tagAhead)
  | none =>
      match ← tagAhead with
      | some tag => return (← anchorAhead, some tag)
      | none => return (none, none)

/-- The tag that says nothing, which makes any scalar plain. -/
def noTag : String := "!"

/-- A node under its name, if it has one. -/
def finish (name? : Option String) (made : Node) : Compose Node := do
  if let some name := name? then complete name made
  return made

mutual

/-- A node. In block context it may be a block collection; as the key or the value of a
mapping it may be a sequence that is not indented. -/
def node : Nat → Bool → Bool → Compose Node
  | 0, _, _ => refuse
  | fuel + 1, block, unindented => do
      match ← next with
      | some (.reference name) => drop; referTo name
      | _ =>
          let (name?, tag?) ← properties
          if let some name := name? then reserve name
          let tag := tag?.filter (· != noTag)
          let made ←
            if unindented && (← isNext [.blockEntry]) then
              pure (Node.sequence tag (← unindentedItems fuel))
            else match ← next with
              | some (.scalar isPlain text) =>
                  drop
                  pure (Node.scalar tag (isPlain || tag? == some noTag) text)
              | some .flowSequenceStart =>
                  drop
                  pure (.sequence tag (← flowItems fuel true))
              | some .flowMappingStart =>
                  drop
                  pure (.mapping tag (← flowEntries fuel true))
              | some .sequenceStart =>
                  if !block then refuse
                  drop
                  pure (.sequence tag (← blockItems fuel))
              | some .mappingStart =>
                  if !block then refuse
                  drop
                  pure (.mapping tag (← blockEntries fuel))
              | _ => if name?.isNone && tag?.isNone then refuse else pure (.scalar tag true "")
          finish name? made

/-- A node, or the empty one if one of the given tokens follows. -/
def nodeUnless : Nat → List Token → Bool → Bool → Compose Node
  | 0, _, _, _ => refuse
  | fuel + 1, ends, block, unindented => do
      if ← isNext ends then return .empty else node fuel block unindented

/-- The items of a block sequence up to its end. -/
def blockItems : Nat → Compose (List Node)
  | 0 => refuse
  | fuel + 1 => do
      if ← accept .blockEntry then
        let item ← nodeUnless fuel [.blockEntry, .blockEnd] true false
        return item :: (← blockItems fuel)
      else if ← accept .blockEnd then return []
      else refuse

/-- The items of a sequence that is not indented. -/
def unindentedItems : Nat → Compose (List Node)
  | 0 => refuse
  | fuel + 1 => do
      if ← accept .blockEntry then
        let item ← nodeUnless fuel [.blockEntry, .key, .value, .blockEnd] true false
        return item :: (← unindentedItems fuel)
      else return []

/-- The entries of a block mapping up to its end. -/
def blockEntries : Nat → Compose (List (Node × Node))
  | 0 => refuse
  | fuel + 1 => do
      let ends := [Token.key, .value, .blockEnd]
      if ← accept .key then
        let key ← nodeUnless fuel ends true true
        let item ←
          if ← accept .value then nodeUnless fuel ends true true else pure .empty
        return (key, item) :: (← blockEntries fuel)
      else if ← accept .blockEnd then return []
      else refuse

/-- The items of a flow sequence up to its end. -/
def flowItems : Nat → Bool → Compose (List Node)
  | 0, _ => refuse
  | fuel + 1, first => do
      if ← accept .flowSequenceEnd then return []
      if !first then
        if !(← accept .flowEntry) then refuse
      if ← accept .key then
        let key ← nodeUnless fuel [.value, .flowEntry, .flowSequenceEnd] false false
        let item ←
          if ← accept .value then nodeUnless fuel [.flowEntry, .flowSequenceEnd] false false
          else pure .empty
        return .mapping none [(key, item)] :: (← flowItems fuel false)
      else if ← accept .flowSequenceEnd then return []
      else
        let item ← node fuel false false
        return item :: (← flowItems fuel false)

/-- The entries of a flow mapping up to its end. -/
def flowEntries : Nat → Bool → Compose (List (Node × Node))
  | 0, _ => refuse
  | fuel + 1, first => do
      if ← accept .flowMappingEnd then return []
      if !first then
        if !(← accept .flowEntry) then refuse
      if ← accept .key then
        let key ← nodeUnless fuel [.value, .flowEntry, .flowMappingEnd] false false
        let item ←
          if ← accept .value then nodeUnless fuel [.flowEntry, .flowMappingEnd] false false
          else pure .empty
        return (key, item) :: (← flowEntries fuel false)
      else if ← accept .flowMappingEnd then return []
      else
        let key ← node fuel false false
        return (key, .empty) :: (← flowEntries fuel false)

end

/-- Whether the next token is one of a directive. -/
def isDirectiveNext : Compose Bool := do
  match ← next with
  | some (.version _) | some (.tagPrefix ..) | some .otherDirective => return true
  | _ => return false

/-- Reads the directives in front of a document. They say what handles of tags stand for,
each at most once, and that the document is of the first version. -/
def directives : Nat → Bool → List (String × String) → Compose (List (String × String))
  | 0, _, _ => refuse
  | fuel + 1, versioned, handles => do
      match ← next with
      | some (.version major) =>
          if versioned || major != 1 then refuse
          drop
          directives fuel true handles
      | some (.tagPrefix handle start) =>
          if (handles.lookup handle).isSome then refuse
          drop
          directives fuel versioned ((handle, start) :: handles)
      | some .otherDirective =>
          drop
          directives fuel versioned handles
      | _ => return handles

/-- What handles of tags stand for when nothing is said about them. -/
def usualHandles : List (String × String) := [("!", "!"), ("!!", "tag:yaml.org,2002:")]

/-- Goes over marks that end a document. -/
def dropEnds : Nat → Compose Unit
  | 0 => pure ()
  | fuel + 1 => do if ← accept .documentEnd then dropEnds fuel

/-- The only document of a text, none if the text is empty. -/
def document (fuel : Nat) : Compose (Option Node) := do
  let marked := (← isDirectiveNext) || (← isNext [.documentStart])
  let root ←
    if (← next).isNone then return none
    else if !marked then node fuel true false
    else
      let handles ← directives fuel false []
      modify fun s => { s with handles := handles ++ usualHandles }
      if !(← accept .documentStart) then refuse
      if (← next).isNone || (← isDirectiveNext) then pure .empty
      else nodeUnless fuel [.documentStart, .documentEnd] true false
  dropEnds fuel
  if (← next).isSome then refuse else return some root

end Compose

/-- The only document of some tokens, none inside if there is no document and none at all if
the document is malformed. Every collection takes a token of its own and references lead to
nodes that were complete before, so there are no more levels than tokens, and the scalars. -/
def compose? (tokens : List Token) : Option (Option Document) := do
  let fuel := 4 * tokens.length + 8
  let (root?, s) ← Compose.document fuel ⟨tokens, Compose.usualHandles, []⟩
  return root?.map fun root =>
    ⟨root, s.names.filterMap fun (name, node?) => node?.map fun node => (name, node),
      tokens.length + 2⟩

end JsonQuery.Yaml
