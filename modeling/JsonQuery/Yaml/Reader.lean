import JsonQuery.Yaml.Node
import JsonQuery.Yaml.Resolve

/-!
Reading the data of a YAML text. Mappings may be merged into others, of two equal keys the
last one counts, and a key has to be a scalar. A document is judged from its root outwards,
everything at one depth before anything below it, and the first fault met is the one that
is told.
-/

namespace JsonQuery.Yaml

/-- A node as far as it is made at once: a scalar is complete, and everything else waits for
its parts. -/
inductive Made where
  | complete (s : YamlScalar)
  | waiting

namespace Document

/-- The node that a node stands for. -/
def target (d : Document) : Node → Node
  | .reference name => (d.names.lookup name).getD .empty
  | node => node

/-- The kind that a tag says, or the usual kind where there is no tag. -/
def kindUnder (tag : Option String) (usual : NodeKind) : Except Fault NodeKind :=
  match tag with
  | none => .ok usual
  | some text =>
      match kindOfTag? text with
      | some kind => .ok kind
      | none => .error .yaml

/-- The kind of what a node stands for. -/
def kindOf (d : Document) (node : Node) : Except Fault NodeKind :=
  match d.target node with
  | .scalar tag isPlain text =>
      kindUnder tag (.scalar (if isPlain then kindOfPlain text.toList else .text))
  | .sequence tag _ => kindUnder tag .sequence
  | .mapping tag _ => kindUnder tag .mapping
  | .reference _ => .error .yaml

/-- Whether a node is of a scalar kind. -/
def isKind (d : Document) (kind : ScalarKind) (node : Node) : Bool :=
  (d.kindOf node).toOption == some (.scalar kind)

/-- The text of a scalar. That of a mapping is the text of its value as a whole. -/
def scalarText (d : Document) : Nat → Node → Except Fault String
  | 0, _ => .error .yaml
  | fuel + 1, node =>
      match d.target node with
      | .scalar _ _ text => .ok text
      | .mapping _ entries =>
          match entries.find? fun e => d.isKind .whole e.1 with
          | some (_, value) => d.scalarText fuel value
          | none => .error .yaml
      | _ => .error .yaml

/-- What is made of a node at once. -/
def make (d : Document) (node : Node) : Except Fault Made := do
  match ← d.kindOf node with
  | .scalar .merge | .scalar .whole => throw .yaml
  | .scalar kind => return .complete (← scalarOf kind (← d.scalarText d.bound node).toList)
  | _ => return .waiting

/-- The scalar that a node in the place of a key denotes. The sign for the value of a mapping
is a text there. -/
def key (d : Document) (node : Node) : Except Fault YamlScalar := do
  if d.isKind .whole node then return .value (.string (← d.scalarText d.bound node))
  match ← d.make node with
  | .complete s => return s
  | .waiting => throw .yaml

/-- The entries of a mapping with those that are merged into it in front. -/
def mergedEntries (d : Document) : Nat → List (Node × Node) →
    Except Fault (List (Node × Node))
  | 0, _ => .error .yaml
  | fuel + 1, entries => do
      let merged ← (entries.filter fun e => d.isKind .merge e.1).mapM fun e =>
        match d.target e.2 with
        | .mapping _ others => d.mergedEntries fuel others
        | .sequence _ items => do
            let parts ← items.mapM fun item =>
              match d.target item with
              | .mapping _ others => d.mergedEntries fuel others
              | _ => .error .yaml
            return parts.reverse.flatten
        | _ => .error .yaml
      return merged.flatten ++ entries.filter fun e => !d.isKind .merge e.1

/-- The entries of a node that has to be a mapping. -/
def entriesOf (d : Document) (node : Node) : Except Fault (List (Node × Node)) :=
  match d.target node with
  | .mapping _ entries => d.mergedEntries d.bound entries
  | _ => .error .yaml

/-- The items of a node that has to be a sequence. -/
def itemsOf (d : Document) (node : Node) : Except Fault (List Node) :=
  match d.target node with
  | .sequence _ items => .ok items
  | _ => .error .yaml

/-- The parts of a node that has to be a mapping of a single entry. -/
def pairOf (d : Document) (node : Node) : Except Fault (Node × Node) :=
  match d.target node with
  | .mapping _ [entry] => .ok entry
  | _ => .error .yaml

/-- Makes a node and answers it if it waits for parts that are written in its place. -/
def begin (d : Document) (node : Node) : Except Fault (List Node) := do
  match ← d.make node, node with
  | .complete _, _ | .waiting, .reference _ => return []
  | .waiting, _ => return [node]

/-- Makes the parts of a node that waits for them and answers those that wait in turn. -/
def judge (d : Document) (node : Node) : Except Fault (List Node) := do
  match ← d.kindOf node with
  | .scalar _ => return []
  | .sequence => return (← (← d.itemsOf node).mapM d.begin).flatten
  | .mapping | .set =>
      let waiting ← (← d.entriesOf node).mapM fun (k, v) => do
        let _ ← d.key k
        d.begin v
      return waiting.flatten
  | .pairs =>
      let waiting ← (← d.itemsOf node).mapM fun item => do
        let (k, v) ← d.pairOf item
        return (← d.begin k) ++ (← d.begin v)
      return waiting.flatten

/-- Judges nodes and everything below them, depth by depth. -/
def judgeAll (d : Document) : Nat → List Node → Except Fault Unit
  | 0, _ => .ok ()
  | fuel + 1, nodes => do
      if nodes.isEmpty then return ()
      else d.judgeAll fuel (← nodes.mapM d.judge).flatten

/-- Refuses a document in which anything is at fault. -/
def check (d : Document) : Except Fault Unit := do
  d.judgeAll d.bound (← d.begin d.root)

/-- The data of a node, below which nothing lies deeper than a bound. -/
def data (d : Document) : Nat → Node → Except Fault Yaml
  | 0, _ => .error .yaml
  | fuel + 1, node => do
      match ← d.kindOf node with
      | .scalar _ =>
          match ← d.make node with
          | .complete s => return .scalar s
          | .waiting => throw .yaml
      | .sequence => return .sequence (← (← d.itemsOf node).mapM (d.data fuel))
      | .mapping =>
          let made ← (← d.entriesOf node).mapM fun (k, v) => do
            return (← d.key k, ← d.data fuel v)
          return .mapping (made.foldl (fun entries (k, v) => Yaml.put entries k v) [])
      | .set => return .keySet (← (← d.entriesOf node).mapM fun (k, _) => d.key k)
      | .pairs => return .pairs (← (← d.itemsOf node).mapM fun item => do
          let (k, v) ← d.pairOf item
          return (← d.data fuel k, ← d.data fuel v))

/-- The data of a document. Of a mapping only the entries with a wanted name are kept. -/
def select (d : Document) (names : List String) : Except Fault Yaml := do
  match ← d.kindOf d.root with
  | .mapping =>
      let made ← (← d.entriesOf d.root).filterMapM fun (k, v) => do
        match (← d.key k).text? with
        | some name =>
            if names.contains name then
              return some (YamlScalar.value (.string name), ← d.data d.bound v)
            else return none
        | none => return none
      return .mapping (made.foldl (fun entries (k, v) => Yaml.put entries k v) [])
  | _ => d.data d.bound d.root

end Document

/-- Characters that a text may hold. -/
def isPermitted (c : Char) : Bool :=
  let code := c.toNat
  code == 9 || code == 10 || code == 13 || (0x20 ≤ code && code ≤ 0x7E) || code == 0x85 ||
    (0xA0 ≤ code && code != 0xFFFE && code != 0xFFFF)

/-- The text with every kind of line end written as a line feed. -/
def unifyLineEnds : List Char → List Char
  | [] => []
  | '\r' :: '\n' :: rest => '\n' :: unifyLineEnds rest
  | c :: rest => (if c == '\r' then '\n' else c) :: unifyLineEnds rest

/-- The data of a text under some names, if it is a mapping, and all of its data if it is
not. There are none if there is no document in it. -/
def read (names : List String) (text : String) : Except Fault Yaml := do
  let cs := unifyLineEnds text.toList
  if !cs.all isPermitted then throw .yaml
  match compose? (← tokenize cs) with
  | none => throw .yaml
  | some none => return .scalar (.value .null)
  | some (some d) =>
      d.check
      d.select names

end JsonQuery.Yaml
