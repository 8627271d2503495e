import JsonQuery.Yaml.Scalar

/-!
YAML text as tokens. Indentation becomes tokens that open and close collections, and what
turns out to be a key by the colon behind it gets the tokens of a key in front of it: the
place of everything that might be a key is kept until its line ends.
-/

namespace JsonQuery.Yaml

/-- A piece of YAML text that means something. -/
inductive Token where
  | version (major : Nat)
  | tagPrefix (handle start : String)
  | otherDirective
  | documentStart
  | documentEnd
  | sequenceStart
  | mappingStart
  | blockEnd
  | flowSequenceStart
  | flowSequenceEnd
  | flowMappingStart
  | flowMappingEnd
  | flowEntry
  | blockEntry
  | key
  | value
  | anchor (name : String)
  | reference (name : String)
  /-- A tag: the handle that is to be replaced, if there is one, and what follows it. -/
  | tag (handle : Option String) (suffix : String)
  | scalar (isPlain : Bool) (text : String)
  deriving DecidableEq, Repr

/-- Something that becomes a key if a colon follows it. -/
structure PossibleKey where
  /-- The number of tokens in front of it. -/
  place : Nat
  /-- Nothing else than a key can stand there. -/
  isRequired : Bool
  offset : Nat
  line : Nat
  column : Nat

/-- How far the reading has come. There is a possible key, or none, for the block context
and for each flow collection that is open, the innermost first. -/
structure Lexing where
  cursor : Cursor
  tokens : Array Token
  indent : Int
  outerIndents : List Int
  keys : List (Option PossibleKey)
  keyAllowed : Bool

/-- The reading of tokens. -/
abbrev Lex := StateT Lexing (Except Fault)

namespace Lex

/-- A malformed text. -/
def refuse {α : Type} : Lex α := throw .yaml

/-- Refuses the text unless a condition holds. -/
def require (condition : Bool) : Lex Unit := if condition then pure () else refuse

/-- Appends a token. -/
def emit (t : Token) : Lex Unit := modify fun s => { s with tokens := s.tokens.push t }

/-- Inserts a token at a place. -/
def emitAt (place : Nat) (t : Token) : Lex Unit :=
  modify fun s => { s with tokens := s.tokens.insertIdx! place t }

/-- Goes to a place. -/
def moveTo (k : Cursor) : Lex Unit := modify fun s => { s with cursor := k }

/-- Says whether a key may begin at the next token. -/
def allowKey (allowed : Bool) : Lex Unit := modify fun s => { s with keyAllowed := allowed }

/-- Whether a flow collection is open. -/
def inFlow : Lex Bool := return (← get).keys.length != 1

/-- Goes over blanks, comments and line breaks to the next token. In block context a new
line may begin with a key. -/
def toNextToken : Nat → Lex Unit
  | 0 => pure ()
  | fuel + 1 => do
      let k := (← get).cursor.skipSpaces
      let k := if k.next == some '#' then k.skipLine else k
      let (mark, after) := k.lineBreak
      if mark.isEmpty then moveTo k
      else
        moveTo after
        if !(← inFlow) then allowKey true
        toNextToken fuel

/-- Drops the possible keys whose line is over or which are too far behind. -/
def dropStaleKeys : Lex Unit := do
  let s ← get
  let stale (key : PossibleKey) : Bool :=
    key.line != s.cursor.line || key.offset + 1024 < s.cursor.offset
  require (!s.keys.any fun key? => key?.any fun key => stale key && key.isRequired)
  let kept := s.keys.map (Option.filter fun key => !stale key)
  set { s with keys := kept }

/-- Drops the possible key of the innermost context. -/
def dropKey : Lex Unit := do
  let s ← get
  match s.keys with
  | [] => pure ()
  | key? :: outer =>
      require (!key?.any PossibleKey.isRequired)
      set { s with keys := none :: outer }

/-- Keeps the place of the next token if it may be a key. -/
def keepKey : Lex Unit := do
  let s ← get
  if s.keyAllowed then
    dropKey
    let required := !(← inFlow) && s.indent == s.cursor.column
    let key : PossibleKey :=
      ⟨s.tokens.size, required, s.cursor.offset, s.cursor.line, s.cursor.column⟩
    modify fun s => { s with keys := some key :: s.keys.tail }

/-- Closes the block collections that are indented more than a column. -/
def closeBlocks (column : Int) : Lex Unit := do
  if !(← inFlow) then
    modify fun s => close s.outerIndents s
where
  close : List Int → Lexing → Lexing
    | [], s => s
    | outer :: others, s =>
        if column < s.indent then
          close others
            { s with tokens := s.tokens.push .blockEnd, indent := outer, outerIndents := others }
        else s

/-- Opens a block collection at a column, if it is indented more than the one around it. -/
def openBlock (column : Nat) : Lex Bool := do
  let s ← get
  if s.indent < column then
    set { s with indent := (column : Int), outerIndents := s.indent :: s.outerIndents }
    return true
  else return false

/-- Reads a token at the place. -/
def readWith (read : Cursor → Except Fault (Token × Cursor)) : Lex Unit := do
  let (t, after) ← read (← get).cursor
  moveTo after
  emit t

/-- Reads a token that may be a key. -/
def simpleToken (read : Cursor → Except Fault (Token × Cursor)) : Lex Unit := do
  keepKey
  allowKey false
  readWith read

/-- Reads an indicator of one character. -/
def indicator (t : Token) : Lex Unit := do
  moveTo (← get).cursor.step
  emit t

/-- Opens a flow collection, in which keys are allowed. -/
def openFlow (t : Token) : Lex Unit := do
  keepKey
  modify fun s => { s with keys := none :: s.keys, keyAllowed := true }
  indicator t

/-- Closes a flow collection. -/
def closeFlow (t : Token) : Lex Unit := do
  dropKey
  require (← inFlow)
  modify fun s => { s with keys := s.keys.tail, keyAllowed := false }
  indicator t

/-- Reads the comma of a flow collection. -/
def flowEntry : Lex Unit := do
  allowKey true
  dropKey
  indicator .flowEntry

/-- Reads the dash of an entry. In block context it may open a sequence. -/
def blockEntry : Lex Unit := do
  if !(← inFlow) then
    require (← get).keyAllowed
    if ← openBlock (← get).cursor.column then emit .sequenceStart
  allowKey true
  dropKey
  indicator .blockEntry

/-- Reads the question mark of a key. In block context it may open a mapping. -/
def explicitKey : Lex Unit := do
  let flow ← inFlow
  if !flow then
    require (← get).keyAllowed
    if ← openBlock (← get).cursor.column then emit .mappingStart
  allowKey (!flow)
  dropKey
  indicator .key

/-- Reads the colon of a value. What was a possible key becomes one. -/
def valueMark : Lex Unit := do
  let flow ← inFlow
  match (← get).keys.head?.join with
  | some key =>
      modify fun s => { s with keys := none :: s.keys.tail, keyAllowed := false }
      emitAt key.place .key
      if !flow then
        if ← openBlock key.column then emitAt key.place .mappingStart
  | none =>
      if !flow then
        require (← get).keyAllowed
        if ← openBlock (← get).cursor.column then emit .mappingStart
      allowKey (!flow)
      dropKey
  indicator .value

/-- Characters of names. -/
def isNameChar (c : Char) : Bool :=
  Text.isAsciiLetter c || Text.isAsciiDigit c || c == '-' || c == '_'

/-- The name of an anchor or a reference to one; the place given is that of its indicator. -/
def readName (token : String → Token) (k : Cursor) : Option (Token × Cursor) :=
  let name := k.step.ahead.takeWhile isNameChar
  let after := k.step.skip name.length
  let ended := isGap after.next || after.next.any "?:,]\x7d%@\x60".toList.contains
  if name.isEmpty || !ended then none else some (token (String.ofList name), after)

/-- Characters of tags. -/
def isTagChar (c : Char) : Bool :=
  Text.isAsciiLetter c || Text.isAsciiDigit c || "-;/?:@&=+$,_.!~*'()[]%".toList.contains c

/-- The bytes that escapes at the beginning of a text stand for, and the rest of it. -/
def tagEscapes : List Char → Option (List UInt8 × List Char)
  | '%' :: a :: b :: rest => do
      let high ← Text.hexDigitValue? a
      let low ← Text.hexDigitValue? b
      let (bytes, rest) ← tagEscapes rest
      return (UInt8.ofNat (16 * high + low) :: bytes, rest)
  | '%' :: _ => none
  | cs => some ([], cs)

/-- The text of a tag with its escapes undone. -/
def unescapeTag : Nat → List Char → Option (List Char)
  | 0, _ => none
  | _, [] => some []
  | fuel + 1, '%' :: cs => do
      let (bytes, rest) ← tagEscapes ('%' :: cs)
      return (← (Text.decodeUtf8 false bytes).mapM id) ++ (← unescapeTag fuel rest)
  | fuel + 1, c :: cs => do return c :: (← unescapeTag fuel cs)

/-- The text of a tag at a place and the place behind it. -/
def readTagText (k : Cursor) : Option (String × Cursor) := do
  let written := k.ahead.takeWhile isTagChar
  let text ← unescapeTag (written.length + 1) written
  if text.isEmpty then none else return (String.ofList text, k.skip written.length)

/-- The end of a line or of the text, or a space. -/
def endsTag (c? : Option Char) : Bool := endsLine c? || c? == some ' '

/-- The tag at a place. -/
def readTag (k : Cursor) : Option (Token × Cursor) := do
  let (t, after) ←
    if k.peek 1 == some '<' then do
      let (text, after) ← readTagText (k.skip 2)
      if after.next == some '>' then some (Token.tag none text, after.step) else none
    else if isGap (k.peek 1) then some (Token.tag none "!", k.step)
    else do
      let word := k.step.ahead.takeWhile fun c => !endsTag (some c)
      if word.contains '!' then
        let name := k.step.ahead.takeWhile isNameChar
        let behind := k.step.skip name.length
        if behind.next != some '!' then none
        let (text, after) ← readTagText behind.step
        some (Token.tag (some ("!" ++ String.ofList name ++ "!")) text, after)
      else
        let (text, after) ← readTagText k.step
        some (Token.tag (some "!") text, after)
  if endsTag after.next then return (t, after) else none

/-- The directive at a place. -/
def readDirective (k : Cursor) : Option (Token × Cursor) := do
  let name := k.step.ahead.takeWhile isNameChar
  let behind := k.step.skip name.length
  if name.isEmpty || !endsTag behind.next then none
  let arguments := behind.skipSpaces
  let (t, after) ←
    if name == "YAML".toList then do
      let major := arguments.ahead.takeWhile Text.isAsciiDigit
      let dot := arguments.skip major.length
      let minor := dot.step.ahead.takeWhile Text.isAsciiDigit
      let after := dot.step.skip minor.length
      if major.isEmpty || dot.next != some '.' || minor.isEmpty || !endsTag after.next then none
      some (Token.version (digits major), after)
    else if name == "TAG".toList then do
      let inner := arguments.step.ahead.takeWhile isNameChar
      if arguments.next != some '!' then none
      let (handle, afterHandle) ←
        if arguments.peek 1 == some ' ' then some (['!'], arguments.step)
        else if arguments.peek (inner.length + 1) == some '!' then
          some ('!' :: inner ++ ['!'], arguments.skip (inner.length + 2))
        else none
      if afterHandle.next != some ' ' then none
      let (text, after) ← readTagText afterHandle.skipSpaces
      if !endsTag after.next then none
      some (Token.tagPrefix (String.ofList handle) text, after)
    else some (Token.otherDirective, behind.skipLine)
  let rest := after.skipSpaces
  let rest := if rest.next == some '#' then rest.skipLine else rest
  if endsLine rest.next then return (t, rest.lineBreak.2) else none
where
  digits (cs : List Char) : Nat := cs.foldl (fun n c => 10 * n + (c.toNat - 48)) 0

/-- Reads what parts documents; it ends all blocks. -/
def betweenDocuments (read : Cursor → Option (Token × Cursor)) : Lex Unit := do
  closeBlocks (-1)
  dropKey
  allowKey false
  readWith fun k => demand (read k)

/-- Reads a block scalar; a key may follow it. -/
def blockScalar (folded : Bool) : Lex Unit := do
  allowKey true
  dropKey
  let s ← get
  readWith fun k => (demand (readBlock folded s.indent k.step)).map fun read =>
    (.scalar false (String.ofList read.text), read.after)

/-- Reads a quoted scalar. -/
def quotedScalar (double : Bool) : Lex Unit :=
  simpleToken fun k => (readQuoted double k.step).map fun read =>
    (.scalar false (String.ofList read.text), read.after)

/-- Reads a plain scalar; a key may follow it on another line. -/
def plainScalar : Lex Unit := do
  keepKey
  let s ← get
  let read := readPlain (← inFlow) s.indent s.cursor
  allowKey read.crossesLine
  moveTo read.after
  emit (.scalar true (String.ofList read.text))

/-- Whether a plain scalar begins at a place. -/
def beginsPlain (flow : Bool) (k : Cursor) : Bool :=
  match k.next with
  | none => false
  | some c =>
      (!isGap (some c) && !"-?:,[]\x7b\x7d#&*!|>'\"%@\x60".toList.contains c) ||
        (!isGap (k.peek 1) && (c == '-' || (!flow && (c == '?' || c == ':'))))

/-- Reads the next token. -/
def readToken : Lex Unit := do
  let k := (← get).cursor
  let flow ← inFlow
  let gap := isGap (k.peek 1)
  if k.column == 0 && k.next == some '%' then betweenDocuments readDirective
  else if k.column == 0 && k.atSeparator then
    betweenDocuments fun k =>
      some (if k.next == some '-' then .documentStart else .documentEnd, k.skip 3)
  else match k.next with
    | some '[' => openFlow .flowSequenceStart
    | some '\x7b' => openFlow .flowMappingStart
    | some ']' => closeFlow .flowSequenceEnd
    | some '\x7d' => closeFlow .flowMappingEnd
    | some ',' => flowEntry
    | some '*' => simpleToken fun k => demand (readName .reference k)
    | some '&' => simpleToken fun k => demand (readName .anchor k)
    | some '!' => simpleToken fun k => demand (readTag k)
    | some '\'' => quotedScalar false
    | some '"' => quotedScalar true
    | c? =>
        if c? == some '-' && gap then blockEntry
        else if c? == some '?' && (flow || gap) then explicitKey
        else if c? == some ':' && (flow || gap) then valueMark
        else if c? == some '|' && !flow then blockScalar false
        else if c? == some '>' && !flow then blockScalar true
        else if beginsPlain flow k then plainScalar
        else refuse

/-- Reads all tokens up to the end of the text. -/
def readAll : Nat → Lex Unit
  | 0 => refuse
  | fuel + 1 => do
      toNextToken ((← get).cursor.ahead.length + 1)
      dropStaleKeys
      let s ← get
      closeBlocks s.cursor.column
      if s.cursor.ahead.isEmpty then
        closeBlocks (-1)
        dropKey
      else
        readToken
        readAll fuel

end Lex

/-- The tokens of a text. A byte order mark may begin it. -/
def tokenize (text : List Char) : Except Fault (List Token) := do
  let start := Cursor.start text
  let start := if start.next.any (·.toNat == 0xFEFF) then start.step else start
  let ((), s) ← Lex.readAll (text.length + 2) ⟨start, #[], -1, [], [none], true⟩
  return s.tokens.toList

end JsonQuery.Yaml
