import CephExport.Yaml.Block
import CephExport.Yaml.Plain
import CephExport.Yaml.Quoted
import CephExport.Yaml.Token

/-!
Reading the tokens of a document. That a scalar is a key is known from the colon behind it, so that
the tokens of the key are put in front of it then; a key must stand on one line with its colon, no
more than `keyLimit` bytes before it.
-/

set_option autoImplicit false
set_option relaxedAutoImplicit false

namespace CephExport.Yaml

def keyLimit : Nat := 1024

structure KeyStart where
  place : Place
  count : Nat
  /-- Whether nothing but a key may stand there: at the column of the block around it. -/
  required : Bool

namespace KeyStart

def isStale (start : KeyStart) (place : Place) : Bool :=
  decide (start.place.line < place.line) || decide (start.place.offset + keyLimit < place.offset)

end KeyStart

structure Lexer where
  rest : List Char
  place : Place := {}
  tokens : Array Token := #[]
  /-- The columns of the blocks around the place, the innermost first. -/
  columns : List Nat := []
  keyAllowed : Bool := true
  /-- Where a key may have started within the innermost brackets. -/
  keyStart : Option KeyStart := none
  /-- Where keys may have started outside each of the brackets around the place, the innermost
  first. -/
  outerStarts : List (Option KeyStart) := []

namespace Lexer

def inFlow (lexer : Lexer) : Bool := !lexer.outerStarts.isEmpty

abbrev Step := StateT Lexer Option

namespace Step

def emit (token : Token) : Step Unit := modify fun l => { l with tokens := l.tokens.push token }

def goto (rest : List Char) : Step Unit :=
  modify fun l =>
    { l with rest, place := l.place.behind (l.rest.take (l.rest.length - rest.length)) }

def mark (count : Nat) (token : Token) : Step Unit := do
  goto ((← get).rest.drop count)
  emit token

/-- Go on to a text that has been read, if it has, and give what has been read in front of it. -/
def readTo {α : Type} : Option (α × List Char) → Step α
  | some (value, rest) => do
    goto rest
    pure value
  | none => failure

def allowKey (allowed : Bool) : Step Unit := modify ({ · with keyAllowed := allowed })

/-! ### Blank text -/

/-- The text behind blanks, byte order marks at the starts of lines, comments and line breaks, and
whether a key may start there. Tabs stand only where no key may start or within brackets, and
outside of these a key may start on a new line. -/
def skipBlank (flow allowed comment : Bool) (column : Nat) : List Char → Bool × List Char
  | [] => (allowed, [])
  | c :: rest =>
    if isBreak c then skipBlank flow (allowed || !flow) false 0 rest
    else if comment then skipBlank flow allowed true (column + 1) rest
    else if c = ' ' ∨ (c = byteOrderMark ∧ column = 0) ∨ (c = '\t' ∧ (flow ∨ !allowed)) then
      skipBlank flow allowed false (column + 1) rest
    else if c = '#' then skipBlank flow allowed true (column + 1) rest
    else (allowed, c :: rest)

def gap : Step Unit := do
  let l ← get
  let (allowed, rest) := skipBlank l.inFlow l.keyAllowed false l.place.column l.rest
  goto rest
  allowKey allowed

/-! ### Blocks -/

def closeBlocks (isLeft : Nat → Bool) : Step Unit := do
  let l ← get
  if !l.inFlow then
    let left := l.columns.takeWhile isLeft
    set { l with
      columns := l.columns.dropWhile isLeft
      tokens := left.foldl (fun tokens _ => tokens.push .blockEnd) l.tokens }

/-- Start a block at a column, unless there is one, with its token behind a number of others. -/
def openBlock (column count : Nat) (token : Token) : Step Unit := do
  let l ← get
  if !l.inFlow && l.columns.head?.all (decide <| · < column) then
    set { l with columns := column :: l.columns,
                 tokens := l.tokens.insertIdxIfInBounds count token }

def openBlockHere (token : Token) : Step Unit := do
  let l ← get
  openBlock l.place.column l.tokens.size token

/-! ### Keys -/

/-- Give up a key start; a required one needs its colon. -/
def giveUp : Option KeyStart → Step (Option KeyStart)
  | none => pure none
  | some start => if start.required then failure else pure none

/-- Give up the key that may have started within the innermost brackets. -/
def dropKey : Step Unit := do
  let start ← giveUp (← get).keyStart
  modify ({ · with keyStart := start })

def dropStaleKeys : Step Unit := do
  let l ← get
  let current (start : Option KeyStart) : Step (Option KeyStart) :=
    if start.any (·.isStale l.place) then giveUp start else pure start
  let start ← current l.keyStart
  let outer ← l.outerStarts.mapM current
  modify ({ · with keyStart := start, outerStarts := outer })

def startKey : Step Unit := do
  if (← get).keyAllowed then
    dropKey
    modify fun l => { l with
      keyStart :=
        some ⟨l.place, l.tokens.size, !l.inFlow && l.columns.head? == some l.place.column⟩ }

/-! ### Tokens -/

def documentMark (token : Token) : Step Unit := do
  closeBlocks fun _ => true
  dropKey
  allowKey false
  mark 3 token

def directive : Step Unit := do
  closeBlocks fun _ => true
  dropKey
  allowKey false
  emit (.directive (← readTo (Directive.read? ((← get).rest.drop 1))))

def openFlow (token : Token) : Step Unit := do
  startKey
  modify fun l => { l with keyStart := none, outerStarts := l.keyStart :: l.outerStarts }
  allowKey true
  mark 1 token

def closeFlow (token : Token) : Step Unit := do
  dropKey
  modify fun l => match l.outerStarts with
    | start :: outer => { l with keyStart := start, outerStarts := outer }
    | [] => l
  allowKey false
  mark 1 token

def comma : Step Unit := do
  dropKey
  allowKey true
  mark 1 .comma

def dash : Step Unit := do
  let l ← get
  if !l.inFlow then
    if !l.keyAllowed then failure
    openBlockHere .sequenceStart
  dropKey
  allowKey true
  mark 1 .dash

def key : Step Unit := do
  let l ← get
  if !l.inFlow then
    if !l.keyAllowed then failure
    openBlockHere .mappingStart
  dropKey
  allowKey !l.inFlow
  mark 1 .key

/-- The colon in front of a value. If a key may have started before it, that was one. -/
def value : Step Unit := do
  let l ← get
  match l.keyStart with
  | some start =>
    set { l with tokens := l.tokens.insertIdxIfInBounds start.count .key, keyStart := none }
    openBlock start.place.column start.count .mappingStart
    allowKey false
  | none =>
    if !l.inFlow then
      if !l.keyAllowed then failure
      openBlockHere .mappingStart
    allowKey !l.inFlow
  mark 1 .value

/-- A node that may be a key, or a property of one. -/
def keyPart (token : Step Token) : Step Unit := do
  startKey
  allowKey false
  emit (← token)

def name : Step (List Char) := do
  let text := (← get).rest.drop 1
  let rest := text.dropWhile isNameChar
  let name := text.takeWhile isNameChar
  let ends := rest.head?.any fun c =>
    ['?', ':', ',', ']', '\x7d', '%', '@', Char.ofNat 0x60].contains c
  if name.isEmpty || !(atBlank rest || ends) then failure
  goto rest
  pure name

def tag : Step Token := do
  let tag ← readTo (Tag.read? ((← get).rest.drop 1))
  let l ← get
  if Tag.mayEnd l.inFlow l.rest then pure (.tag tag) else failure

def quoted (read : List Char → Option (List Char × List Char)) : Step Token := do
  pure (.scalar (← readTo (read ((← get).rest.drop 1))) false)

/-- An unquoted scalar. Behind a line break a key may start. -/
def plain : Step Token := do
  let l ← get
  let indent := match l.columns with
    | [] => 0
    | column :: _ => column + 1
  match plain? l.inFlow indent l.place.column .none [] l.rest with
  | none => failure
  | some read =>
    goto read.rest
    if read.broken then allowKey true
    pure (.scalar read.text true)

/-- A literal or folded block, behind which a key may start. -/
def block (folds : Bool) : Step Unit := do
  dropKey
  allowKey true
  let l ← get
  emit (.scalar (← readTo (block? folds l.columns.head? (l.rest.drop 1))) false)

/-- Read the next token, or the ends of the blocks at the end of the text; whether there may be
more. -/
def next : Step Bool := do
  gap
  dropStaleKeys
  let column := (← get).place.column
  closeBlocks fun outer => decide (column < outer)
  let l ← get
  match l.rest with
  | [] =>
    closeBlocks fun _ => true
    dropKey
    pure false
  | c :: rest =>
    let indicates := l.inFlow || atBlank rest
    if column = 0 ∧ c = '%' then directive
    else if column = 0 ∧ atMark "---" l.rest then documentMark .documentStart
    else if column = 0 ∧ atMark "..." l.rest then documentMark .documentEnd
    else if c = '[' then openFlow .bracketOpen
    else if c = '\x7b' then openFlow .braceOpen
    else if c = ']' then closeFlow .bracketClose
    else if c = '\x7d' then closeFlow .braceClose
    else if c = ',' then comma
    else if c = '-' ∧ atBlank rest then dash
    else if c = '?' ∧ indicates then key
    else if c = ':' ∧ indicates then value
    else if c = '*' then keyPart (Token.reference <$> name)
    else if c = '&' then keyPart (Token.anchor <$> name)
    else if c = '!' then keyPart tag
    else if c = '|' ∧ !l.inFlow then block false
    else if c = '>' ∧ !l.inFlow then block true
    else if c = '\'' then keyPart (quoted (singleQuoted? .none []))
    else if c = '"' then keyPart (quoted (doubleQuoted? .none []))
    else if startsPlain l.inFlow l.rest then keyPart plain
    else failure
    pure true

/-- Read the tokens of the whole text, each of which takes a character of it. -/
def all : Nat → Step Unit
  | 0 => failure
  | fuel + 1 => do if ← next then all fuel

end Step

end Lexer

def Token.all? (text : List Char) : Option (List Token) :=
  ((Lexer.Step.all (text.length + 1)).run { rest := text }).map fun (_, lexer) =>
    lexer.tokens.toList

end CephExport.Yaml
