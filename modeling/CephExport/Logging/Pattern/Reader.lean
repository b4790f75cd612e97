import CephExport.Logging.Pattern.Basic
import CephExport.Number.Numeral
import CephExport.Text.Blank
import CephExport.Text.Letters

/-!
Reading patterns. Nothing closes a brace in the value of a field, so that an opening brace, which
would start a count of repetitions, is refused outside of brackets.
-/

set_option autoImplicit false
set_option relaxedAutoImplicit false

namespace CephExport.Logging.Pattern

/-- The place of a reader: the text ahead, whether blanks and comments in it count for nothing, and
the names of the groups so far. -/
structure Cursor where
  rest : List Char
  spaced : Bool := false
  names : List (List Char) := []

abbrev Reader := StateT Cursor Option

namespace Reader

def goto (rest : List Char) : Reader Unit := modify ({ · with rest })

/-- The text behind blanks and comments at its head, where `comment` tells whether it starts in
one. -/
def dropFiller (comment : Bool) : List Char → List Char
  | [] => []
  | c :: rest =>
    if comment then dropFiller (c != '\n') rest
    else if c = '#' then dropFiller true rest
    else if Text.isBlank c then dropFiller false rest
    else c :: rest

/-- The text ahead, behind blanks and comments where they count for nothing. -/
def ahead : Reader (List Char) := do
  let c ← get
  if c.spaced then goto (dropFiller false c.rest)
  return (← get).rest

/-- The next character, behind blanks and comments where they count for nothing. -/
def next : Reader Char := do
  match ← ahead with
  | [] => failure
  | c :: rest =>
    goto rest
    pure c

/-! ### Steps -/

def categories : List Char := ['c', 'l', 'm', 'n', 'p', 's', 'z']

/-- The digits of a code point, with blanks between them where those count for nothing. -/
def hexDigits : Nat → List Char → Reader (List Char)
  | 0, read => pure read.reverse
  | count + 1, read => do hexDigits count ((← next) :: read)

def codePoint (count : Nat) : Reader Atom := do
  match codePoint? count (← hexDigits count []) with
  | none => failure
  | some (c, _) =>
    let _ ← ahead
    pure (.literal ⟨c, count == 2⟩)

def escape : Reader Atom := do
  match (← get).rest with
  | [] => failure
  | c :: rest =>
    goto rest
    if c = 'x' then codePoint 2
    else if c = 'u' then codePoint 4
    else if c = 'U' then codePoint 8
    else if c = 'p' ∨ c = 'P' then
      if categories.contains (← next).toLower then
        let _ ← ahead
        pure .category
      else failure
    else if ['d', 's', 'w'].contains c then pure (.shorthand false)
    else if ['D', 'S', 'W'].contains c then pure (.shorthand true)
    else if ['A', 'z'].contains c then pure .anchor
    else if ['b', 'B', '<', '>'].contains c then pure .wordEdge
    else if ['a', 'f', 'n', 'r', 't', 'v'].contains c || (c.toNat < 128 && !c.isAlphanum) then
      pure (.literal ⟨c, false⟩)
    else failure

def atom : Reader Atom := do
  match (← get).rest with
  | [] => failure
  | '\\' :: rest =>
    goto rest
    escape
  | c :: rest =>
    goto rest
    if c = '.' then pure .anyChar
    else if c = '^' ∨ c = '$' then pure .anchor
    else pure (.literal ⟨c, false⟩)

/-! ### Sets -/

def setNames : List String :=
  ["alnum", "alpha", "ascii", "blank", "cntrl", "digit", "graph", "lower", "print",
    "punct", "space", "upper", "word", "xdigit"]

/-- A named set behind its opening bracket: whether it is a complement, and the text behind it. -/
def namedSet? : List Char → Option (Bool × List Char)
  | ':' :: rest =>
    let negated := rest.head? == some '^'
    let rest := if negated then rest.drop 1 else rest
    match rest.dropWhile (· != ':') with
    | ':' :: ']' :: behind =>
      if setNames.contains (String.ofList (rest.takeWhile (· != ':'))) then
        some (negated, behind)
      else none
    | _ => none
  | _ => none

/-- The step that a set starts or goes on with: anything but an escape stands for itself. -/
def setAtom : Reader Atom := do
  match (← get).rest with
  | [] => failure
  | '\\' :: rest =>
    goto rest
    escape
  | c :: rest =>
    goto rest
    pure (.literal ⟨c, false⟩)

/-- The set that a step stands for, if it may stand in one. -/
def setOfAtom? : Atom → Option CharSet
  | .literal value => some (.literal value)
  | .shorthand negated => some (.shorthand negated)
  | .category => some .category
  | _ => none

/-- The character behind a hyphen that may stand in a range. Where blanks count for nothing, so does
the mark of a comment. -/
def behindHyphen? (spaced : Bool) (text : List Char) : Option Char :=
  if spaced then
    let ahead := text.dropWhile Text.isBlank
    let ahead := if ahead.head? == some '#' then (ahead.drop 1).dropWhile Text.isBlank else ahead
    ahead.head?.or text.head?
  else text.head?

/-- A character of a set, or a range of them. A hyphen in front of a closing bracket or of another
hyphen makes no range. -/
def setItem : Reader CharSet := do
  let first ← setAtom
  match ← ahead with
  | [] => failure
  | c :: rest =>
    if c = '-' ∧ !([some ']', some '-'].contains (behindHyphen? (← get).spaced rest)) then
      goto rest
      let _ ← ahead
      match first, ← setAtom with
      | .literal low, .literal high =>
        if low.char ≤ high.char then pure (.range low high) else failure
      | _, _ => failure
    else setOfAtom? first

/-- The hyphens that a set starts with, which stand for themselves. -/
def leadingHyphens : Nat → List CharSet → Reader (List CharSet)
  | 0, read => pure read
  | fuel + 1, read => do
    match ← ahead with
    | '-' :: rest =>
      goto rest
      leadingHyphens fuel (.literal ⟨'-', false⟩ :: read)
    | _ => pure read

/-- The set that an operation and a set before it make of a set. -/
def joinedWith (left : Option (SetOperation × CharSet)) (right : CharSet) : CharSet :=
  match left with
  | none => right
  | some (operation, left) => .joined operation left right

/-- The operation that a text starts with, and the text behind it. -/
def operation? : List Char → Option (SetOperation × List Char)
  | '&' :: '&' :: rest => some (.intersection, rest)
  | '-' :: '-' :: rest => some (.difference, rest)
  | '~' :: '~' :: rest => some (.symmetricDifference, rest)
  | _ => none

mutual

/-- A set behind its opening bracket, and whether it is the complement. -/
def charSet (fuel : Nat) : Reader (Bool × CharSet) :=
  match fuel with
  | 0 => failure
  | fuel + 1 => do
    let text ← ahead
    let negated := text.head? == some '^'
    if negated then goto (text.drop 1)
    let hyphens ← leadingHyphens fuel []
    match hyphens, ← ahead with
    | [], ']' :: rest =>
      goto rest
      return (negated, ← setItems fuel none [.literal ⟨']', false⟩])
    | _, _ => return (negated, ← setItems fuel none hyphens)

/-- The items of a set up to its closing bracket, behind those already read. -/
def setItems (fuel : Nat) (left : Option (SetOperation × CharSet)) (read : List CharSet) :
    Reader CharSet :=
  match fuel with
  | 0 => failure
  | fuel + 1 => do
    match ← ahead with
    | [] => failure
    | ']' :: rest =>
      goto rest
      pure (joinedWith left (.ofItems read.reverse))
    | '[' :: rest =>
      match namedSet? rest with
      | some (negated, rest) =>
        goto rest
        setItems fuel left (.named negated :: read)
      | none =>
        goto rest
        let (negated, inner) ← charSet fuel
        setItems fuel left (.bracketed negated inner :: read)
    | text =>
      match operation? text with
      | some (operation, rest) =>
        goto rest
        setItems fuel (some (operation, joinedWith left (.ofItems read.reverse))) []
      | none => setItems fuel left ((← setItem) :: read)

end

/-! ### Groups -/

/-- The letters of the flags: case, lines, dots, greed, characters, line ends and blanks. -/
def flagLetters : List Char := ['i', 'm', 's', 'U', 'u', 'R', 'x']

/-- Flags up to the colon in front of a group or to a closing parenthesis: what is set and whether
it is turned on, whether they stand alone, and the text behind them. -/
def flags? (read : List (Char × Bool)) (on dangling : Bool) :
    List Char → Option (List (Char × Bool) × Bool × List Char)
  | [] => none
  | c :: rest =>
    if c = ':' then if dangling then none else some (read, false, rest)
    else if c = ')' then if dangling ∨ read.isEmpty then none else some (read, true, rest)
    else if c = '-' then if on then flags? read false true rest else none
    else if flagLetters.contains c ∧ (read.lookup c).isNone then
      flags? ((c, on) :: read) on false rest
    else none

def isGroupName : List Char → Bool
  | [] => false
  | c :: rest =>
    (c == '_' || Text.isLetter c) &&
      rest.all fun c => ['_', '.', '[', ']'].contains c || Text.isLetterOrNumber c

/-- Go past the name of a group, which no other group has. -/
def groupName : Reader Unit := do
  let c ← get
  let name := c.rest.takeWhile (· != '>')
  match c.rest.dropWhile (· != '>') with
  | [] => failure
  | _ :: rest =>
    if isGroupName name ∧ name ∉ c.names then modify ({ · with rest, names := name :: c.names })
    else failure

def isRepeatable : Pattern → Bool
  | .flags _ => false
  | _ => true

mutual

/-- The branches of a group up to its closing parenthesis or the end of the text. -/
def branches (fuel : Nat) (before items : List Pattern) : Reader Pattern :=
  match fuel with
  | 0 => failure
  | fuel + 1 => do
    match ← ahead with
    | [] => pure (.ofBranches (.ofItems items.reverse :: before).reverse)
    | c :: rest =>
      if c = ')' then pure (.ofBranches (.ofItems items.reverse :: before).reverse)
      else if c = '|' then
        goto rest
        branches fuel (.ofItems items.reverse :: before) []
      else if c = '(' then
        goto rest
        branches fuel before ((← group fuel) :: items)
      else if c = '[' then
        goto rest
        let (negated, inner) ← charSet fuel
        branches fuel before (.set negated inner :: items)
      else if c = '?' ∨ c = '*' ∨ c = '+' then
        match items with
        | [] => failure
        | item :: items =>
          if isRepeatable item then
            goto (if rest.head? == some '?' then rest.drop 1 else rest)
            branches fuel before (.repetition item :: items)
          else failure
      else if c = '\x7b' then failure
      else branches fuel before (.atom (← atom) :: items)

/-- A group behind its opening parenthesis, or flags that are set up to the end of the group around
them. -/
def group (fuel : Nat) : Reader Pattern :=
  match fuel with
  | 0 => failure
  | fuel + 1 => do
    let spaced := (← get).spaced
    match ← ahead with
    | '?' :: 'P' :: '<' :: rest =>
      goto rest
      groupName
      closed fuel spaced none
    | '?' :: '<' :: rest =>
      goto rest
      groupName
      closed fuel spaced none
    | '?' :: rest =>
      match flags? [] true false rest with
      | none => failure
      | some (read, alone, rest) =>
        modify fun c => { c with rest, spaced := (read.lookup 'x').getD spaced }
        if alone then pure (.flags (read.lookup 'u')) else closed fuel spaced (read.lookup 'u')
    | _ => closed fuel spaced none

/-- The rest of a group and its closing parenthesis. Behind it blanks count as they did before
it. -/
def closed (fuel : Nat) (spaced : Bool) (characters : Option Bool) : Reader Pattern :=
  match fuel with
  | 0 => failure
  | fuel + 1 => do
    let body ← branches fuel [] []
    match (← get).rest with
    | ')' :: rest =>
      modify ({ · with rest, spaced })
      pure (.group characters body)
    | _ => failure

end

end Reader

def parse? (text : List Char) : Option Pattern :=
  match (Reader.branches (4 * text.length + 4) [] []).run { rest := text } with
  | some (pattern, ⟨[], _, _⟩) => some pattern
  | _ => none

end CephExport.Logging.Pattern
