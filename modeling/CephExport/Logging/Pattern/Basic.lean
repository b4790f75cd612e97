/-!
Patterns for the values of fields: their syntax trees, how deep they nest, and which of them can be
matched. No field of an event is matched here, so that a tree keeps only what the last two depend
on.
-/

set_option autoImplicit false
set_option relaxedAutoImplicit false

namespace CephExport.Logging

structure Literal where
  char : Char
  /-- Whether two digits write it, so that it is a byte where characters are matched by their
  bytes. -/
  byte : Bool
  deriving DecidableEq

inductive SetOperation
  | intersection
  | difference
  | symmetricDifference
  deriving DecidableEq

inductive CharSet
  | literal (value : Literal)
  | range (first last : Literal)
  | named (negated : Bool)
  /-- The digits, blanks or word characters, or the characters other than those. -/
  | shorthand (negated : Bool)
  /-- The characters of a general category, or of all other ones. -/
  | category
  | bracketed (negated : Bool) (set : CharSet)
  | union (items : List CharSet)
  | joined (operation : SetOperation) (left right : CharSet)

inductive Atom
  | literal (value : Literal)
  | anyChar
  | anchor
  /-- A place at the edge of a word, or one that is not. -/
  | wordEdge
  | shorthand (negated : Bool)
  | category
  deriving DecidableEq

/-- A pattern. Where flags are set, `characters` tells whether they turn the matching of whole
characters, in place of bytes, on or off. -/
inductive Pattern
  | atom (value : Atom)
  | set (negated : Bool) (items : CharSet)
  | flags (characters : Option Bool)
  | repetition (body : Pattern)
  | group (characters : Option Bool) (body : Pattern)
  | sequence (items : List Pattern)
  | alternation (branches : List Pattern)

namespace CharSet

/-- The set of some items; one alone is the set itself. -/
def ofItems : List CharSet → CharSet
  | [item] => item
  | items => union items

def depth : CharSet → Nat
  | literal _ | range _ _ | named _ | shorthand _ | category => 0
  | bracketed _ set => set.depth + 1
  | union [] => 0
  | union (item :: items) => max item.depth (itemsDepth items) + 1
  | joined _ left right => max left.depth right.depth + 1
where
  itemsDepth : List CharSet → Nat
    | [] => 0
    | item :: items => max item.depth (itemsDepth items)

/-- Whether a set of bytes holds those beyond ASCII, all of which or none it holds. None where it
has characters that are no bytes, or where brackets or a shorthand in it hold those bytes. -/
def beyondAscii? : CharSet → Option Bool
  | literal value => if value.char.toNat < 128 then some false else none
  | range first last => if first.char.toNat < 128 ∧ last.char.toNat < 128 then some false else none
  | named negated => some negated
  | shorthand negated => if negated then none else some false
  | category => none
  | bracketed negated set =>
    set.beyondAscii?.bind fun holds => if holds = negated then some false else none
  | union items => anyBeyondAscii? items
  | joined operation left right =>
    match left.beyondAscii?, right.beyondAscii? with
    | some left, some right =>
      some (match operation with
        | .intersection => left && right
        | .difference => left && !right
        | .symmetricDifference => left != right)
    | _, _ => none
where
  anyBeyondAscii? : List CharSet → Option Bool
    | [] => some false
    | item :: items =>
      match item.beyondAscii?, anyBeyondAscii? items with
      | some first, some others => some (first || others)
      | _, _ => none

end CharSet

/-- Whether a step can be matched by characters or by bytes. What is matched by bytes may not end
within a character, and the edges of words are known for bytes alone. -/
def Atom.isMatchable (characters : Bool) : Atom → Bool
  | literal value => characters || !value.byte || value.char.toNat < 128
  | anyChar | category => characters
  | anchor => true
  | wordEdge => !characters
  | shorthand negated => characters || !negated

namespace Pattern

/-- The pattern of some items in a row; one alone is the pattern itself. -/
def ofItems : List Pattern → Pattern
  | [item] => item
  | items => sequence items

/-- The pattern of some branches; one alone is the pattern itself. -/
def ofBranches : List Pattern → Pattern
  | [branch] => branch
  | branches => alternation branches

def depth : Pattern → Nat
  | atom _ | flags _ => 0
  | set _ items => items.depth + 1
  | repetition body => body.depth + 1
  | group _ body => body.depth + 1
  | sequence [] => 0
  | sequence (item :: items) => max item.depth (itemsDepth items) + 1
  | alternation branches => itemsDepth branches + 1
where
  itemsDepth : List Pattern → Nat
    | [] => 0
    | item :: items => max item.depth (itemsDepth items)

/-- Whether characters are matched behind a pattern in front of which they are, or are not; none
where the pattern cannot be matched. Flags that are set hold up to the end of the group. -/
def charactersBehind? (characters : Bool) : Pattern → Option Bool
  | atom value => if value.isMatchable characters then some characters else none
  | set negated items =>
    if characters ∨ items.beyondAscii? = some negated then some characters else none
  | flags changed => some (changed.getD characters)
  | repetition body => body.charactersBehind? characters
  | group changed body => (body.charactersBehind? (changed.getD characters)).map fun _ => characters
  | sequence items => allBehind? characters items
  | alternation branches => allBehind? characters branches
where
  /-- Whether characters are matched behind some patterns, each of which follows the one before
  it. -/
  allBehind? (characters : Bool) : List Pattern → Option Bool
    | [] => some characters
    | item :: items =>
      match item.charactersBehind? characters with
      | some characters => allBehind? characters items
      | none => none

def depthLimit : Nat := 250

def isMatchable (pattern : Pattern) : Bool :=
  decide (pattern.depth ≤ depthLimit) && (pattern.charactersBehind? true).isSome

end Pattern

end CephExport.Logging
