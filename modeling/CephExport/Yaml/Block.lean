import CephExport.Yaml.Character

/-!
Literal and folded blocks: the marks in their heads, their indentation, and what becomes of their
line breaks.
-/

set_option autoImplicit false
set_option relaxedAutoImplicit false

namespace CephExport.Yaml

inductive Chomping
  | strip
  | clip
  | keep
  deriving DecidableEq

/-- The head of a block: what becomes of its last line breaks, and its indentation where that is
given. -/
structure BlockHead where
  chomping : Chomping := .clip
  indent : Option Nat := none
  deriving DecidableEq

namespace BlockHead

/-- The head with the mark of a chomping, and the text behind that, if the text starts with one. -/
def chomped? (head : BlockHead) : List Char → Option (BlockHead × List Char)
  | '+' :: rest => some ({ head with chomping := .keep }, rest)
  | '-' :: rest => some ({ head with chomping := .strip }, rest)
  | _ => none

/-- The head with the digit of an indentation, and the text behind that, if the text starts with
one. -/
def indented? (head : BlockHead) : List Char → Option (BlockHead × List Char)
  | c :: rest =>
    if c.isDigit then some ({ head with indent := some (c.toNat - 48) }, rest) else none
  | [] => none

/-- The marks in the head of a block, at most one of each kind in either order. -/
def marks (text : List Char) : BlockHead × List Char :=
  match ({} : BlockHead).chomped? text with
  | some (head, rest) => (head.indented? rest).getD (head, rest)
  | none =>
    match ({} : BlockHead).indented? text with
    | some (head, rest) => (head.chomped? rest).getD (head, rest)
    | none => ({}, text)

/-- The head of a block and the lines behind it. Only a comment may stand behind its marks, and an
indentation that is given is not nought. -/
def read? (text : List Char) : Option (BlockHead × List Char) :=
  let (head, rest) := marks text
  let rest := rest.dropWhile isSpace
  let rest := if rest.head? == some '#' then rest.dropWhile (! isBreak ·) else rest
  if head.indent = some 0 then none
  else if atBlank rest then some (head, rest.drop 1)
  else none

end BlockHead

/-- The blank lines at the head of a block whose indentation is not given: the widest indentation of
them and of the line behind them, their breaks, the latest first, and the column and text reached. A
tab may not stand in the indentation. -/
def blankLines? (widest column : Nat) (breaks : List Char) :
    List Char → Option (Nat × List Char × Nat × List Char)
  | [] => some (max widest column, breaks, column, [])
  | c :: rest =>
    if c = ' ' then blankLines? widest (column + 1) breaks rest
    else if c = '\t' then none
    else if isBreak c then blankLines? (max widest column) 0 (c :: breaks) rest
    else some (max widest column, breaks, column, c :: rest)

/-- What has been read of a block, all text in reverse. -/
structure BlockText where
  text : List Char := []
  lineEnd : List Char := []
  breaks : List Char := []
  /-- Whether the last line starts with a blank, which keeps its end from being folded. -/
  spaced : Bool := false

namespace BlockText

/-- The text in front of a further line, where `spaced` tells whether that starts with a blank.
Between two lines that do not, a folded block has a space for one line feed, and nothing for the
first of several breaks. -/
def joined (block : BlockText) (folds spaced : Bool) : List Char :=
  if folds ∧ block.lineEnd = ['\n'] ∧ ¬block.spaced ∧ ¬spaced then
    if block.breaks.isEmpty then ' ' :: block.text else block.breaks ++ block.text
  else block.breaks ++ (block.lineEnd ++ block.text)

def chomped (block : BlockText) (chomping : Chomping) : List Char :=
  match chomping with
  | .strip => block.text.reverse
  | .clip => (block.lineEnd ++ block.text).reverse
  | .keep => (block.breaks ++ (block.lineEnd ++ block.text)).reverse

/-- The lines of a block, behind what has been read of it, and the text behind them. `inside` tells
whether the text goes on within a line; otherwise it is in the indentation of one, at a column. -/
def read? (folds : Bool) (indent : Nat) (inside : Bool) (column : Nat) (block : BlockText) :
    List Char → Option (BlockText × List Char)
  | [] => some (block, [])
  | c :: rest =>
    if inside then
      if isBreak c then read? folds indent false 0 { block with lineEnd := [c] } rest
      else read? folds indent true 0 { block with text := c :: block.text } rest
    else if isBreak c then
      read? folds indent false 0 { block with breaks := c :: block.breaks } rest
    else if column < indent then
      if c = ' ' then read? folds indent false (column + 1) block rest
      else if c = '\t' then none
      else some (block, c :: rest)
    else
      read? folds indent true 0 { text := c :: block.joined folds (isSpace c),
                                  spaced := isSpace c } rest

end BlockText

/-- The text of a block behind its mark, and the text behind its lines. Where no indentation is
given it is that of the widest of the first lines, and in either case it is counted from that of the
collection around it, if there is one. -/
def block? (folds : Bool) (parent : Option Nat) (text : List Char) :
    Option (List Char × List Char) :=
  match BlockHead.read? text with
  | none => none
  | some (head, lines) =>
    let read := match head.indent with
      | some count => BlockText.read? folds (parent.getD 0 + count) false 0 {} lines
      | none =>
        match blankLines? 0 0 [] lines with
        | none => none
        | some (widest, breaks, column, rest) =>
          let indent := max (max widest ((parent.map (· + 1)).getD 0)) 1
          BlockText.read? folds indent false column { breaks } rest
    read.map fun (block, rest) => (block.chomped head.chomping, rest)

end CephExport.Yaml
