import ThreadTrace.Text.Blank
import ThreadTrace.Text.Tag
import ThreadTrace.Text.Width

namespace ThreadTrace.Screen

def movesCursor (c : Char) : Bool :=
  c == '\x07' || c == '\x08' || c == '\x0b' || c == '\x0c' || c == '\r'

def tabWidth : Nat := 8

/-- Ends a part of a line, which began at a tab stop, with at least one blank, and fills it up to
the next tab stop. -/
def filled (part : List Char) : List Char :=
  let part := part ++ [' ']
  part ++ List.replicate ((tabWidth - Text.Width.cells part % tabWidth) % tabWidth) ' '

/-- Replaces tabs by blanks; `part` holds what stands behind the last tab stop, reversed. -/
def expandTabs (part : List Char) : List Char → List Char
  | [] => part.reverse
  | c :: r =>
    if c = '\t' then filled part.reverse ++ expandTabs [] r
    else if c = '\n' then part.reverse ++ c :: expandTabs [] r
    else expandTabs (c :: part) r

def settled (s : String) : String :=
  String.ofList (expandTabs [] (s.toList.filter fun c => !movesCursor c))

def printed (s : String) : String := settled s ++ "\n"

def message (heading text : String) : String := printed (heading ++ " " ++ Text.Tag.printed text)

def measure (s : String) : Nat :=
  let kept := String.ofList (s.toList.filter fun c => !movesCursor c)
  ((Text.Blank.lines kept).map fun l => Text.Width.cells l.toList).foldl max 0

def isComplete (word : List Char) : Bool :=
  word.head?.any Text.Blank.isBlank && word.any fun c => !Text.Blank.isBlank c

def words (word : List Char) : List Char → List (List Char)
  | [] => if word.isEmpty then [] else [word.reverse]
  | c :: r =>
    if !Text.Blank.isBlank c && isComplete word then word.reverse :: words [c] r
    else words (c :: word) r

def fillLines (width column : Nat) (line : List Char) : List (List Char) → List (List Char)
  | [] => [line]
  | w :: ws =>
    let needed := Text.Width.cells (w.reverse.dropWhile Text.Blank.isBlank).reverse
    if column = 0 ∨ column + needed ≤ width then
      fillLines width (column + Text.Width.cells w) (line ++ w) ws
    else line :: fillLines width (Text.Width.cells w) w ws

def columnLines (width : Nat) (s : String) : List String :=
  ((settled s).splitOn "\n").flatMap fun line =>
    (fillLines width 0 [] (words [] line.toList)).map String.ofList

end ThreadTrace.Screen
