namespace ThreadTrace.Text.Blank

def isBlank (c : Char) : Bool :=
  let n := c.toNat
  (9 ≤ n && n ≤ 13) || (28 ≤ n && n ≤ 32) || n == 0x85 || n == 0xa0 || n == 0x1680 ||
    (0x2000 ≤ n && n ≤ 0x200a) || n == 0x2028 || n == 0x2029 || n == 0x202f || n == 0x205f ||
    n == 0x3000

/-- White space proper; the four separators from U+001C on are blank without being white space. -/
def isSpace (c : Char) : Bool := isBlank c && !(28 ≤ c.toNat && c.toNat ≤ 31)

def endsLine (c : Char) : Bool :=
  let n := c.toNat
  (10 ≤ n && n ≤ 13) || (28 ≤ n && n ≤ 30) || n == 0x85 || n == 0x2028 || n == 0x2029

def trimChars (p : Char → Bool) (s : List Char) : List Char :=
  ((s.dropWhile p).reverse.dropWhile p).reverse

def trim (s : String) : String := String.ofList (trimChars isBlank s.toList)

/-- Cuts `s` at each line end; `line` holds the current line reversed. A last line that is empty
is no line. -/
def cut (line : List Char) : List Char → List (List Char)
  | [] => if line.isEmpty then [] else [line.reverse]
  | '\r' :: '\n' :: r => line.reverse :: cut [] r
  | c :: r => if endsLine c then line.reverse :: cut [] r else cut (c :: line) r

def lines (s : String) : List String := (cut [] s.toList).map String.ofList

def cutAtNewlines (line : List Char) : List Char → List (List Char)
  | [] => if line.isEmpty then [] else [line.reverse]
  | '\r' :: '\n' :: r => line.reverse :: cutAtNewlines [] r
  | c :: r =>
    if c = '\n' ∨ c = '\r' then line.reverse :: cutAtNewlines [] r else cutAtNewlines (c :: line) r

def fileLines (s : String) : List String := (cutAtNewlines [] s.toList).map String.ofList

end ThreadTrace.Text.Blank
