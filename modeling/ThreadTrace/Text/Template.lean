import ThreadTrace.Double.Basic

namespace ThreadTrace.Text.Template

inductive Medium
  | text
  | bytes
deriving DecidableEq, Inhabited

inductive Trouble
  | unfinished
  | unknown (m : Medium) (letter : Char) (position : Nat)
  | noLetter
  | named
  | surplus (m : Medium)
  | shortage
  | noBytes
  | byteRange
  | textRange
  | tooBig (what : String)
deriving DecidableEq, Inhabited

namespace Trouble

def kind : Trouble → String
  | unfinished | unknown .. | tooBig _ => "ValueError"
  | named | surplus _ | shortage | noBytes => "TypeError"
  | noLetter | byteRange | textRange => "OverflowError"

def hexOf (n : Nat) : String := String.ofList (Nat.toDigits 16 n)

def message : Trouble → String
  | unfinished => "incomplete format"
  | unknown m letter position =>
    let isShown := m == .bytes || (31 ≤ letter.toNat && letter.toNat ≤ 126)
    let shown := if isShown then letter else '?'
    "unsupported format character '" ++ String.singleton shown ++ "' (0x" ++ hexOf letter.toNat ++
      ") at index " ++ toString position
  | noLetter => "character argument not in range(0x110000)"
  | named => "format requires a mapping"
  | surplus .text => "not all arguments converted during string formatting"
  | surplus .bytes => "not all arguments converted during bytes formatting"
  | shortage => "not enough arguments for format string"
  | noBytes =>
    "%b requires a bytes-like object, or an object that implements __bytes__, not 'int'"
  | byteRange => "%c arg not in range(256)"
  | textRange => "%c arg not in range(0x110000)"
  | tooBig what => what ++ " too big"

end Trouble

/-- What stands between the percent sign and the letter. -/
structure Layout where
  left : Bool := false
  sign : Option Char := none
  alternate : Bool := false
  zeros : Bool := false
  width : Option Nat := none
  places : Option Nat := none
deriving DecidableEq, Inhabited

def isFlag (c : Char) : Bool := c == '-' || c == '+' || c == ' ' || c == '#' || c == '0'

def Layout.ofFlags (flags : List Char) : Layout where
  left := flags.contains '-'
  sign := if flags.contains '+' then some '+' else if flags.contains ' ' then some ' ' else none
  alternate := flags.contains '#'
  zeros := flags.contains '0'

def atLeast (n : Nat) (digits : List Char) : List Char :=
  List.replicate (n - digits.length) '0' ++ digits

def decimal (n : Nat) : List Char := Nat.toDigits 10 n

def rounded (n places : Nat) : Nat × Nat :=
  let e := (decimal n).length - 1
  let m := if places ≤ e then Double.roundDiv n (Nat.pow 10 (e - places))
    else n * Nat.pow 10 (places - e)
  if m = Nat.pow 10 (places + 1) then (Nat.pow 10 places, e + 1) else (m, e)

def pointed (alternate : Bool) (whole : Nat) (digits : List Char) : List Char :=
  let (front, rest) := digits.splitAt whole
  if rest.isEmpty && !alternate then front else front ++ '.' :: rest

def exponent (letter : Char) (e : Nat) : List Char :=
  (if letter.isUpper then 'E' else 'e') :: '+' :: atLeast 2 (decimal e)

def scientific (l : Layout) (letter : Char) (n places : Nat) : List Char :=
  let (m, e) := rounded n places
  pointed l.alternate 1 (decimal m) ++ exponent letter e

def fixed (l : Layout) (n places : Nat) : List Char :=
  let whole := decimal n
  pointed l.alternate whole.length (whole ++ List.replicate places '0')

def trimZeros (digits : List Char) : List Char := (digits.reverse.dropWhile (· == '0')).reverse

/-- With so many digits that count: positional if they reach behind the point, and without zeros at
the end unless in the alternate form. -/
def general (l : Layout) (letter : Char) (n digits : Nat) : List Char :=
  let places := max digits 1 - 1
  let (m, e) := rounded n places
  if e ≤ places then
    if l.alternate then fixed l n (places - e) else decimal n
  else
    let kept := if l.alternate then decimal m else (decimal m).take 1 ++ trimZeros (decimal m).tail
    pointed l.alternate 1 kept ++ exponent letter e

def defaultPlaces : Nat := 6

structure Piece where
  isNumber : Bool := true
  lead : List Char := []
  body : List Char
deriving Inhabited

def wholePiece (l : Layout) (lead : List Char) (digits : List Char) : Piece where
  lead := if l.alternate then lead else []
  body := atLeast (l.places.getD 0) digits

def shownPiece (l : Layout) (n : Nat) : Piece where
  isNumber := false
  body := match l.places with
    | some p => (decimal n).take p
    | none => decimal n

def characterPiece (m : Medium) (n : Nat) : Except Trouble Piece :=
  match m with
  | .bytes =>
    if n < 256 then .ok { isNumber := false, body := [Char.ofNat n] } else .error .byteRange
  | .text =>
    if n < 0x110000 then .ok { isNumber := false, body := [Char.ofNat n] } else .error .textRange

def piece (m : Medium) (l : Layout) (letter : Char) (position n : Nat) : Except Trouble Piece :=
  let places := l.places.getD defaultPlaces
  match letter with
  | 'd' | 'i' | 'u' => .ok (wholePiece l [] (decimal n))
  | 'o' => .ok (wholePiece l ['0', 'o'] (Nat.toDigits 8 n))
  | 'x' => .ok (wholePiece l ['0', 'x'] (Nat.toDigits 16 n))
  | 'X' => .ok (wholePiece l ['0', 'X'] ((Nat.toDigits 16 n).map Char.toUpper))
  | 'e' | 'E' => .ok { body := scientific l letter n places }
  | 'f' | 'F' => .ok { body := fixed l n places }
  | 'g' | 'G' => .ok { body := general l letter n places }
  | 'c' => characterPiece m n
  | 'r' | 'a' => .ok (shownPiece l n)
  | 's' => if m = .bytes then .error .noBytes else .ok (shownPiece l n)
  | 'b' => if m = .bytes then .error .noBytes else .error (.unknown m letter position)
  | _ => .error (.unknown m letter position)

def set (l : Layout) (p : Piece) : List Char :=
  let sign := if p.isNumber then l.sign.toList else []
  let fill := l.width.getD 0 - (sign.length + p.lead.length + p.body.length)
  if l.left then sign ++ p.lead ++ p.body ++ List.replicate fill ' '
  else if p.isNumber && l.zeros then sign ++ p.lead ++ List.replicate fill '0' ++ p.body
  else List.replicate fill ' ' ++ sign ++ p.lead ++ p.body

abbrev Supply := Option Nat

def take : Supply → Except Trouble (Nat × Supply)
  | some n => .ok (n, none)
  | none => .error .shortage

def sizeBound : Nat := 0x8000000000000000

def placesBound : Nat := 0x80000000

def numberOf (digits : List Char) : Nat := digits.foldl (fun n c => 10 * n + (c.toNat - 48)) 0

/-- The number that a template states or takes at its start, and what follows. -/
def amount (what : String) (bound : Nat) (supply : Supply) (r : List Char) :
    Except Trouble (Option Nat × Supply × List Char) :=
  match r with
  | '*' :: r => do
    let (n, supply) ← take supply
    .ok (some n, supply, r)
  | r =>
    let digits := r.takeWhile Char.isDigit
    if digits.isEmpty then .ok (none, supply, r)
    else if bound ≤ numberOf digits then .error (.tooBig what)
    else .ok (some (numberOf digits), supply, r.dropWhile Char.isDigit)

def placesOf (m : Medium) (supply : Supply) (r : List Char) :
    Except Trouble (Option Nat × Supply × List Char) :=
  match r with
  | '.' :: r => do
    let what := if m = .bytes then "prec" else "precision"
    let (places, supply, r) ← amount what placesBound supply r
    .ok (some (places.getD 0), supply, r)
  | r => .ok (none, supply, r)

def skipSize : List Char → List Char
  | c :: r => if c == 'h' || c == 'l' || c == 'L' then r else c :: r
  | [] => []

def endsInDigit (all rest : List Char) : Bool :=
  (all.take (all.length - rest.length)).getLast?.any Char.isDigit

/-- A byte beyond ASCII is taken for a letter only behind a digit. -/
def isLetter (m : Medium) (spec : List Char) (letter : Char) (r : List Char) : Bool :=
  m == .text || letter.toNat < 0x80 || endsInDigit spec (letter :: r)

/-- What a conversion writes, given what stands behind its percent sign. A second percent sign
stands for itself. `total` is the length of the whole template. -/
def conversion (m : Medium) (total : Nat) (supply : Supply) (r : List Char) :
    Except Trouble (List Char × Supply × List Char) := do
  match r with
  | '(' :: _ => throw .named
  | '%' :: r => return (['%'], supply, r)
  | r =>
    let layout := Layout.ofFlags (r.takeWhile isFlag)
    let spec := r.dropWhile isFlag
    let (width, supply, r) ← amount "width" sizeBound supply spec
    let (places, supply, r) ← placesOf m supply r
    match skipSize r with
    | [] => throw .unfinished
    | letter :: r =>
      let (n, supply) ← take supply
      if !isLetter m spec letter r then throw .noLetter
      let layout := { layout with width, places }
      return (set layout (← piece m layout letter (total - r.length - 1) n), supply, r)

def fillFrom (m : Medium) (total : Nat) : Nat → Supply → List Char → Except Trouble (List Char)
  | 0, _, _ => .ok []
  | fuel + 1, supply, r =>
    match r with
    | [] => if supply.isSome then .error (.surplus m) else .ok []
    | '%' :: r => do
      let (front, supply, r) ← conversion m total supply r
      .ok (front ++ (← fillFrom m total fuel supply r))
    | c :: r => do .ok (c :: (← fillFrom m total fuel supply r))

def fill (m : Medium) (template : List Char) (n : Nat) : Except Trouble (List Char) :=
  fillFrom m template.length (template.length + 1) (some n) template

end ThreadTrace.Text.Template
