import ThreadTrace.Text.Blank
import ThreadTrace.Double.Basic

namespace ThreadTrace.Numeral

def isAsciiDigit (c : Char) : Bool := '0' ≤ c && c ≤ '9'

def natOf (digits : List Char) : Nat := digits.foldl (fun n c => 10 * n + (c.toNat - 48)) 0

def sign : List Char → Bool × List Char
  | '-' :: r => (true, r)
  | '+' :: r => (false, r)
  | s => (false, s)

def trimmed (s : List Char) : List Char := Text.Blank.trimChars Text.Blank.isSpace s

def hasDoubleLine : List Char → Bool
  | '_' :: '_' :: _ => true
  | _ :: r => hasDoubleLine r
  | [] => false

def joinGroups? (s : List Char) : Option (List Char) :=
  if s.head? = some '_' || s.getLast? = some '_' || hasDoubleLine s then none
  else some (s.filter (· != '_'))

inductive Whole
  | number (n : Int)
  | tooLong
  | malformed
deriving DecidableEq, Inhabited

/-- So many digits are read at most, with a sign or without. -/
def longest : Nat := 4300

def isTooLong (digits : List Char) : Bool := longest < digits.length

def IsShort (n : Int) : Prop := (Nat.toDigits 10 n.natAbs).length ≤ longest

instance (n : Int) : Decidable (IsShort n) := inferInstanceAs (Decidable (_ ≤ _))

/-- Reads a whole number that is written plainly: a minus sign or none, and digits without a
needless zero in front. Too many digits are found out before what stands behind them. -/
def plainWhole (s : List Char) : Whole :=
  let (negative, r) := match s with
    | '-' :: r => (true, r)
    | s => (false, s)
  let digits := r.takeWhile isAsciiDigit
  let rest := r.dropWhile isAsciiDigit
  if digits.isEmpty || (digits.head? = some '0' && digits.length != 1) then .malformed
  else if isTooLong digits then .tooLong
  else if !rest.isEmpty then .malformed
  else .number (if negative then -natOf digits else natOf digits)

/-- What is left of a text behind a zero: further zeros and low lines are needless, and the last one
stays if nothing or a point follows it. -/
def behindZero? (last : Char) : List Char → Option (List Char)
  | [] => some [last]
  | c :: r =>
    if c = '.' then some (last :: c :: r)
    else if c = '0' || c = '_' then behindZero? c r
    else if c = '-' || isAsciiDigit c then some (c :: r)
    else none

def dropZeros? : List Char → Option (List Char)
  | [] => none
  | c :: r =>
    if c = '0' then behindZero? c r
    else if c = '-' || isAsciiDigit c then some (c :: r)
    else none

def dropFraction (s : List Char) : List Char :=
  let whole := s.takeWhile (· != '.')
  let fraction := s.drop (whole.length + 1)
  if !fraction.isEmpty && fraction.all (· == '0') then whole else s

def dropPlus? : List Char → Option (List Char)
  | '+' :: '-' :: _ => none
  | '+' :: r => some r
  | s => some s

/-- Brings a number into plain form as far as this is possible: without blanks around it, a plus
sign, needless zeros in front, a fraction of zeros, and low lines. -/
def tidy? (s : List Char) : Option (List Char) := do
  let s ← dropZeros? (← dropPlus? (trimmed s))
  let s := dropFraction s
  some ((joinGroups? s).getD s)

def whole (s : List Char) : Whole :=
  match plainWhole s, tidy? s with
  | .malformed, some t => plainWhole t
  | w, _ => w

/-- The double nearest to `value * 10 ^ power`. Powers far beyond the range decide at once. -/
def nearest (negative : Bool) (value : Nat) (power : Int) (count : Nat) : Double :=
  if value = 0 then Double.ofRatio negative 0 1
  else if 400 < power then .infinite negative
  else if power + count < -400 then Double.ofRatio negative 0 1
  else if 0 ≤ power then Double.ofRatio negative (value * Nat.pow 10 power.toNat) 1
  else Double.ofRatio negative value (Nat.pow 10 (-power).toNat)

def exponent? : List Char → Option Int
  | [] => some 0
  | e :: r =>
    if e == 'e' || e == 'E' then
      let (negative, digits) := sign r
      if digits.isEmpty || !digits.all isAsciiDigit then none
      else some (if negative then -natOf digits else natOf digits)
    else none

def unsigned? (negative : Bool) (s : List Char) : Option Double :=
  let front := s.takeWhile isAsciiDigit
  let (back, rest) := match s.dropWhile isAsciiDigit with
    | '.' :: r => (r.takeWhile isAsciiDigit, r.dropWhile isAsciiDigit)
    | r => ([], r)
  if front.isEmpty && back.isEmpty then none
  else (exponent? rest).map fun p =>
    nearest negative (natOf (front ++ back)) (p - back.length) (front.length + back.length)

def plainDouble? (s : List Char) : Option Double :=
  let (negative, r) := sign s
  let word := String.ofList (r.map Char.toLower)
  if word = "inf" ∨ word = "infinity" then some (.infinite negative)
  else if word = "nan" then some .nan
  else unsigned? negative r

def double? (s : List Char) : Option Double :=
  (plainDouble? (trimmed s)).or ((joinGroups? s).bind plainDouble?)

end ThreadTrace.Numeral
