import ThreadTrace.Json.Basic
import ThreadTrace.Double.Numeral

namespace ThreadTrace.Json

def isSpace (c : Char) : Bool := c == ' ' || c == '\n' || c == '\r' || c == '\t'

def skip (s : List Char) : List Char := s.dropWhile isSpace

def hexValue? (c : Char) : Option Nat :=
  if '0' ≤ c && c ≤ '9' then some (c.toNat - 48)
  else if 'a' ≤ c && c ≤ 'f' then some (c.toNat - 87)
  else if 'A' ≤ c && c ≤ 'F' then some (c.toNat - 55)
  else none

def hex4? : List Char → Option (Nat × List Char)
  | a :: b :: c :: d :: r => do
    let a ← hexValue? a
    let b ← hexValue? b
    let c ← hexValue? c
    let d ← hexValue? d
    some (((a * 16 + b) * 16 + c) * 16 + d, r)
  | _ => none

def plainEscape? : Char → Option Char
  | '"' => some '"'
  | '\\' => some '\\'
  | '/' => some '/'
  | 'b' => some '\x08'
  | 'f' => some '\x0c'
  | 'n' => some '\n'
  | 'r' => some '\r'
  | 't' => some '\t'
  | _ => none

def unicodeEscape? (s : List Char) : Option (Char × List Char) := do
  let (n, r) ← hex4? s
  if n < 0xd800 || 0xdfff < n then some (Char.ofNat n, r)
  else if n < 0xdc00 then
    match r with
    | '\\' :: 'u' :: r => do
      let (m, r) ← hex4? r
      if 0xdc00 ≤ m && m ≤ 0xdfff then
        some (Char.ofNat (0x10000 + (n - 0xd800) * 0x400 + (m - 0xdc00)), r)
      else none
    | _ => none
  else none

/-- The text up to the closing quote; `done` holds it reversed. -/
def stringRest (fuel : Nat) (done : List Char) (s : List Char) : Option (String × List Char) :=
  match fuel, s with
  | 0, _ => none
  | _, [] => none
  | fuel + 1, c :: r =>
    if c == '"' then some (String.ofList done.reverse, r)
    else if c == '\\' then
      match r with
      | 'u' :: r => do
        let (c, r) ← unicodeEscape? r
        stringRest fuel (c :: done) r
      | e :: r => do
        let c ← plainEscape? e
        stringRest fuel (c :: done) r
      | [] => none
    else if c.toNat < 0x20 then none
    else stringRest fuel (c :: done) r

open Numeral (isAsciiDigit natOf)

def fraction? : List Char → Option (List Char × List Char)
  | '.' :: r =>
    let ds := r.takeWhile isAsciiDigit
    if ds.isEmpty then none else some (ds, r.dropWhile isAsciiDigit)
  | s => some ([], s)

def exponent? : List Char → Option (Option Int × List Char)
  | c :: r =>
    if c == 'e' || c == 'E' then
      let (negative, r) := Numeral.sign r
      let ds := r.takeWhile isAsciiDigit
      if ds.isEmpty then none
      else some (some (if negative then -natOf ds else natOf ds), r.dropWhile isAsciiDigit)
    else some (none, c :: r)
  | [] => some (none, [])

/-- A number whose sign has been read: digits without a needless zero in front, a fraction, an
exponent. There is a limit to the digits in front of the fraction. -/
def number? (negative : Bool) (s : List Char) : Option (Json × List Char) := do
  let ds := s.takeWhile isAsciiDigit
  let r := s.dropWhile isAsciiDigit
  if ds.isEmpty || (ds.length > 1 && ds.head? == some '0') then none
  if Numeral.isTooLong ds then none
  let (frac, r) ← fraction? r
  let (e, r) ← exponent? r
  if frac.isEmpty && e.isNone then
    some (.int (if negative then -natOf ds else natOf ds), r)
  else
    let n := natOf (ds ++ frac)
    some (.real (Numeral.nearest negative n (e.getD 0 - frac.length) (ds.length + frac.length)), r)

def word? (w : String) (v : Json) (s : List Char) : Option (Json × List Char) :=
  if w.toList.isPrefixOf s then some (v, s.drop w.length) else none

mutual

def value (fuel : Nat) (s : List Char) : Option (Json × List Char) :=
  match fuel with
  | 0 => none
  | fuel + 1 =>
    match skip s with
    | [] => none
    | c :: r =>
      if c == '"' then (stringRest (r.length + 1) [] r).map fun (t, r) => (text t, r)
      else if c == '[' then
        match skip r with
        | ']' :: r => some (array [], r)
        | r => (items fuel r).map fun (vs, r) => (array vs, r)
      else if c == '\x7b' then
        match skip r with
        | '\x7d' :: r => some (object [], r)
        | r => (members fuel r).map fun (fs, r) => (object fs, r)
      else if c == '-' then
        if r.head? == some 'I' then word? "Infinity" (real (.infinite true)) r else number? true r
      else if isAsciiDigit c then number? false (c :: r)
      else if c == 'n' then word? "null" null (c :: r)
      else if c == 't' then word? "true" (bool true) (c :: r)
      else if c == 'f' then word? "false" (bool false) (c :: r)
      else if c == 'N' then word? "NaN" (real .nan) (c :: r)
      else if c == 'I' then word? "Infinity" (real (.infinite false)) (c :: r)
      else none

def items (fuel : Nat) (s : List Char) : Option (List Json × List Char) :=
  match fuel with
  | 0 => none
  | fuel + 1 => do
    let (v, r) ← value fuel s
    match skip r with
    | ',' :: r => do
      let (vs, r) ← items fuel r
      some (v :: vs, r)
    | ']' :: r => some ([v], r)
    | _ => none

def members (fuel : Nat) (s : List Char) : Option (List (String × Json) × List Char) :=
  match fuel with
  | 0 => none
  | fuel + 1 => do
    match skip s with
    | '"' :: r =>
      let (k, r) ← stringRest (r.length + 1) [] r
      match skip r with
      | ':' :: r =>
        let (v, r) ← value fuel r
        match skip r with
        | ',' :: r => do
          let (fs, r) ← members fuel r
          some ((k, v) :: fs, r)
        | '\x7d' :: r => some ([(k, v)], r)
        | _ => none
      | _ => none
    | _ => none

end

def parse? (s : String) : Option Json :=
  let cs := s.toList
  match value (2 * cs.length + 2) cs with
  | some (v, r) => if (skip r).isEmpty then some v else none
  | none => none

end ThreadTrace.Json
