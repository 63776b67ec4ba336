import ThreadTrace.Table
import ThreadTrace.Text.Blank

namespace ThreadTrace.SettingsFile

open Text.Blank (isBlank)

/-- A name with its value; a name may stand alone. -/
abbrev Binding := String × Option String

def newline : Char := '\n'

def isInline (c : Char) : Bool := isBlank c && c != newline

def skipInline (s : List Char) : List Char := s.dropWhile isInline

def restOfLine (s : List Char) : List Char := (s.dropWhile (· != newline)).drop 1

def skipExport (s : List Char) : List Char :=
  let word := "export".toList
  match s.drop word.length with
  | c :: r => if word.isPrefixOf s && isInline c then skipInline r else s
  | [] => s

def isNameChar (c : Char) : Bool := c != '=' && c != '#' && !isBlank c

def name? : List Char → Option (Option String × List Char)
  | '#' :: r => some (none, '#' :: r)
  | '\'' :: r =>
    match r.takeWhile (· != '\''), r.dropWhile (· != '\'') with
    | n@(_ :: _), _ :: rest => some (some (String.ofList n), rest)
    | _, _ => none
  | s =>
    match s.takeWhile isNameChar with
    | [] => none
    | n => some (some (String.ofList n), s.dropWhile isNameChar)

/-- The text in front of the first quote, and what follows. A backslash takes the character behind
it along, be it a quote or not. -/
def untilQuote (quote : Char) : List Char → Option (List Char × List Char)
  | [] | ['\\'] => none
  | '\\' :: c :: r => (untilQuote quote r).map fun x => ('\\' :: c :: x.1, x.2)
  | c :: r =>
    if c = quote then some ([], r) else (untilQuote quote r).map fun x => (c :: x.1, x.2)

def unescape? (quote : Char) (c : Char) : Option Char :=
  if c = '\\' ∨ c = '\'' then some c
  else if quote = '\'' then none
  else match c with
    | '"' => some '"'
    | 'a' => some '\x07'
    | 'b' => some '\x08'
    | 'f' => some '\x0c'
    | 'n' => some '\n'
    | 'r' => some '\r'
    | 't' => some '\t'
    | 'v' => some '\x0b'
    | _ => none

def unescape (quote : Char) : List Char → List Char
  | '\\' :: c :: r =>
    match unescape? quote c with
    | some d => d :: unescape quote r
    | none => '\\' :: unescape quote (c :: r)
  | c :: r => c :: unescape quote r
  | [] => []

def quoted? (quote : Char) (s : List Char) : Option (String × List Char) :=
  (untilQuote quote s).map fun x => (String.ofList (unescape quote x.1), x.2)

def beforeComment : List Char → List Char
  | c :: d :: r => if isBlank c && d = '#' then [] else c :: beforeComment (d :: r)
  | s => s

def bare (s : List Char) : String × List Char :=
  (String.ofList (Text.Blank.trimChars isBlank (beforeComment (s.takeWhile (· != newline)))),
    s.dropWhile (· != newline))

/-- The value behind an equals sign. Blanks in front of it are no part of it, but a comment may
start behind them. -/
def value? (s : List Char) : Option (String × List Char) :=
  match skipInline s with
  | '\'' :: r => quoted? '\'' r
  | '"' :: r => quoted? '"' r
  | _ => some (bare s)

def lineEnd? (s : List Char) : Option (List Char) :=
  match skipInline s with
  | '#' :: r => some (restOfLine r)
  | c :: r => if c = newline then some r else none
  | [] => some []

def binding (s : List Char) : Option Binding × List Char :=
  let s := skipExport s
  match name? s with
  | none => (none, restOfLine s)
  | some (name, r) =>
    let close (value : Option String) (rest : List Char) : Option Binding × List Char :=
      match lineEnd? rest with
      | some rest => (name.map (·, value), rest)
      | none => (none, restOfLine rest)
    match skipInline r with
    | '=' :: r =>
      match value? r with
      | some (v, rest) => close (some v) rest
      | none => (none, restOfLine r)
    | r => close none r

/-- All bindings. A binding leaves less to read; where nothing is left to read, this ends. -/
def bindings (s : List Char) : List Binding :=
  let x := binding (s.dropWhile isBlank)
  if x.2.length < s.length then x.1.toList ++ bindings x.2 else x.1.toList
termination_by s.length

def reference? : List Char → Option (String × String × Nat)
  | '\x7b' :: r =>
    let name := r.takeWhile fun c => c != '\x7d' && c != ':'
    match r.drop name.length with
    | '\x7d' :: _ => some (String.ofList name, "", name.length + 2)
    | ':' :: '-' :: d =>
      let default := d.takeWhile (· != '\x7d')
      match d.drop default.length with
      | _ :: _ => some (String.ofList name, String.ofList default, name.length + default.length + 4)
      | [] => none
    | _ => none
  | _ => none

/-- Replaces references by values; `skip` characters belong to a reference that was replaced. -/
def resolve (value? : String → Option String) (skip : Nat) : List Char → List Char
  | [] => []
  | c :: r =>
    match skip with
    | skip + 1 => resolve value? skip r
    | 0 =>
      match if c = '$' then reference? r else none with
      | some (name, default, length) =>
        ((value? name).getD default).toList ++ resolve value? length r
      | none => c :: resolve value? 0 r

/-- What a name means below these bindings. A name that stands alone means empty text. -/
def meaning? (environment : Table String String) (above : Table String (Option String))
    (name : String) : Option String :=
  match above.get? name with
  | some value => some (value.getD "")
  | none => environment.get? name

def bind (environment : Table String String) (above : Table String (Option String)) (b : Binding) :
    Table String (Option String) :=
  above.put b.1 (b.2.map fun v =>
    String.ofList (resolve (meaning? environment above) 0 v.toList))

def withoutMark : List Char → List Char
  | '\ufeff' :: r => r
  | s => s

def read (environment : List (String × String)) (file : String) : Table String (Option String) :=
  let s := "\n".intercalate (Text.Blank.fileLines file)
  (bindings (withoutMark s.toList)).foldl (bind environment) []

end ThreadTrace.SettingsFile
