import ScanAdapter.Entries
import ScanAdapter.Text.Basic

/-!
# Files of assignments

A file assigns values to names, one assignment a line: `NAME = value`. A line may begin with the word
`export`, and a `#` begins a comment. A value is bare, or between quotes of either kind, inside which it
may run over several lines. A name without a value takes back what was assigned to it. A line in any
other form is passed over.

A mark of the encoding (U+FEFF) at the very front is no part of the text.

A value may refer to others: `${NAME}` is what was assigned to the name before, else its value in the
environment, else nothing or what stands after `:-`.
-/
namespace ScanAdapter.EnvFile

/-- A name with its value, or with none. -/
abbrev Assignment := String × Option String

/-! ## Lines -/

/-- A text without the mark of the encoding at its front. -/
def dropMark : List Char → List Char
  | '\ufeff' :: rest => rest
  | cs => cs

/-- Line ends of all three kinds as one. -/
def unifyLineEnds : List Char → List Char
  | '\r' :: '\n' :: rest => '\n' :: unifyLineEnds rest
  | '\r' :: rest => '\n' :: unifyLineEnds rest
  | c :: rest => c :: unifyLineEnds rest
  | [] => []

/-- A blank that does not end the line. -/
def isGap (c : Char) : Bool := Text.isSpace c && c != '\n'

/-- The text after the line in which it starts. -/
def dropLine (cs : List Char) : List Char := (cs.dropWhile (· != '\n')).drop 1

/-- What a reader read and the text after it, or the text at which it gave up. -/
abbrev Reading (α : Type) := Except (List Char) (α × List Char)

/-- The end of a line, perhaps after a comment. -/
def endLine {α : Type} (read : α) (cs : List Char) : Reading α :=
  match cs.dropWhile isGap with
  | [] => .ok (read, [])
  | '\n' :: rest => .ok (read, rest)
  | '#' :: rest => .ok (read, dropLine rest)
  | _ => .error cs

/-! ## Names -/

/-- The text after the word `export` and the gap that must follow it. -/
def dropExport (cs : List Char) : List Char :=
  match cs with
  | 'e' :: 'x' :: 'p' :: 'o' :: 'r' :: 't' :: c :: rest => if isGap c then rest.dropWhile isGap else cs
  | _ => cs

def isNameChar (c : Char) : Bool := c != '=' && c != '#' && !Text.isSpace c

/-- A name, in single quotes perhaps; no name at a comment. -/
def readName (cs : List Char) : Reading (Option String) :=
  match cs with
  | '#' :: _ => .ok (none, cs)
  | '\'' :: rest =>
    match rest.span (· != '\'') with
    | (c :: name, _ :: rest) => .ok (some (String.ofList (c :: name)), rest)
    | _ => .error cs
  | _ =>
    match cs.span isNameChar with
    | ([], _) => .error cs
    | (name, rest) => .ok (some (String.ofList name), rest)

/-! ## Values -/

/-- The text up to the quote that closes it, and the text after that. A backslash and the character after it
belong together, so a quote after a backslash does not close. -/
def splitQuoted (quote : Char) : List Char → Option (List Char × List Char)
  | [] => none
  | '\\' :: c :: rest => (splitQuoted quote rest).map fun (value, after) => ('\\' :: c :: value, after)
  | c :: rest =>
    if c = quote then some ([], rest)
    else (splitQuoted quote rest).map fun (value, after) => (c :: value, after)

/-- What a backslash and this character stand for between single quotes. -/
def singleEscape? (c : Char) : Option Char := if c = '\\' ∨ c = '\'' then some c else none

/-- What a backslash and this character stand for between double quotes. -/
def doubleEscape? (c : Char) : Option Char :=
  if c = '\\' ∨ c = '\'' ∨ c = '"' then some c
  else if c = 'a' then some '\x07'
  else if c = 'b' then some '\x08'
  else if c = 'f' then some '\x0c'
  else if c = 'n' then some '\n'
  else if c = 'r' then some '\r'
  else if c = 't' then some '\t'
  else if c = 'v' then some '\x0b'
  else none

def unescape (escape? : Char → Option Char) : List Char → List Char
  | '\\' :: c :: rest =>
    match escape? c with
    | some e => e :: unescape escape? rest
    | none => '\\' :: unescape escape? (c :: rest)
  | c :: rest => c :: unescape escape? rest
  | [] => []

/-- A bare value without the comment that a gap and a `#` begin. -/
def dropComment : List Char → List Char
  | [] => []
  | c :: rest =>
    if Text.isSpace c && (rest.dropWhile Text.isSpace).head? == some '#' then [] else c :: dropComment rest

/-- A value. It begins with the line's next character that is not blank. -/
def readValue (cs : List Char) : Reading String :=
  match cs with
  | '\'' :: rest => quoted '\'' singleEscape? rest
  | '"' :: rest => quoted '"' doubleEscape? rest
  | _ =>
    let (line, rest) := cs.span (· != '\n')
    .ok (String.ofList (Text.trimEnd Text.isSpace (dropComment line)), rest)
where
  quoted (quote : Char) (escape? : Char → Option Char) (rest : List Char) : Reading String :=
    match splitQuoted quote rest with
    | some (value, after) => .ok (String.ofList (unescape escape? value), after)
    | none => .error cs

/-- What stands after the sign between name and value. A comment there leaves the value empty if a gap
comes before it. -/
def readAssigned (cs : List Char) : Reading String :=
  match cs.span isGap with
  | (_ :: _, '#' :: rest) => .ok ("", '#' :: rest)
  | (_, rest) => readValue rest

/-! ## Assignments -/

/-- An assignment, with no blank before it, to the end of its last line; none from a comment. -/
def readAssignment (cs : List Char) : Reading (Option Assignment) :=
  match readName (dropExport cs) with
  | .error rest => .error rest
  | .ok (name, rest) =>
    match rest.dropWhile isGap with
    | '=' :: rest =>
      match readAssigned rest with
      | .error rest => .error rest
      | .ok (value, rest) => endLine (name.map fun n => (n, some value)) rest
    | rest => endLine (name.map fun n => (n, none)) rest

/-- All assignments in their order. `fuel` bounds the lines; the length of the text is enough. -/
def readAll : (fuel : Nat) → List Char → List Assignment
  | 0, _ => []
  | fuel + 1, cs =>
    match cs.dropWhile Text.isSpace with
    | [] => []
    | cs =>
      match readAssignment cs with
      | .ok (some a, rest) => a :: readAll fuel rest
      | .ok (none, rest) => readAll fuel rest
      | .error rest => readAll fuel (dropLine rest)

/-! ## References -/

/-- A reference at the front of a text, after its `$` and brace: the name, what to put in its stead if
that has no value, and the text after the closing brace. -/
def readReference (cs : List Char) : Option (String × String × List Char) :=
  let (name, rest) := cs.span fun c => c != '\x7d' && c != ':'
  match rest with
  | '\x7d' :: rest => some (String.ofList name, "", rest)
  | ':' :: '-' :: rest =>
    match rest.span (· != '\x7d') with
    | (fallback, _ :: rest) => some (String.ofList name, String.ofList fallback, rest)
    | _ => none
  | _ => none

/-- A value with its references resolved by `look`. `fuel` bounds the steps. -/
def resolve (look : String → Option String) : (fuel : Nat) → List Char → List Char
  | 0, cs => cs
  | fuel + 1, cs =>
    match cs with
    | [] => []
    | '$' :: '\x7b' :: rest =>
      match readReference rest with
      | some (name, fallback, after) => ((look name).getD fallback).toList ++ resolve look fuel after
      | none => '$' :: resolve look fuel ('\x7b' :: rest)
    | c :: rest => c :: resolve look fuel rest

/-- The value of a name: the last assigned to it, nothing if that was taken back, else that of the
environment. `done` holds the assignments so far, last first. -/
def lookUp (environment : List (String × String)) (done : List Assignment) (name : String) :
    Option String :=
  match done.lookup name with
  | some value => some (value.getD "")
  | none => environment.lookup name

/-- Assignments with their references resolved in turn; `done` holds those before, last first. -/
def resolveAll (environment : List (String × String)) (done : List Assignment) :
    List Assignment → List Assignment
  | [] => done.reverse
  | (name, value) :: rest =>
    let resolved := value.map fun v =>
      String.ofList (resolve (lookUp environment done) (v.length + 1) v.toList)
    resolveAll environment ((name, resolved) :: done) rest

/-- What a file assigns: for each name, at the place of its first assignment, the value of its last. -/
def assignments (environment : List (String × String)) (text : String) : Entries (Option String) :=
  let cs := unifyLineEnds (dropMark text.toList)
  Entries.gather (resolveAll environment [] (readAll (cs.length + 1) cs))

end ScanAdapter.EnvFile
