import ScanAdapter.Json.Value

/-!
# Reading JSON

A text is read as one JSON value with nothing but blanks around it. Beyond the standard the words
`NaN`, `Infinity` and `-Infinity` are numbers. A number with a point or an exponent is floating, any
other is an integer. Nesting is followed to a given depth only.

Each reader takes the text before it and answers with what it read and the text after it; a refusal
says how much of the text was left at the place of the fault.
-/
namespace ScanAdapter.Json

/-! ## Faults -/

inductive SyntaxError
  | endInArray
  | endInObject
  | endInString
  | endInValue
  | expectedColon
  | expectedCommaInArray
  | expectedCommaInObject
  | expectedWord
  | expectedValue
  | invalidEscape
  | invalidNumber
  | numberTooLong
  | controlCharacter
  | keyNotString
  | loneSurrogate
  | trailingComma
  | trailingText
  | tooDeep
  deriving DecidableEq, Repr

def SyntaxError.message : SyntaxError → String
  | .endInArray => "EOF while parsing a list"
  | .endInObject => "EOF while parsing an object"
  | .endInString => "EOF while parsing a string"
  | .endInValue => "EOF while parsing a value"
  | .expectedColon => "expected `:`"
  | .expectedCommaInArray => "expected `,` or `]`"
  | .expectedCommaInObject => "expected `,` or `\x7d`"
  | .expectedWord => "expected ident"
  | .expectedValue => "expected value"
  | .invalidEscape => "invalid escape"
  | .invalidNumber => "invalid number"
  | .numberTooLong => "number out of range"
  | .controlCharacter => "control character (\\u0000-\\u001F) found while parsing a string"
  | .keyNotString => "key must be a string"
  | .loneSurrogate => "lone leading surrogate in hex escape"
  | .trailingComma => "trailing comma"
  | .trailingText => "trailing characters"
  | .tooDeep => "recursion limit exceeded"

/-- A fault, and how many characters of the text were left at it. -/
structure ReadFault where
  error : SyntaxError
  left : Nat
  deriving DecidableEq, Repr

abbrev Reading (α : Type) := Except ReadFault (α × List Char)

def refuse {α : Type} (error : SyntaxError) (rest : List Char) : Reading α := .error ⟨error, rest.length⟩

/-! ## Blanks and words -/

def isSpace (c : Char) : Bool := c == ' ' || c == '\n' || c == '\t' || c == '\r'

def skipSpace (cs : List Char) : List Char := cs.dropWhile isSpace

/-- The given word, which stands for `value`. -/
def readWord (value : Json) : (word cs : List Char) → Reading Json
  | [], cs => .ok (value, cs)
  | _ :: _, [] => refuse .endInValue []
  | w :: word, c :: cs => if w = c then readWord value word cs else refuse .expectedWord (c :: cs)

/-! ## Strings -/

/-- The number that four hexadecimal digits stand for. -/
def hexFour? (a b c d : Char) : Option Nat :=
  match Text.hexValue? a, Text.hexValue? b, Text.hexValue? c, Text.hexValue? d with
  | some a, some b, some c, some d => some (((a * 16 + b) * 16 + c) * 16 + d)
  | _, _, _, _ => none

def isHighSurrogate (n : Nat) : Bool := 0xD800 ≤ n && n < 0xDC00

def isLowSurrogate (n : Nat) : Bool := 0xDC00 ≤ n && n < 0xE000

/-- The scalar that a pair of surrogates stands for. -/
def surrogatePair (high low : Nat) : Char :=
  Char.ofNat (0x10000 + (high - 0xD800) * 0x400 + (low - 0xDC00))

/-- The character that a backslash and this letter stand for. -/
def shortEscape? (c : Char) : Option Char :=
  if c = '"' ∨ c = '\\' ∨ c = '/' then some c
  else if c = 'b' then some '\x08'
  else if c = 'f' then some '\x0c'
  else if c = 'n' then some '\n'
  else if c = 'r' then some '\r'
  else if c = 't' then some '\t'
  else none

/-- The rest of a string, after its opening quote; `read` holds the characters so far, last first. -/
def readString (read : List Char) : List Char → Reading String
  | [] => refuse .endInString []
  | '"' :: rest => .ok (String.ofList read.reverse, rest)
  | '\\' :: 'u' :: a :: b :: c :: d :: rest =>
    match hexFour? a b c d with
    | none => refuse .invalidEscape (a :: b :: c :: d :: rest)
    | some n =>
      if isHighSurrogate n then
        match rest with
        | '\\' :: 'u' :: e :: f :: g :: h :: rest =>
          match hexFour? e f g h with
          | some m =>
            if isLowSurrogate m then readString (surrogatePair n m :: read) rest
            else refuse .loneSurrogate rest
          | none => refuse .invalidEscape (e :: f :: g :: h :: rest)
        | rest => refuse .loneSurrogate rest
      else if isLowSurrogate n then refuse .loneSurrogate rest
      else readString (Char.ofNat n :: read) rest
  | '\\' :: c :: rest =>
    match shortEscape? c with
    | some e => readString (e :: read) rest
    | none => refuse .invalidEscape (c :: rest)
  | c :: rest =>
    if c.toNat < 0x20 then refuse .controlCharacter (c :: rest)
    else if c = '\\' then refuse .endInString rest
    else readString (c :: read) rest

/-! ## Numbers -/

/-- Digits, at least one. -/
def readDigits (cs : List Char) : Reading (List Char) :=
  match Text.splitDigits cs with
  | ([], []) => refuse .endInValue []
  | ([], rest) => refuse .invalidNumber rest
  | (ds, rest) => .ok (ds, rest)

/-- The whole part of a number: no zero leads another digit. -/
def readWhole (cs : List Char) : Reading (List Char) :=
  match readDigits cs with
  | .ok ('0' :: d :: ds, rest) => refuse .invalidNumber (d :: ds ++ rest)
  | r => r

/-- The digits after a point, if there is a point. -/
def readPart : List Char → Reading (Option (List Char))
  | '.' :: rest =>
    match readDigits rest with
    | .ok (ds, rest) => .ok (some ds, rest)
    | .error fault => .error fault
  | rest => .ok (none, rest)

/-- The exponent, if there is one. -/
def readExponent : List Char → Reading (Option Int)
  | c :: rest =>
    if c = 'e' ∨ c = 'E' then
      let (negative, rest) := match rest with
        | '-' :: rest => (true, rest)
        | '+' :: rest => (false, rest)
        | rest => (false, rest)
      match readDigits rest with
      | .ok (ds, rest) =>
        .ok (some (if negative then -(Text.valueOf ds : Nat) else (Text.valueOf ds : Nat)), rest)
      | .error fault => .error fault
    else .ok (none, c :: rest)
  | [] => .ok (none, [])

/-- A number from its parts. -/
def numberOf (negative : Bool) (whole : List Char) (part : Option (List Char)) (exponent : Option Int) :
    Number :=
  match part, exponent with
  | none, none => .int (if negative then -(Text.valueOf whole : Nat) else (Text.valueOf whole : Nat))
  | part, exponent =>
    let part := part.getD []
    .float (.ofDecimal negative (Text.valueOf (whole ++ part)) (exponent.getD 0 - part.length))

/-- A number after its minus sign, if it has one. Its whole part has no more digits than an integer may
have. -/
def readNumber (negative : Bool) (cs : List Char) : Reading Json :=
  match readWhole cs with
  | .error fault => .error fault
  | .ok (whole, rest) =>
    if Number.maxDigits < whole.length then refuse .numberTooLong (cs.drop (Number.maxDigits + 1))
    else
      match readPart rest with
      | .error fault => .error fault
      | .ok (part, rest) =>
        match readExponent rest with
        | .error fault => .error fault
        | .ok (exponent, rest) => .ok (.number (numberOf negative whole part exponent), rest)

/-! ## Values -/

mutual

/-- A value, with nothing before it. `fuel` bounds the steps (the length of the text is enough),
`depth` the levels of arrays and objects. -/
def readValue : (fuel depth : Nat) → List Char → Reading Json
  | 0, _, cs => refuse .tooDeep cs
  | _ + 1, _, [] => refuse .endInValue []
  | fuel + 1, depth, c :: rest =>
    if c = '"' then
      match readString [] rest with
      | .ok (s, rest) => .ok (.string s, rest)
      | .error fault => .error fault
    else if c = '[' then
      match depth with
      | 0 => refuse .tooDeep (c :: rest)
      | depth + 1 =>
        match skipSpace rest with
        | [] => refuse .endInArray []
        | ']' :: rest => .ok (.array [], rest)
        | rest => readItems fuel depth [] rest
    else if c = '\x7b' then
      match depth with
      | 0 => refuse .tooDeep (c :: rest)
      | depth + 1 =>
        match skipSpace rest with
        | [] => refuse .endInObject []
        | '\x7d' :: rest => .ok (.object [], rest)
        | rest => readMembers fuel depth [] rest
    else if c = 't' then readWord (.bool true) "true".toList (c :: rest)
    else if c = 'f' then readWord (.bool false) "false".toList (c :: rest)
    else if c = 'n' then readWord .null "null".toList (c :: rest)
    else if c = 'N' then readWord (.float .nan) "NaN".toList (c :: rest)
    else if c = 'I' then readWord (.float (.infinite false)) "Infinity".toList (c :: rest)
    else if c = '-' then
      match rest with
      | 'I' :: _ => readWord (.float (.infinite true)) "Infinity".toList rest
      | rest => readNumber true rest
    else if c.isDigit then readNumber false (c :: rest)
    else refuse .expectedValue (c :: rest)

/-- The items of an array from one of them on; `read` holds those before it, last first. -/
def readItems : (fuel depth : Nat) → (read : List Json) → List Char → Reading Json
  | 0, _, _, cs => refuse .tooDeep cs
  | fuel + 1, depth, read, cs =>
    match readValue fuel depth cs with
    | .error fault => .error fault
    | .ok (v, rest) =>
      match skipSpace rest with
      | [] => refuse .endInArray []
      | ']' :: rest => .ok (.array (v :: read).reverse, rest)
      | ',' :: rest =>
        match skipSpace rest with
        | ']' :: rest => refuse .trailingComma (']' :: rest)
        | rest => readItems fuel depth (v :: read) rest
      | rest => refuse .expectedCommaInArray rest

/-- The members of an object from one of them on; `read` holds those before it, last first. -/
def readMembers : (fuel depth : Nat) → (read : Members) → List Char → Reading Json
  | 0, _, _, cs => refuse .tooDeep cs
  | fuel + 1, depth, read, cs =>
    match cs with
    | '"' :: rest =>
      match readString [] rest with
      | .error fault => .error fault
      | .ok (name, rest) =>
        match skipSpace rest with
        | [] => refuse .endInObject []
        | ':' :: rest =>
          match readValue fuel depth (skipSpace rest) with
          | .error fault => .error fault
          | .ok (v, rest) =>
            match skipSpace rest with
            | [] => refuse .endInObject []
            | '\x7d' :: rest => .ok (.object (Entries.gather ((name, v) :: read).reverse), rest)
            | ',' :: rest =>
              match skipSpace rest with
              | [] => refuse .endInValue []
              | '\x7d' :: rest => refuse .trailingComma ('\x7d' :: rest)
              | rest => readMembers fuel depth ((name, v) :: read) rest
            | rest => refuse .expectedCommaInObject rest
        | rest => refuse .expectedColon rest
    | rest => refuse .keyNotString rest

end

/-- How many levels of arrays and objects a stored record may have. -/
def readDepth : Nat := 200

/-- The value that a whole text stands for. -/
def parse (depth : Nat) (cs : List Char) : Except ReadFault Json :=
  match readValue (cs.length + 1) depth (skipSpace cs) with
  | .error fault => .error fault
  | .ok (v, rest) =>
    match skipSpace rest with
    | [] => .ok v
    | rest => .error ⟨.trailingText, rest.length⟩

/-! ## The place of a fault -/

/-- The line of a place and its column in it, both from one on. Columns count bytes, and at the end
of the text the column is that of the last byte. -/
def place (cs : List Char) (left : Nat) : Nat × Nat :=
  let before := cs.take (cs.length - left)
  let line := before.reverse.takeWhile (· != '\n')
  let lines := before.count '\n'
  let bytes := line.foldl (fun n c => n + c.utf8Size) 0
  (lines + 1, if left = 0 then bytes else bytes + 1)

/-- The fault in a text, with its place. -/
def ReadFault.message (cs : List Char) (f : ReadFault) : String :=
  let (line, column) := place cs f.left
  s!"{f.error.message} at line {line} column {column}"

end ScanAdapter.Json
