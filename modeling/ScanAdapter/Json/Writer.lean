import ScanAdapter.Json.Value
import ScanAdapter.Number.Shortest
import ScanAdapter.Text.Quoted

/-!
# Writing JSON

The compact text of a value: no blanks, members in their order, everything but quotes, backslashes
and control characters as it is. What has no JSON text stops the writing: a foreign value, and a
value nested deeper than the writer follows.
-/
namespace ScanAdapter.Json

/-! ## Text -/

/-- One character inside a JSON string. -/
def escapeChar (c : Char) : List Char :=
  if c = '"' then ['\\', '"']
  else if c = '\\' then ['\\', '\\']
  else if c = '\n' then ['\\', 'n']
  else if c = '\r' then ['\\', 'r']
  else if c = '\t' then ['\\', 't']
  else if c = '\x08' then ['\\', 'b']
  else if c = '\x0c' then ['\\', 'f']
  else if c.toNat < 0x20 then '\\' :: 'u' :: Text.hexPadded 4 c.toNat
  else [c]

def renderString (s : String) : List Char := '"' :: (s.toList.flatMap escapeChar ++ ['"'])

mutual

def renderChars : Json → List Char
  | .null => "null".toList
  | .bool true => "true".toList
  | .bool false => "false".toList
  | .number n => Layout.json.number n
  | .string s => renderString s
  | .array [] => ['[', ']']
  | .array (v :: vs) => '[' :: (renderChars v ++ renderItems vs)
  | .object [] => ['\x7b', '\x7d']
  | .object ((n, v) :: ms) => '\x7b' :: (renderString n ++ ':' :: (renderChars v ++ renderMembers ms))
  | .foreign _ => "null".toList

/-- The items after the first, and the closing bracket. -/
def renderItems : List Json → List Char
  | [] => [']']
  | v :: vs => ',' :: (renderChars v ++ renderItems vs)

/-- The members after the first, and the closing brace. -/
def renderMembers : List (String × Json) → List Char
  | [] => ['\x7d']
  | (n, v) :: ms => ',' :: (renderString n ++ ':' :: (renderChars v ++ renderMembers ms))

end

/-- The compact text of a value. -/
def render (v : Json) : String := String.ofList v.renderChars

/-! ## What cannot be written -/

/-- Why a value has no JSON text. -/
inductive WriteFault
  | tooDeep
  | foreign (typeName : String)
  deriving DecidableEq, Repr

def WriteFault.message : WriteFault → String
  | .tooDeep => "Error serializing to JSON: ValueError: Maximum serialization depth exceeded"
  | .foreign typeName => s!"Unable to serialize unknown type: <class '{typeName}'>"

/-- How many levels of a free-form value the writer follows, the innermost value included. The object that
holds the values is not one of them. -/
def writeDepth : Nat := 255

mutual

/-- The first obstacle to writing a value that may have `levels` levels. -/
def fault? : (levels : Nat) → Json → Option WriteFault
  | 0, _ => some .tooDeep
  | levels + 1, .array vs => faultInItems? levels vs
  | levels + 1, .object ms => faultInMembers? levels ms
  | _ + 1, .foreign typeName => some (.foreign typeName)
  | _ + 1, _ => none

def faultInItems? : (levels : Nat) → List Json → Option WriteFault
  | _, [] => none
  | levels, v :: vs => (fault? levels v).or (faultInItems? levels vs)

def faultInMembers? : (levels : Nat) → List (String × Json) → Option WriteFault
  | _, [] => none
  | levels, (_, v) :: ms => (fault? levels v).or (faultInMembers? levels ms)

end

/-! ## Values in messages

In a message a value is shown in literal form: texts quoted, items and members after a comma and a blank, and the
words `None`, `True` and `False`. -/

mutual

def literalChars : Json → List Char
  | .null => "None".toList
  | .bool true => "True".toList
  | .bool false => "False".toList
  | .number n => Layout.message.number n
  | .string s => Text.quotedChars s.toList
  | .array [] => ['[', ']']
  | .array (v :: vs) => '[' :: (literalChars v ++ literalItems vs)
  | .object [] => ['\x7b', '\x7d']
  | .object ((n, v) :: ms) =>
    '\x7b' :: (Text.quotedChars n.toList ++ ':' :: ' ' :: (literalChars v ++ literalMembers ms))
  | .foreign typeName => '<' :: (typeName.toList ++ ['>'])

def literalItems : List Json → List Char
  | [] => [']']
  | v :: vs => ',' :: ' ' :: (literalChars v ++ literalItems vs)

def literalMembers : List (String × Json) → List Char
  | [] => ['\x7d']
  | (n, v) :: ms =>
    ',' :: ' ' :: (Text.quotedChars n.toList ++ ':' :: ' ' :: (literalChars v ++ literalMembers ms))

end

/-- A value in literal form. -/
def literal (v : Json) : String := String.ofList v.literalChars

/-- The name of a value's type in messages. -/
def typeName : Json → String
  | .null => "NoneType"
  | .bool _ => "bool"
  | .number (.int _) => "int"
  | .number (.float _) => "float"
  | .string _ => "str"
  | .array _ => "list"
  | .object _ => "dict"
  | .foreign typeName => typeName

end ScanAdapter.Json
