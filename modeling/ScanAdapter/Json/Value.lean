import ScanAdapter.Entries
import ScanAdapter.Number.Binary64

/-!
# JSON values

Free-form data keeps what it was given: the order of an object's members, and whether a number was
written as an integer. An object is a list of members with distinct names; building one from members
that repeat a name keeps the place of the first and the value of the last.
-/
namespace ScanAdapter

inductive Json
  | null
  | bool (b : Bool)
  | number (n : Number)
  | string (s : String)
  | array (items : List Json)
  | object (members : List (String × Json))
  /-- A value from outside the data, of the named type: it can be held, and has no text. -/
  | foreign (typeName : String)
  deriving Repr

/-- The members of an object. -/
abbrev Members := Entries Json

namespace Json

def int (n : Int) : Json := .number (.int n)

def nat (n : Nat) : Json := .number (.int n)

def float (x : Binary64) : Json := .number (.float x)

/-- A text, or null. -/
def optionalString (s : Option String) : Json := (s.map .string).getD .null

end Json

end ScanAdapter
