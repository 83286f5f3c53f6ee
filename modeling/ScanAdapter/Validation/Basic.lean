import ScanAdapter.Json.Reader
import ScanAdapter.Text.Utf8
import ScanAdapter.Time.Moment

/-!
# Validation

Data from outside is checked field by field. A value is accepted, or refused with every defect found
in it: where it lies and what is wrong there. Parts are checked independently of one another, so the
defects of a whole are those of its parts in the order in which the parts are declared.
-/
namespace ScanAdapter

/-- One step from a value into it. -/
inductive PathPart
  | name (s : String)
  | index (n : Nat)
  deriving DecidableEq, Repr

/-- What is wrong with a value. -/
inductive Cause
  | missing
  | notText
  | notList
  | notObject
  /-- The value of a model must be an object. -/
  | notModel (model : String)
  | notListed (expected : String)
  | notNumber
  | unreadableNumber
  | notInteger
  | unreadableInteger
  | integerTooLarge
  | fractionalInteger
  | notFinite
  | notMoment
  | momentOutOfRange (complaint : String)
  | unreadableMoment (complaint : String)
  | notDuration
  | unreadableDuration
  /-- The value makes a span of too many days. -/
  | tooManyDays (days : Int)
  | belowLeast (least : String)
  | notAbove (bound : String)
  | rejected (reason : String)
  | notJson (complaint : String)
  deriving DecidableEq, Repr

structure Defect where
  path : List PathPart
  cause : Cause
  deriving DecidableEq, Repr

inductive Validated (α : Type)
  | accepted (value : α)
  | refused (defects : List Defect)
  deriving Repr

namespace Validated

variable {α β : Type}

def map (f : α → β) : Validated α → Validated β
  | accepted a => accepted (f a)
  | refused ds => refused ds

/-- Both parts are checked; the defects of the first come first. -/
def ap : Validated (α → β) → Validated α → Validated β
  | accepted f, accepted a => accepted (f a)
  | accepted _, refused ds => refused ds
  | refused ds, accepted _ => refused ds
  | refused ds, refused es => refused (ds ++ es)

instance : Applicative Validated where
  pure := accepted
  map := map
  seq f x := ap f (x ())

/-- The second check is made on what the first accepted. -/
def andThen (x : Validated α) (f : α → Validated β) : Validated β :=
  match x with
  | accepted a => f a
  | refused ds => refused ds

/-- The defects of a part, seen from the whole. -/
def under (part : PathPart) : Validated α → Validated α
  | accepted a => accepted a
  | refused ds => refused (ds.map fun d => { d with path := part :: d.path })

def defects : Validated α → List Defect
  | accepted _ => []
  | refused ds => ds

/-- The value, or the defects as a failure. -/
def toExcept : Validated α → Except (List Defect) α
  | accepted a => .ok a
  | refused ds => .error ds

/-- A single defect at the value itself. -/
def refuse (cause : Cause) : Validated α := refused [⟨[], cause⟩]

@[simp] theorem map_eq (f : α → β) (x : Validated α) : f <$> x = x.map f := rfl

@[simp] theorem seq_eq (f : Validated (α → β)) (x : Validated α) : (f <*> x) = f.ap x := rfl

theorem defects_ap (f : Validated (α → β)) (x : Validated α) :
    (f.ap x).defects = f.defects ++ x.defects := by
  cases f <;> cases x <;> simp [ap, defects]

theorem defects_under (part : PathPart) (x : Validated α) :
    (x.under part).defects = x.defects.map fun d => { d with path := part :: d.path } := by
  cases x <;> simp [under, defects]

end Validated

/-! ## Fields -/

/-- The names under which a field is accepted. -/
structure FieldName where
  /-- The field's own name. -/
  own : String
  /-- The name in the data, where that is a different one. -/
  wire : Option String
  deriving DecidableEq, Repr

namespace FieldName

def plain (own : String) : FieldName := ⟨own, none⟩

def aliased (own wire : String) : FieldName := ⟨own, some wire⟩

/-- The member that gives a field its value, with the name it was found under. The name in the data
wins over the field's own. -/
def find? (f : FieldName) (ms : Members) : Option (String × Json) :=
  let own := (ms.get? f.own).map fun v => (f.own, v)
  match f.wire with
  | none => own
  | some wire => ((ms.get? wire).map fun v => (wire, v)).or own

variable {α : Type}

/-- A field that must be there. -/
def required (f : FieldName) (read : Json → Validated α) (ms : Members) : Validated α :=
  match f.find? ms with
  | none => .refused [⟨[.name (f.wire.getD f.own)], .missing⟩]
  | some (name, v) => (read v).under (.name name)

/-- A field that has a value of its own when it is not there. -/
def orElse (f : FieldName) (default : α) (read : Json → Validated α) (ms : Members) : Validated α :=
  match f.find? ms with
  | none => .accepted default
  | some (name, v) => (read v).under (.name name)

end FieldName

namespace Validated

variable {α : Type}

/-- A model is read from an object by its fields; other members are ignored. -/
def model (name : String) (fields : Members → Validated α) : Json → Validated α
  | .object ms => fields ms
  | _ => refuse (.notModel name)

/-- Null, or a value. -/
def optional (read : Json → Validated α) : Json → Validated (Option α)
  | .null => accepted none
  | v => some <$> read v

/-- Items from the given index on. -/
def items (read : Json → Validated α) : (index : Nat) → List Json → Validated (List α)
  | _, [] => accepted []
  | index, v :: vs => List.cons <$> (read v).under (.index index) <*> items read (index + 1) vs

def list (read : Json → Validated α) : Json → Validated (List α)
  | .array vs => items read 0 vs
  | _ => refuse .notList

def members (read : Json → Validated α) : Members → Validated (List (String × α))
  | [] => accepted []
  | (name, v) :: ms =>
    List.cons <$> ((read v).under (.name name)).map (fun a => (name, a)) <*> members read ms

/-- An object whose members are all of one kind. -/
def mapOf (read : Json → Validated α) : Json → Validated (List (String × α))
  | .object ms => members read ms
  | _ => refuse .notObject

/-- An object of anything. -/
def freeForm : Json → Validated Members
  | .object ms => accepted ms
  | _ => refuse .notObject

/-- Only a string is a text. -/
def text : Json → Validated String
  | .string s => accepted s
  | _ => refuse .notText

/-! ## Texts of JSON -/

/-- A whole JSON text, read and then checked. -/
def ofJsonText (read : Json → Validated α) (s : String) : Validated α :=
  match Json.parse Json.readDepth s.toList with
  | .ok v => read v
  | .error fault => refuse (.notJson (fault.message s.toList))

/-- The bytes of a JSON text. -/
def ofJsonBytes (read : Json → Validated α) (bytes : List UInt8) : Validated α :=
  match Text.decodeUtf8 bytes with
  | .ok s => ofJsonText read s
  | .error fault => refuse (.notJson fault.message)

end Validated

end ScanAdapter
