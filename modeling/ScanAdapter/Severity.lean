import ScanAdapter.Text.Basic
import ScanAdapter.Text.Case

/-!
# Severities

The five grades of a finding, from unknown to critical, their labels, and the highest of a row of them.
A row is looked at only as far as it takes to know its highest grade.

| here | there |
| --- | --- |
| `Severity`, `label` | `Severity`, `label` |
| `ofLabel?`, `unknownLabel` | `from_label`, and the message of its error |
| `highestOf` | the loop of `highest_severity`, and what it leaves of the iterable |
| `highest` | `highest_severity` of a list |
-/
namespace ScanAdapter

inductive Severity
  | unknown
  | low
  | medium
  | high
  | critical
  deriving DecidableEq, Repr

namespace Severity

/-- From the least severe to the most. -/
def all : List Severity := [unknown, low, medium, high, critical]

theorem mem_all (v : Severity) : v ∈ all := by cases v <;> simp [all]

def rank : Severity → Nat
  | unknown => 0
  | low => 1
  | medium => 2
  | high => 3
  | critical => 4

theorem rank_injective {v w : Severity} (h : v.rank = w.rank) : v = w := by
  cases v <;> cases w <;> simp_all [rank]

def ofRank? (n : Int) : Option Severity := all.find? fun v => (v.rank : Int) == n

theorem ofRank?_rank (v : Severity) : ofRank? v.rank = some v := by cases v <;> decide

/-- The severity of a rank; a number that is no rank is refused as it is. -/
def ofRank (n : Int) : Except Int Severity :=
  match ofRank? n with
  | some v => .ok v
  | none => .error n

def notRank (n : Int) : String := s!"{String.ofList (Text.integer n)} is not a valid Severity"

/-! ## Labels -/

def label : Severity → String
  | unknown => "Unknown"
  | low => "Low"
  | medium => "Medium"
  | high => "High"
  | critical => "Critical"

/-- The label in capitals. -/
def name : Severity → String
  | unknown => "UNKNOWN"
  | low => "LOW"
  | medium => "MEDIUM"
  | high => "HIGH"
  | critical => "CRITICAL"

/-- The severity that a label names, whatever the case of its letters. -/
def ofLabel? (s : String) : Option Severity := all.find? fun v => v.name == Text.upper s

def unknownLabel (s : String) : String := s!"Unknown severity label: {s}"

/-! ## The highest of a row -/

/-- The highest of `sofar` and a row of items, each made a severity when its turn comes, and the items
that were not looked at: those after the first that raises the highest to critical. -/
def highestOf {α ε : Type} (convert : α → Except ε Severity) (sofar : Severity) :
    List α → Except ε (Severity × List α)
  | [] => .ok (sofar, [])
  | a :: rest =>
    match convert a with
    | .error e => .error e
    | .ok v =>
      if sofar.rank < v.rank then
        if v = critical then .ok (v, rest) else highestOf convert v rest
      else highestOf convert sofar rest

/-- The highest of a row, unknown if it is empty. -/
def highest (vs : List Severity) : Severity :=
  match highestOf (fun v => (.ok v : Except Empty Severity)) unknown vs with
  | .ok (v, _) => v
  | .error e => nomatch e

end Severity

end ScanAdapter
