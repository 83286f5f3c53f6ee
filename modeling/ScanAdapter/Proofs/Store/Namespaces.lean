import ScanAdapter.Store.Basic
import Mathlib.Data.List.Infix
import Mathlib.Logic.Function.Basic

/-!
# Namespaces

A key is a namespace, a separator and an identity, one after the other. Within one namespace the identity can be told
from the key. Two different namespaces have a key in common exactly if one of them, followed by a colon, begins with
the other and the separator (`JobStore.exists_keyFor_eq_iff`): the separator begins and ends with a colon and has none
between, so it overlaps itself by that colon and by no more.
-/
namespace ScanAdapter

namespace JobStore

/-- The separator after its first colon. -/
def afterColon : List Char := ['s', 'c', 'a', 'n', '-', 'j', 'o', 'b', ':']

/-- What stands between a namespace and an identity. -/
def separator : List Char := ':' :: afterColon

/-- Within the separator there is no colon. -/
theorem separator_getElem?_ne : ∀ k < 9, 0 < k → separator[k]? ≠ some ':' := by decide

theorem toList_keyFor (s : JobStore) (id : String) :
    (s.keyFor id).toList = s.storeNamespace.toList ++ (separator ++ id.toList) := by
  have hseparator : ":scan-job:".toList = separator := rfl
  change (s.storeNamespace ++ ":scan-job:" ++ id).toList = _
  rw [String.toList_append, String.toList_append, hseparator, List.append_assoc]

/-- Stores of one namespace have the same key for the same identity only. -/
theorem id_eq_of_keyFor_eq {s t : JobStore} {id id' : String} (hspace : s.storeNamespace = t.storeNamespace)
    (h : s.keyFor id = t.keyFor id') : id = id' := by
  have hchars := congrArg String.toList h
  rw [toList_keyFor, toList_keyFor, hspace, List.append_cancel_left_eq, List.append_cancel_left_eq] at hchars
  exact String.toList_injective hchars

theorem keyFor_injective (s : JobStore) : Function.Injective s.keyFor := fun _ _ h => id_eq_of_keyFor_eq rfl h

/-- The inner namespace and a colon begin with the outer namespace and the separator. -/
def Encloses (outer inner : String) : Prop := outer.toList ++ separator <+: inner.toList ++ [':']

instance (outer inner : String) : Decidable (Encloses outer inner) :=
  inferInstanceAs (Decidable (_ <+: _))

/-- A text that begins with the separator and has it again after a gap: the gap and a colon begin with it too. -/
theorem separator_isPrefix {gap rest rest' : List Char} (hgap : gap ≠ [])
    (h : separator ++ rest = gap ++ (separator ++ rest')) : separator <+: gap ++ [':'] := by
  have hcolon : gap ++ [':'] <+: separator ++ rest := by
    refine ⟨afterColon ++ rest', ?_⟩
    rw [h, separator, List.append_assoc]
    rfl
  rcases Nat.lt_or_ge gap.length 9 with hshort | hlong
  · -- a shorter gap would be followed by a colon within the separator
    have hget : (separator ++ rest)[gap.length]? = some ':' := by
      obtain ⟨tail, htail⟩ := hcolon
      rw [← htail]
      simp
    rw [List.getElem?_append_left (Nat.lt_succ_of_lt hshort)] at hget
    exact absurd hget (separator_getElem?_ne _ hshort (List.length_pos_of_ne_nil hgap))
  · refine List.prefix_of_prefix_length_le (List.prefix_append separator rest) hcolon ?_
    rw [List.length_append]
    exact Nat.succ_le_succ hlong

/-- Of two namespaces with a key in common the shorter one encloses the other. -/
theorem encloses_of_keyFor_eq {s t : JobStore} {id id' : String} (h : s.keyFor id = t.keyFor id')
    (hlength : s.storeNamespace.toList.length ≤ t.storeNamespace.toList.length)
    (hne : s.storeNamespace ≠ t.storeNamespace) :
    Encloses s.storeNamespace t.storeNamespace := by
  have hchars := congrArg String.toList h
  rw [toList_keyFor, toList_keyFor] at hchars
  obtain ⟨gap, hgap⟩ := List.prefix_of_prefix_length_le ⟨_, rfl⟩ ⟨_, hchars.symm⟩ hlength
  have hne' : gap ≠ [] := by
    rintro rfl
    rw [List.append_nil] at hgap
    exact hne (String.toList_injective hgap)
  rw [← hgap, List.append_assoc, List.append_cancel_left_eq] at hchars
  rw [Encloses, ← hgap, List.append_assoc, List.prefix_append_right_inj]
  exact separator_isPrefix hne' hchars

/-- An enclosing namespace has a key that the other has, for any of the identities there. -/
theorem exists_keyFor_eq_of_encloses {s t : JobStore} (h : Encloses s.storeNamespace t.storeNamespace) (id' : String) :
    ∃ id, s.keyFor id = t.keyFor id' := by
  obtain ⟨rest, hrest⟩ := h
  refine ⟨String.ofList (rest ++ (afterColon ++ id'.toList)), String.toList_injective ?_⟩
  rw [toList_keyFor, toList_keyFor, String.toList_ofList, ← List.append_assoc, ← List.append_assoc, hrest, List.append_assoc]
  rfl

/-- **Different namespaces have a key in common exactly if one of them encloses the other.** -/
theorem exists_keyFor_eq_iff {s t : JobStore} (hne : s.storeNamespace ≠ t.storeNamespace) :
    (∃ id id', s.keyFor id = t.keyFor id') ↔
      Encloses s.storeNamespace t.storeNamespace ∨ Encloses t.storeNamespace s.storeNamespace := by
  constructor
  · rintro ⟨id, id', h⟩
    rcases Nat.le_total s.storeNamespace.toList.length t.storeNamespace.toList.length with hlength | hlength
    · exact .inl (encloses_of_keyFor_eq h hlength hne)
    · exact .inr (encloses_of_keyFor_eq h.symm hlength hne.symm)
  · rintro (h | h)
    · obtain ⟨id, hid⟩ := exists_keyFor_eq_of_encloses h ""
      exact ⟨id, "", hid⟩
    · obtain ⟨id, hid⟩ := exists_keyFor_eq_of_encloses h ""
      exact ⟨"", id, hid.symm⟩

/-- The separator overlaps itself: a namespace that ends with it, less a colon, lies within another. -/
example : Encloses "harbor" "harbor:scan-job" ∧ ¬ Encloses "harbor" "harbor:scan" := by decide

end JobStore

end ScanAdapter
