import ScanAdapter.Proofs.Text.Quoted
import ScanAdapter.Proofs.Trivy.Report

/-!
# Remarks upon severities

A word that Trivy does not use comes from outside, and may be any text. The remark upon it is nonetheless one line
of printable characters, and says which word it was: the word can be read out of it, so no two words are remarked
upon alike (`Trivy.severityWarnings_unambiguous`), nor do two rows of findings leave the same remarks unless the
same words in the same order are unknown in them (`Trivy.unknownWords_eq_of_warnings`).
-/
namespace ScanAdapter.Trivy

/-! ## One word -/

theorem unknownSeverity_message (word : String) :
    (unknownSeverity word).message = "Unknown trivy severity: " ++ Text.quoted word := by
  unfold unknownSeverity
  rfl

theorem isOneLine_unknownSeverity (word : String) : Text.IsOneLine (unknownSeverity word).message.toList := by
  have hascii : ∀ c ∈ "Unknown trivy severity: ".toList, 0x20 ≤ c.toNat ∧ c.toNat < 0x7F := by simp
  rw [unknownSeverity_message, String.toList_append, Text.toList_quoted, Text.isOneLine_append]
  refine ⟨Text.isOneLine_iff.2 fun c hc => ?_, Text.isOneLine_quotedChars word.toList⟩
  exact Text.isPrintable_of_ascii (hascii c hc).1 (hascii c hc).2

theorem unknownSeverity_injective {word other : String}
    (h : (unknownSeverity word).message = (unknownSeverity other).message) : word = other := by
  rw [unknownSeverity_message, unknownSeverity_message, String.append_right_inj] at h
  exact Text.quoted_injective h

/-! ## All words of a report -/

/-- The words of findings that Trivy does not use, in order. -/
def unknownWords (vs : List Vulnerability) : List String :=
  (vs.filter fun v => ¬ IsKnown v.severity).map (·.severity)

theorem warnings_eq_map (vs : List Vulnerability) : warnings vs = (unknownWords vs).map unknownSeverity := by
  rw [warnings_eq, unknownWords, List.map_map]
  rfl

/-- The remarks upon findings say which words were unknown. -/
theorem unknownWords_eq_of_warnings {vs ws : List Vulnerability}
    (h : (warnings vs).map (·.message) = (warnings ws).map (·.message)) : unknownWords vs = unknownWords ws := by
  rw [warnings_eq_map, warnings_eq_map, List.map_map, List.map_map] at h
  exact List.map_injective_iff.2 (fun _ _ => unknownSeverity_injective) h

/-- **A word that is none of Trivy's is taken for the unknown severity and remarked upon once, as a warning, on one
line of printable characters out of which the word is read back: no other word is remarked upon so. A word of Trivy's
stands for its severity and is not remarked upon.** -/
theorem severityWarnings_unambiguous (word : String) :
    (¬ IsKnown word → severityOf word = .unknown ∧ ∃ remark, severityWarnings word = [remark] ∧
      remark.level = .warning ∧ Text.IsOneLine remark.message.toList ∧
      (∃ shown, remark.message = "Unknown trivy severity: " ++ shown ∧
        Text.readQuoted? shown.toList = some (word.toList, [])) ∧
      ∀ other, ¬ IsKnown other → ∀ remark', severityWarnings other = [remark'] → remark'.message = remark.message →
        other = word) ∧
    (IsKnown word → (word, severityOf word) ∈ severities ∧ severityWarnings word = []) := by
  constructor
  · intro h
    refine ⟨severityOf_of_unknown h, unknownSeverity word, severityWarnings_of_unknown h, rfl,
      isOneLine_unknownSeverity word, ?_, ?_⟩
    · exact ⟨Text.quoted word, unknownSeverity_message word, Text.readQuoted?_quoted word⟩
    · intro other hother remark' hremark' hmessage
      rw [severityWarnings_of_unknown hother, List.singleton_inj] at hremark'
      subst hremark'
      exact unknownSeverity_injective hmessage
  · intro h
    refine ⟨?_, severityWarnings_of_known h⟩
    obtain ⟨⟨name, severity⟩, hmem, rfl⟩ := List.mem_map.1 h
    rwa [severityOf_of_mem hmem]

/-- A line break is remarked upon otherwise than a backslash and an n, and neither breaks the line. -/
theorem severityWarnings_unambiguous_newline :
    (∃ remark, severityWarnings "\n" = [remark] ∧ Text.IsOneLine remark.message.toList ∧
      ∀ remark', severityWarnings "\\n" = [remark'] → remark'.message ≠ remark.message) ∧
    severityOf "\n" = .unknown ∧ severityWarnings "HIGH" = [] := by
  obtain ⟨hunknown, -⟩ := severityWarnings_unambiguous "\n"
  obtain ⟨hseverity, remark, hremark, -, hline, -, hother⟩ := hunknown (by decide)
  refine ⟨⟨remark, hremark, hline, fun remark' hremark' hsame => ?_⟩, hseverity, ?_⟩
  · have heq : "\\n" = "\n" := hother "\\n" (by decide) remark' hremark' hsame
    exact absurd heq (by decide)
  · exact ((severityWarnings_unambiguous "HIGH").2 (by decide)).2

end ScanAdapter.Trivy
