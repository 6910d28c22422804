import CommitStyle.Proofs.Message.Footer
import CommitStyle.Proofs.Rule.Misuse

/-!
# One footer for all rules

The start of the footer is looked for in three ways : by the cut that gives the footer lines, by the
walk of the rule on misplaced notes, which keeps a flag and stops early, and by the rule on the line
above the footer. All three find the first footer note (`Rule.footer_scans_agree`), so the rules
speak about the same footer, whatever notes, prose and empty lines a body is made of.
-/

namespace CommitStyle.Rule

open Message

/-- The footer is an end of the body that is empty or begins with a footer note, and no line above
it is one. The rule on misplaced notes passes if every line of the footer that is not empty is a
note. The rule on the line above the footer fails if there is a footer with a line right above it
that is not blank. -/
theorem footer_scans_agree (o : Options) (m : Message) :
    (∃ above, CutAtNote m.bodyLines above m.footerLines) ∧
    (∃ v, check .footerNotesMisplacement o m = .ok v ∧
      (v.passed = true ↔ ∀ l ∈ m.footerLines, l.text ≠ [] → l.isFooterNote = true)) ∧
    ∃ v, check .footerLeadingBlank o m = .ok v ∧
      (v.passed = false ↔ m.footerLines ≠ [] ∧
        ∃ front l, m.bodyLines = front ++ l :: m.footerLines ∧ l.text.isBlank = false) := by
  refine ⟨⟨_, m.cutAtNote_footerLines⟩, ?_, ?_⟩
  · obtain ⟨v, hv, hpassed⟩ := exists_verdict (r := .footerNotesMisplacement) (o := o) (m := m) rfl
    refine ⟨v, hv, ?_⟩
    rw [← Bool.not_eq_false, hpassed, Bool.not_eq_true]
    exact not_hasMisplacedNote_iff
  · obtain ⟨v, hv, hpassed⟩ := exists_verdict (r := .footerLeadingBlank) (o := o) (m := m) rfl
    exact ⟨v, hv, hpassed.trans lacksBlankAboveFooter_iff⟩

end CommitStyle.Rule
