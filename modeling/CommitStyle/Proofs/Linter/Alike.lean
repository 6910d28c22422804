import CommitStyle.Proofs.Linter.Report

/-!
# Messages that the rules cannot tell apart

A rule reads one aspect of a message (`Rule.aspect`) : its header, its URLs, the lines of its body
or a test on the text. Two messages that agree on an aspect (`Message.AgreeOn`) are the same to the
rules that read it (`Rule.offends_congr`, `Config.evaluate_congr`, `Config.sameVerdict_of_agreeOn`),
and two that agree on all of them (`Message.Alike`) get the same report from every configuration
(`Config.lint_congr`). Two inputs lint alike if both are refused in the same way, or one report is
made on both (`Config.LintsAlike`); `Config.lintsAlike_of_alike` reduces that for two texts to their
messages.
-/

namespace CommitStyle

/-- What a rule reads of a message. -/
inductive Aspect where
  | header
  /-- The URLs mentioned anywhere in the text. -/
  | urls
  | bodyLines
  | prose
  | lineLengths
  | belowHeader
  | numbers
  | gaps
  | lineEnds
  deriving DecidableEq

/-- The aspect that the rule looks at. -/
def Rule.aspect : Rule → Aspect
  | .bodyLeadingBlank => .belowHeader
  | .bodyProse => .prose
  | .bodySoftMaxLineLength => .lineLengths
  | .commitHashAlone => .urls
  | .footerLeadingBlank | .footerMaxLineLength => .bodyLines
  | .footerNotesMisplacement | .footerReferencesExistence => .bodyLines
  | .properIssueRefs => .numbers
  | .tooManySpaces => .gaps
  | .trailingWhitespace => .lineEnds
  | _ => .header

theorem Rule.aspect_eq_urls_iff {r : Rule} : r.aspect = .urls ↔ r = .commitHashAlone := by
  cases r <;> decide

theorem Rule.aspect_eq_bodyLines_iff {r : Rule} :
    r.aspect = .bodyLines ↔ r ∈ [.footerLeadingBlank, .footerMaxLineLength,
      .footerNotesMisplacement, .footerReferencesExistence] := by
  cases r <;> decide

theorem Rule.aspect_eq_gaps_iff {r : Rule} : r.aspect = .gaps ↔ r = .tooManySpaces := by
  cases r <;> decide

theorem Rule.aspect_eq_lineEnds_iff {r : Rule} :
    r.aspect = .lineEnds ↔ r = .trailingWhitespace := by
  cases r <;> decide

namespace Message

theorem parse_of_not_blank {t : Text} (h : t.isBlank = false) :
    parse t = .ok ⟨t, headerOf t⟩ := by
  unfold parse
  rw [if_neg fun htrim => by simp [Text.trim_eq_nil_iff.1 htrim] at h]

/-- The rules that look at this aspect find the same in both messages. -/
def AgreeOn (m n : Message) : Aspect → Prop
  | .header => m.header = n.header
  | .urls => Url.find m.raw = Url.find n.raw
  | .bodyLines => m.bodyLines = n.bodyLines
  | .prose => m.hasBadProse = n.hasBadProse
  | .lineLengths => ∀ max, m.hasOverlongLine max = n.hasOverlongLine max
  | .belowHeader => m.lacksBlankBelowHeader = n.lacksBlankBelowHeader
  | .numbers => m.citesByNumber = n.citesByNumber
  | .gaps => m.hasTooManySpaces = n.hasTooManySpaces
  | .lineEnds => m.hasRaggedLine = n.hasRaggedLine

theorem AgreeOn.symm {m n : Message} {a : Aspect} (h : m.AgreeOn n a) : n.AgreeOn m a := by
  cases a with
  | lineLengths => exact fun max => (h max).symm
  | _ => exact Eq.symm h

/-- The messages agree on every aspect. -/
def Alike (m n : Message) : Prop :=
  ∀ a, m.AgreeOn n a

end Message

namespace Rule

variable {m n : Message}

theorem offends_congr {r : Rule} (h : m.AgreeOn n r.aspect) (o : Options) :
    r.offends o m = r.offends o n := by
  have hfooter (hlines : m.bodyLines = n.bodyLines) : m.footerLines = n.footerLines := by
    unfold Message.footerLines
    rw [hlines]
  cases r with
  | bodyLeadingBlank => exact congrArg Except.ok h
  | bodyProse => exact congrArg Except.ok h
  | bodySoftMaxLineLength => exact congrArg Except.ok (h _)
  | commitHashAlone =>
    have hurls : Url.find m.raw = Url.find n.raw := h
    simp only [offends, Message.linksOwnCommit, hurls]
  | footerLeadingBlank =>
    have hlines : m.bodyLines = n.bodyLines := h
    simp only [offends, Message.lacksBlankAboveFooter, hfooter hlines, hlines]
  | footerMaxLineLength => simp only [offends, Message.hasOverlongFooter, hfooter h]
  | footerNotesMisplacement =>
    have hlines : m.bodyLines = n.bodyLines := h
    simp only [offends, Message.hasMisplacedNote, hlines]
  | footerReferencesExistence =>
    have hlines : m.bodyLines = n.bodyLines := h
    simp only [offends, Message.hasUnmatchedReference, hlines]
  | properIssueRefs => exact congrArg Except.ok h
  | tooManySpaces => exact congrArg Except.ok h
  | trailingWhitespace => exact congrArg Except.ok h
  | _ =>
    have hheader : m.header = n.header := h
    simp only [offends, hheader]

theorem diagnostic_congr (h : m.header = n.header) (r : Rule) (o : Options) :
    r.diagnostic o m = r.diagnostic o n := by
  cases r with
  | headerMaxLengthWithSuggestions => exact congrArg (headerLengthText o) h
  | _ => rfl

end Rule

namespace Config

/-- The verdict of a rule depends on the header and on the aspect that the rule looks at. -/
theorem evaluate_congr {m n : Message} {r : Rule} (hheader : m.header = n.header)
    (h : m.AgreeOn n r.aspect) (c : Config) : c.evaluate r m = c.evaluate r n := by
  have hverdict : c.verdictOf r m = c.verdictOf r n := by
    funext offence
    unfold verdictOf
    rw [Rule.diagnostic_congr hheader]
  rw [evaluate_eq, evaluate_eq, Rule.offends_congr h, hverdict]

/-- The verdict of the rule on one message is that on the other, and there is one. -/
def SameVerdict (c : Config) (r : Rule) (m n : Message) : Prop :=
  ∃ v, c.evaluate r m = .ok v ∧ c.evaluate r n = .ok v

theorem sameVerdict_of_agreeOn (c : Config) {r : Rule} {m n : Message}
    (hbreak : '\n' ∉ m.header) (hheader : m.header = n.header) (h : m.AgreeOn n r.aspect) :
    c.SameVerdict r m n := by
  obtain ⟨v, hv⟩ := c.evaluate_of_unbroken r hbreak
  exact ⟨v, hv, (evaluate_congr hheader h c).symm.trans hv⟩

/-- The report on a message depends on nothing but what the rules read of it. -/
theorem lint_congr {m n : Message} (h : m.Alike n) (c : Config) : c.lint m = c.lint n := by
  have hissue : c.issue? m = c.issue? n := by
    funext r
    unfold issue?
    rw [evaluate_congr (h .header) (h r.aspect)]
  have hheader : m.header = n.header := h .header
  unfold lint
  rw [hissue, hheader]

/-! ## Inputs that lint alike -/

section Inputs

variable {ε δ : Type}

/-- Both attempts at a message fail with one error, or one report is made on both messages. -/
def LintsAlike (c : Config) (x y : Except ε Message) : Prop :=
  (∃ e, x = .error e ∧ y = .error e) ∨
    ∃ m n report, x = .ok m ∧ y = .ok n ∧ c.lint m = .ok report ∧ c.lint n = .ok report

namespace LintsAlike

variable {c : Config} {x y z : Except ε Message}

theorem symm (h : c.LintsAlike x y) : c.LintsAlike y x := by
  rcases h with ⟨e, hx, hy⟩ | ⟨m, n, report, hx, hy, hm, hn⟩
  · exact Or.inl ⟨e, hy, hx⟩
  · exact Or.inr ⟨n, m, report, hy, hx, hn, hm⟩

theorem trans (h : c.LintsAlike x y) (h' : c.LintsAlike y z) : c.LintsAlike x z := by
  rcases h with ⟨e, hx, hy⟩ | ⟨m, n, report, hx, hy, hm, hn⟩
  · rcases h' with ⟨e', hy', hz⟩ | ⟨n', k, report', hy', -⟩
    · cases hy.symm.trans hy'
      exact Or.inl ⟨e, hx, hz⟩
    · cases hy.symm.trans hy'
  · rcases h' with ⟨e', hy', -⟩ | ⟨n', k, report', hy', hz, hn', hk⟩
    · cases hy.symm.trans hy'
    · cases hy.symm.trans hy'
      cases hn.symm.trans hn'
      exact Or.inr ⟨m, k, report, hx, hz, hm, hk⟩

theorem mapError (f : ε → δ) (h : c.LintsAlike x y) :
    c.LintsAlike (x.mapError f) (y.mapError f) := by
  rcases h with ⟨e, rfl, rfl⟩ | ⟨m, n, report, rfl, rfl, hm, hn⟩
  · exact Or.inl ⟨f e, rfl, rfl⟩
  · exact Or.inr ⟨m, n, report, rfl, rfl, hm, hn⟩

end LintsAlike
end Inputs

theorem lintsAlike_of_alike (c : Config) {t u : Text} (htrim : t.trim = [] ↔ u.trim = [])
    (h : Message.Alike ⟨t, Message.headerOf t⟩ ⟨u, Message.headerOf u⟩) :
    c.LintsAlike (Message.parse t) (Message.parse u) := by
  unfold LintsAlike Message.parse
  by_cases ht : t.trim = []
  · rw [if_pos ht, if_pos (htrim.1 ht)]
    exact Or.inl ⟨_, rfl, rfl⟩
  · rw [if_neg ht, if_neg fun hu => ht (htrim.2 hu)]
    have hlint := c.lint_of_unbroken (m := ⟨u, Message.headerOf u⟩) (Message.unbroken_headerOf u)
    exact Or.inr ⟨_, _, _, rfl, rfl, (c.lint_congr h).trans hlint, hlint⟩

end Config
end CommitStyle
