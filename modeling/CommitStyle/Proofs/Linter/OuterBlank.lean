import CommitStyle.Proofs.Linter.FinalBreak

/-!
# Blank characters around a message

The header and the body of a message are cut out of its trimmed text, and blank characters around
a text mention no URL. Only the rules on gaps and on the ends of lines read the text as it stands,
and they do not see a final line feed. `Config.evaluate_outer_blank` states both for every
configuration.
-/

namespace CommitStyle

open Text

namespace Message

theorem trim_blank_append_blank {a b : Text} (ha : a.isBlank = true) (hb : b.isBlank = true)
    (t : Text) : (a ++ t ++ b).trim = t.trim := by
  rw [trim_append_blank _ hb, trim_blank_append ha]

theorem not_isBlank_of_trim {t u : Text} (h : u.trim = t.trim) (ht : t.isBlank = false) :
    u.isBlank = false := by
  rw [← Bool.not_eq_true, ← trim_eq_nil_iff] at ht ⊢
  rwa [h]

end Message

namespace Config

open Message

/-- Blank characters around a text change neither the header nor the body, and of the verdicts at
most those on gaps and on the ends of lines. A final line feed changes no verdict. -/
theorem evaluate_outer_blank (c : Config) {t a b : Text} (ht : t.isBlank = false)
    (ha : a.isBlank = true) (hb : b.isBlank = true) :
    ∃ m n k, parse t = .ok m ∧ parse (a ++ t ++ b) = .ok n ∧ parse (t ++ ['\n']) = .ok k ∧
      n.header = m.header ∧ n.rawBody = m.rawBody ∧ n.body = m.body ∧
      (∀ r : Rule, r ≠ .trailingWhitespace → r ≠ .tooManySpaces → c.SameVerdict r m n) ∧
      ∀ r : Rule, c.SameVerdict r m k := by
  have htrim := trim_blank_append_blank ha hb t
  have hfeed : (t ++ ['\n']).trim = t.trim := trim_append_blank t rfl
  refine ⟨_, _, _, parse_of_not_blank ht, parse_of_not_blank (not_isBlank_of_trim htrim ht),
    parse_of_not_blank (not_isBlank_of_trim hfeed ht), headerOf_congr htrim, rawBody_congr htrim,
    body_congr htrim, fun r hends hgaps => ?_, fun r => ?_⟩
  · exact c.sameVerdict_of_agreeOn (unbroken_headerOf t) (headerOf_congr htrim.symm)
      (agreeOn_of_trim htrim.symm (headerOf_congr htrim.symm)
        (Url.find_blank_append_blank ha hb t).symm (mt Rule.aspect_eq_gaps_iff.1 hgaps)
        (mt Rule.aspect_eq_lineEnds_iff.1 hends))
  · exact c.sameVerdict_of_agreeOn (unbroken_headerOf t) (headerOf_congr hfeed.symm)
      (alike_append_feed t r.aspect).symm

/-- Blanks of several kinds around a text that ends between the parts of a line break. -/
theorem evaluate_outer_blank_indented :
    Text.isBlank "core: add parser\n\nIt reads.\r".toList = false ∧
      Text.isBlank " \t\n".toList = true ∧ Text.isBlank "\u3000\r\n".toList = true ∧
      ∃ m n k, parse "core: add parser\n\nIt reads.\r".toList = .ok m ∧
        parse " \t\ncore: add parser\n\nIt reads.\r\u3000\r\n".toList = .ok n ∧
        parse "core: add parser\n\nIt reads.\r\n".toList = .ok k ∧ n.body = m.body ∧
        SameVerdict {} .bodyProse m n ∧ SameVerdict {} .trailingWhitespace m k := by
  have ht : Text.isBlank "core: add parser\n\nIt reads.\r".toList = false := by decide
  have ha : Text.isBlank " \t\n".toList = true := by decide
  have hb : Text.isBlank "\u3000\r\n".toList = true := by decide
  obtain ⟨m, n, k, hm, hn, hk, -, -, hbody, houter, hfeed⟩ := evaluate_outer_blank {} ht ha hb
  exact ⟨ht, ha, hb, m, n, k, hm, hn, hk, hbody, houter .bodyProse (by decide) (by decide),
    hfeed .trailingWhitespace⟩

end Config
end CommitStyle
