import CommitStyle.Proofs.Text.Cut
import CommitStyle.Proofs.Text.Trim
import CommitStyle.Url.Basic

/-!
# Schemes

A URL has the name of a scheme in front of its first colon (`Url.scheme?_eq_some_iff`), so no single
character is one (`Url.isUrl_singleton`).
-/

namespace CommitStyle.Url

open Text

/-- A letter, and behind it letters, digits and the signs `+`, `-` and `.`. -/
structure IsSchemeName (name : Text) : Prop where
  letter : ∃ c, name.head? = some c ∧ isLetter c = true
  chars : ∀ c ∈ name, isSchemeChar c = true

theorem isSchemeChar_of_isLetter {c : Char} (h : isLetter c = true) : isSchemeChar c = true := by
  unfold isLetter at h
  simp [isSchemeChar, Char.isAlphanum, h]

theorem scheme?_eq_some_iff {t rest : Text} {scheme : Scheme} :
    scheme? t = some (scheme, rest) ↔ ∃ name, IsSchemeName name ∧ t = name ++ ':' :: rest ∧
      scheme = .ofName (name.map Char.toLower) := by
  constructor
  · intro h
    unfold scheme? at h
    split at h
    · cases h
    next c u =>
    split at h
    · next rest' hletter hdrop =>
      cases h
      refine ⟨(c :: u).takeWhile isSchemeChar, ⟨⟨c, ?_, hletter⟩, fun d hd => ?_⟩, ?_, rfl⟩
      · rw [List.takeWhile_cons_of_pos (isSchemeChar_of_isLetter hletter), List.head?_cons]
      · exact List.mem_takeWhile_imp hd
      · rw [← hdrop, List.takeWhile_append_dropWhile]
    · cases h
  · rintro ⟨name, hname, rfl, rfl⟩
    obtain ⟨c, hc, hletter⟩ := hname.letter
    obtain ⟨u, rfl⟩ := List.head?_eq_some_iff.1 hc
    have hcolon : isSchemeChar ':' = false := by decide
    have hdrop := dropWhile_append_cons_of_pos hname.chars hcolon rest
    have htake := takeWhile_append_cons_of_pos hname.chars hcolon rest
    rw [List.cons_append] at hdrop htake ⊢
    rw [scheme?, hletter, hdrop, htake]
    rfl

/-- A scheme has a letter and a colon. -/
theorem scheme?_eq_none {t : Text} (h : t.length ≤ 1) : scheme? t = none := by
  rw [Option.eq_none_iff_forall_ne_some]
  rintro ⟨scheme, rest⟩ hscheme
  obtain ⟨name, hname, rfl, -⟩ := scheme?_eq_some_iff.1 hscheme
  obtain ⟨c, hc, -⟩ := hname.letter
  obtain ⟨u, rfl⟩ := List.head?_eq_some_iff.1 hc
  simp at h

theorem length_significant_le (t : Text) : (significant t).length ≤ t.length := by
  unfold significant
  refine (List.length_filter_le _ _).trans ?_
  exact (prefix_dropEndWhile _ _).length_le.trans (List.dropWhile_suffix _).length_le

theorem isUrl_singleton (c : Char) : isUrl [c] = false := by
  unfold isUrl
  rw [scheme?_eq_none (length_significant_le [c])]

end CommitStyle.Url
