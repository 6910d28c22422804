import CommitStyle.Proofs.Abbreviation
import CommitStyle.Proofs.Rule.Safety
import CommitStyle.Proofs.Text.WholeWord

/-!
# Suggestions for long headers

The rule on the length of a header counts characters. What it says on a header that is too long
lists the abbreviations whose words stand in the title as whole words, in the order of the options
(`Rule.suggested_eq`); on any other header it lists none. The title is what is left of the header
without its area (`Header.isTitleOf_title`). The options of a configuration have every word once, so
no word is listed twice (`Rule.headerLength_suggests`).
-/

namespace CommitStyle

open Text

/-! ## Titles -/

namespace Header

/-- The title of a header is the part from its first colon on, and all of a header without one. -/
inductive IsTitleOf : Text → Text → Prop where
  | colon {area rest : Text} (harea : ':' ∉ area) : IsTitleOf (':' :: rest) (area ++ ':' :: rest)
  | whole {h : Text} (hcolon : ':' ∉ h) : IsTitleOf h h

theorem isTitleOf_title (h : Text) : IsTitleOf (title h) h := by
  unfold title
  by_cases hcolon : ':' ∈ h
  · obtain ⟨area, rest, rfl, harea⟩ := List.eq_append_cons_of_mem hcolon
    rw [dropWhile_ne_append harea]
    exact .colon harea
  · rw [dropWhile_ne_eq_nil_iff.2 hcolon]
    exact .whole hcolon

theorem IsTitleOf.eq_title {t h : Text} (ht : IsTitleOf t h) : t = title h := by
  unfold title
  cases ht with
  | colon harea => rw [dropWhile_ne_append harea]
  | whole hcolon => rw [dropWhile_ne_eq_nil_iff.2 hcolon]

theorem isTooLong_iff {max : Nat} {h : Text} :
    isTooLong max h = true ↔ ¬mergeStart <+: h ∧ max < h.length := by
  unfold isTooLong
  rw [Bool.and_eq_true, Bool.not_eq_true', ← Bool.not_eq_true, List.isPrefixOf_iff_prefix,
    decide_eq_true_iff]

end Header

/-! ## Suggestions -/

namespace Options

/-- The abbreviations whose words stand in the text in lower case as whole words, in order. -/
def found (o : Options) (t : Text) : List Abbreviation :=
  o.abbreviations.filter fun a => StandsIn a.word t.lowercase

theorem nodup_found (c : Config) (t : Text) : ((c.options.found t).map Abbreviation.word).Nodup :=
  (Abbreviation.nodup_configured c.abbreviations).sublist (List.filter_sublist.map _)

end Options

namespace Rule

theorem suggested_eq (o : Options) (h : Text) : suggested o h = o.found (Header.title h) := by
  unfold suggested Options.found
  refine List.filter_congr fun a _ => ?_
  rw [Bool.eq_iff_iff, decide_eq_true_iff]
  exact containsWord_iff

/-- The rule fails on the headers with too many characters, but for those of a merge. If it passes,
it says nothing but the limit and the length, and if it fails it says after them, each in a line of
its own and in the order of the options, which words are found in the title. A word that begins and
ends with word characters is found where there is no other one next to it. The options of a
configuration never have a word listed twice. -/
theorem headerLength_suggests (o : Options) (m : Message) :
    ∃ v title, check .headerMaxLengthWithSuggestions o m = .ok v ∧ Header.IsTitleOf title m.header ∧
      (v.passed = false ↔ ¬Header.mergeStart <+: m.header ∧ o.headerMaxLength < m.header.length) ∧
      (v.passed = true → v.text = lengthTextWith o m.header []) ∧
      (v.passed = false → v.text = lengthTextWith o m.header (o.found title)) ∧
      (∀ w, Framed isWordChar w → (StandsIn w title.lowercase ↔
        ∃ before after, title.lowercase = before ++ w ++ after ∧
          (∀ c ∈ before.getLast?, isWordChar c = false) ∧
            ∀ c ∈ after.head?, isWordChar c = false)) ∧
      ∀ c : Config, o = c.options → ((o.found title).map Abbreviation.word).Nodup := by
  have htext := headerLengthText_eq o m.header
  rw [suggested_eq] at htext
  refine ⟨_, Header.title m.header, rfl, Header.isTitleOf_title m.header,
    Bool.not_eq_eq_eq_not.trans Header.isTooLong_iff, fun hpassed => ?_, fun hfailed => ?_,
    fun w hw => standsIn_iff_of_framed hw, ?_⟩
  · have hshort : Header.isTooLong o.headerMaxLength m.header = false :=
      (Bool.not_eq_true' _).mp hpassed
    rwa [hshort] at htext
  · have hlong : Header.isTooLong o.headerMaxLength m.header = true :=
      (Bool.not_eq_false' _).mp hfailed
    rwa [hlong] at htext
  · rintro c rfl
    exact Options.nodup_found c _

/-- Two long headers, one of them of a merge. The other has a word of the standard list in its area,
one in its title, and one there at the start of a longer word. -/
theorem headerLength_suggests_command :
    (∃ m v,
      Message.parse "Merge configuration and documentation of the command line".toList = .ok m ∧
      check .headerMaxLengthWithSuggestions ({} : Config).options m = .ok v ∧ v.passed = true ∧
      v.text = lengthTextWith ({} : Config).options m.header []) ∧
    ∃ m v title,
      Message.parse "message: read the configurationx from the COMMAND line".toList = .ok m ∧
      check .headerMaxLengthWithSuggestions ({} : Config).options m = .ok v ∧ v.passed = false ∧
      v.text = lengthTextWith ({} : Config).options m.header [⟨"command".toList, "cmd"⟩] ∧
      (StandsIn "command".toList (lowercase title) ↔
        ∃ before after, lowercase title = before ++ "command".toList ++ after ∧
          (∀ c ∈ before.getLast?, isWordChar c = false) ∧
            ∀ c ∈ after.head?, isWordChar c = false) ∧
      ((({} : Config).options.found title).map Abbreviation.word).Nodup := by
  have hmerge : Message.parse "Merge configuration and documentation of the command line".toList =
      .ok ⟨"Merge configuration and documentation of the command line".toList,
        "Merge configuration and documentation of the command line".toList⟩ := by decide
  have hread : Message.parse "message: read the configurationx from the COMMAND line".toList =
      .ok ⟨"message: read the configurationx from the COMMAND line".toList,
        "message: read the configurationx from the COMMAND line".toList⟩ := by decide
  constructor
  · obtain ⟨v, -, hv, -, hfails, hpasses, -⟩ := headerLength_suggests ({} : Config).options
      ⟨"Merge configuration and documentation of the command line".toList,
        "Merge configuration and documentation of the command line".toList⟩
    have hpassed : v.passed = true := by
      rw [← Bool.not_eq_false, hfails]
      decide
    exact ⟨_, v, hmerge, hv, hpassed, hpasses hpassed⟩
  · obtain ⟨v, title, hv, htitle, hfails, -, hlists, hwords, hnodup⟩ :=
      headerLength_suggests ({} : Config).options
        ⟨"message: read the configurationx from the COMMAND line".toList,
          "message: read the configurationx from the COMMAND line".toList⟩
    have hfailed : v.passed = false := hfails.2 (by decide)
    have hfound : ({} : Config).options.found title = [⟨"command".toList, "cmd"⟩] := by
      rw [htitle.eq_title]
      decide +kernel
    have hlisted := hlists hfailed
    rw [hfound] at hlisted
    exact ⟨_, v, title, hread, hv, hfailed, hlisted,
      hwords _ (.of_forall (by decide) (List.all_eq_true.1 (by decide))), hnodup {} rfl⟩

end Rule
end CommitStyle
