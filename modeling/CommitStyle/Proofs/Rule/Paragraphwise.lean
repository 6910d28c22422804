import CommitStyle.Proofs.Linter.Alike
import CommitStyle.Proofs.Message.BlankLine
import CommitStyle.Proofs.Rule.CodeJoin
import CommitStyle.Proofs.Text.Stack
import CommitStyle.Proofs.Url.Mention

/-!
# Rules on one paragraph at a time

Six rules look for an offence in the text of the body (`Rule.paragraphwise`). Below a title and
without code, each of them is a test of the body or of the whole text that finds nothing across an
empty line (`Rule.exists_splits`). So a message passes such a rule exactly if every one of its
paragraphs passes it as the only one below the title (`Rule.passes_iff_each_paragraph`).
-/

namespace CommitStyle

open Text

namespace Text

/-! ## Titles -/

/-- A line that may be the first one of a message. -/
structure IsTitle (t : Text) : Prop where
  nonempty : t ≠ []
  trimmed : trim t = t
  unbroken : '\n' ∉ t

theorem IsTitle.tight {t : Text} (h : IsTitle t) : Tight t :=
  .of_trim_eq h.nonempty h.trimmed

/-! ## Tests that split -/

theorem splits_contains_fence : Splits (contains fence) := by
  intro u v _
  have hfeed : '\n' ∉ fence := by decide
  rw [Bool.eq_iff_iff, Bool.or_eq_true, contains_iff, contains_iff, contains_iff, withLine,
    infix_append_cons_iff hfeed, infix_append_cons_iff hfeed]
  simp [fence]

theorem not_fence_infix_withLine {u v : Text} (hv : Tight v) (hu : ¬fence <:+: u)
    (h : ¬fence <:+: v) : ¬fence <:+: withLine u [] v := by
  rw [← contains_iff, splits_contains_fence u v hv, Bool.or_eq_true, contains_iff, contains_iff]
  exact not_or.2 ⟨hu, h⟩

theorem not_fence_infix_stacked {ts : List Text} (hne : ts ≠ []) (htight : ∀ t ∈ ts, Tight t)
    (h : ∀ t ∈ ts, ¬fence <:+: t) : ¬fence <:+: stacked ts := by
  rw [← contains_iff, splits_contains_fence.stacked hne htight, List.any_eq_true]
  rintro ⟨t, ht, hin⟩
  exact h t ht (contains_iff.1 hin)

end Text

namespace Message

theorem splits_hasHashNumber : Splits hasHashNumber := by
  intro u v _
  rw [withLine, List.nil_append, hasHashNumber_append_cons (by decide) (by decide)]
  rfl

/-- A trimmed text does not start with the spaces of a gap. -/
theorem splits_hasWideGap : Splits hasWideGap := by
  intro u v hv
  obtain ⟨c, hc, hblank⟩ := hv.head
  obtain ⟨rest, rfl⟩ := List.head?_eq_some_iff.1 hc
  have hspace : (' ' == c) = false := by
    rw [beq_eq_false_iff_ne]
    rintro rfl
    cases hblank
  rw [withLine, List.nil_append, hasWideGap_append_cons (by decide)]
  simp [hasWideGap, List.isPrefixOf, hspace]

/-- No mention of a URL reaches over an empty line. -/
theorem splits_any_find (p : Text → Bool) : Splits fun t => (Url.find t).any p := by
  intro u v _
  have hfind : Url.find (withLine u [] v) = Url.find u ++ Url.find v := by
    have hnil : Url.find [] = [] := by
      rw [Url.find, Url.mentions]
      rfl
    have hfeed : Url.isDelimiter '\n' = true := rfl
    rw [withLine, Url.find_append_cons hfeed, Url.find_append_cons hfeed, hnil, List.nil_append]
  simp only [hfind, List.any_append]

theorem splits_linksOwnCommit (repository : Option Text) (header : Text) :
    Splits fun t => linksOwnCommit repository ⟨t, header⟩ := by
  cases repository with
  | none => exact fun u v _ => rfl
  | some r => exact splits_any_find _

/-! ## A body below a title -/

/-- The message of a title and a body. -/
def titled (t b : Text) : Message :=
  ⟨withLine t [] b, headerOf (withLine t [] b)⟩

/-- A title and an empty line, with nothing around them. -/
def Regions.ofTitle {t : Text} (h : IsTitle t) : Regions where
  before := []
  title := t
  gap := ['\n', '\n']
  after := []
  isBlank_before := rfl
  isBlank_after := rfl
  isBlank_gap := rfl
  gap_feed := rfl
  title_unbroken := h.unbroken
  title_head := by simpa using h.tight.head

theorem withoutCode_below {b : Text} (hb : Tight b) (hfence : ¬fence <:+: b) :
    withoutCode (withLine [] [] b) = withLine [] [] b :=
  withoutCode_of_not_infix (not_fence_infix_withLine hb (by decide) hfence)

section Titled

variable {t b : Text} (ht : IsTitle t)
include ht

theorem parse_titled : parse (withLine t [] b) = .ok (titled t b) := by
  refine parse_of_not_blank ?_
  rw [withLine, isBlank_append, ht.tight.isBlank_eq, Bool.false_and]

variable (hb : Tight b)
include hb

theorem rawBody_titled : (titled t b).rawBody = some (withLine [] [] b) := by
  have hraw : (Regions.ofTitle ht).raw b = withLine t [] b := by
    simp [Regions.ofTitle, Regions.raw, withLine]
  rw [titled, ← hraw]
  exact (Regions.ofTitle ht).rawBody_raw hb _

theorem bodyWithoutCode_titled (hfence : ¬fence <:+: b) :
    (titled t b).bodyWithoutCode = some b := by
  have htrim : trim (withLine [] [] b) = b :=
    (trim_blank_append (a := ['\n', '\n']) rfl b).trans hb.trim_eq
  rw [bodyWithoutCode, rawBody_titled ht hb, Option.bind_some, withoutCode_below hb hfence,
    trim?, htrim, if_neg hb.ne_nil]

end Titled

end Message

namespace Rule

open Message

/-- The rules on offences in the text of the body. -/
def paragraphwise : List Rule :=
  [.bodyProse, .bodySoftMaxLineLength, .properIssueRefs, .tooManySpaces, .trailingWhitespace,
    .commitHashAlone]

/-- The rule looks at the title once, and at the body with a test that splits. -/
theorem exists_splits (o : Options) {t : Text} (ht : IsTitle t) (hfence : ¬fence <:+: t) {r : Rule}
    (hr : r ∈ paragraphwise) : ∃ title test, Splits test ∧
      ∀ b, Tight b → ¬fence <:+: b → r.offends o (titled t b) = .ok (title || test b) := by
  unfold paragraphwise at hr
  simp only [List.mem_cons, List.not_mem_nil, or_false] at hr
  rcases hr with rfl | rfl | rfl | rfl | rfl | rfl
  · refine ⟨false, _, splits_any_paragraphs paragraphOffends, fun b hb h => ?_⟩
    rw [offends, hasBadProse, bodyWithoutCode_titled ht hb h]
    rfl
  · refine ⟨false, _, splits_any_lines (p := isOverlong o.bodySoftMaxLineLength) ?_,
      fun b hb h => ?_⟩
    · intro l hl
      simp [isOverlong, hl]
    · rw [offends, hasOverlongLine, bodyWithoutCode_titled ht hb h, Option.map_some,
        outsideFences_lines h]
      rfl
  · refine ⟨false, _, splits_hasHashNumber, fun b hb h => ?_⟩
    rw [offends, citesByNumber, rawBody_titled ht hb, Option.map_some,
      withoutCode_below hb h, splits_hasHashNumber [] b hb]
    rfl
  · -- This rule and the next two read the title as well.
    refine ⟨hasWideGap t, _, splits_hasWideGap, fun b hb h => ?_⟩
    rw [offends, hasTooManySpaces, titled,
      withoutCode_of_not_infix (not_fence_infix_withLine hb hfence h), splits_hasWideGap t b hb]
  · have hsplits := splits_any_lines (p := isRagged) fun l hl => by simp [isRagged, hl]
    refine ⟨(lines t).any isRagged, _, hsplits, fun b hb h => ?_⟩
    rw [offends, hasRaggedLine, titled, outsideFences_lines (not_fence_infix_withLine hb hfence h)]
    exact congrArg _ (hsplits t b hb)
  · refine ⟨linksOwnCommit o.repository ⟨t, []⟩, _, splits_linksOwnCommit o.repository [],
      fun b hb _ => ?_⟩
    exact congrArg _ (splits_linksOwnCommit o.repository [] t b hb)

/-- Parts of a body are looked at one by one, whether or not there are empty lines in them. -/
theorem passes_iff_each_part (o : Options) {t : Text} (ht : IsTitle t) (hfence : ¬fence <:+: t)
    {ps : List Text} (hne : ps ≠ []) (htight : ∀ p ∈ ps, Tight p) (h : ∀ p ∈ ps, ¬fence <:+: p)
    {r : Rule} (hr : r ∈ paragraphwise) :
    r.Passes o (titled t (stacked ps)) ↔ ∀ p ∈ ps, r.Passes o (titled t p) := by
  obtain ⟨title, test, hsplits, hoffends⟩ := exists_splits o ht hfence hr
  have hone (p : Text) (hp : p ∈ ps) :
      r.Passes o (titled t p) ↔ title = false ∧ test p = false := by
    rw [passes_iff (hoffends p (htight p hp) (h p hp)), Bool.or_eq_true, not_or, Bool.not_eq_true,
      Bool.not_eq_true]
  have hall : r.Passes o (titled t (stacked ps)) ↔
      title = false ∧ ∀ p ∈ ps, test p = false := by
    have hstacked := hoffends _ (tight_stacked hne htight) (not_fence_infix_stacked hne htight h)
    rw [passes_iff hstacked, hsplits.stacked hne htight]
    simp
  rw [hall]
  constructor
  · rintro ⟨htitle, htest⟩ p hp
    exact (hone p hp).2 ⟨htitle, htest p hp⟩
  · intro hpass
    obtain ⟨p, hp⟩ := List.exists_mem_of_ne_nil ps hne
    exact ⟨((hone p hp).1 (hpass p hp)).1, fun p hp => ((hone p hp).1 (hpass p hp)).2⟩

/-- A message without code that is put together from a title and paragraphs has these paragraphs,
and it passes a rule on the text of the body exactly if the messages of the title with one of them
do. -/
theorem passes_iff_each_paragraph (o : Options) {t : Text} (ht : IsTitle t) {ps : List Text}
    (hne : ps ≠ []) (hps : ∀ p ∈ ps, IsParagraph p) (hfence : ∀ u ∈ t :: ps, ¬fence <:+: u) :
    ∃ m, parse (stacked (t :: ps)) = .ok m ∧
      m.bodyWithoutCode.map paragraphs = some (ps.map .mk) ∧
      ∀ r ∈ paragraphwise,
        (r.Passes o m ↔ ∀ p ∈ ps, ∃ n, parse (stacked [t, p]) = .ok n ∧ r.Passes o n) := by
  rw [List.forall_mem_cons] at hfence
  have htight : ∀ p ∈ ps, Tight p := fun p hp => (hps p hp).tight
  have hone (p : Text) : parse (stacked [t, p]) = .ok (titled t p) := by
    rw [stacked_cons t (List.cons_ne_nil p []), stacked_singleton, parse_titled ht]
  refine ⟨titled t (stacked ps), by rw [stacked_cons t hne, parse_titled ht], ?_, fun r hr => ?_⟩
  · rw [bodyWithoutCode_titled ht (tight_stacked hne htight)
      (not_fence_infix_stacked hne htight hfence.2), Option.map_some, paragraphs_stacked hne hps]
  · rw [passes_iff_each_part o ht hfence.1 hne htight hfence.2 hr]
    simp [hone]

/-- Two paragraphs, one of them over two lines. -/
theorem passes_iff_each_paragraph_two :
    ∃ m, parse "core: x\n\nIt reads.\n\nIt writes\nwords.".toList = .ok m ∧
      ∀ r ∈ paragraphwise, r.Passes ({} : Config).options m := by
  have hps : ∀ p ∈ ["It reads.".toList, "It writes\nwords.".toList], IsParagraph p := by
    intro p hp
    rcases List.mem_pair.1 hp with rfl | rfl
    · exact ⟨by decide, by decide⟩
    · exact ⟨by decide, by decide⟩
  obtain ⟨m, hm, -, hrules⟩ := passes_iff_each_paragraph ({} : Config).options
    (t := "core: x".toList) ⟨by decide, by decide, by decide⟩ (List.cons_ne_nil _ _) hps (by decide)
  have hclean : ∀ r ∈ paragraphwise, ∀ p ∈ ["It reads.".toList, "It writes\nwords.".toList],
      ∃ n, parse (stacked ["core: x".toList, p]) = .ok n ∧
        r.offends ({} : Config).options n = .ok false := by
    intro r hr p hp
    refine ⟨⟨stacked ["core: x".toList, p], "core: x".toList⟩, ?_⟩
    revert p r
    decide +kernel
  refine ⟨m, hm, fun r hr => (hrules r hr).2 fun p hp => ?_⟩
  obtain ⟨n, hn, hoffends⟩ := hclean r hr p hp
  exact ⟨n, hn, (passes_iff hoffends).2 Bool.false_ne_true⟩

end Rule
end CommitStyle
