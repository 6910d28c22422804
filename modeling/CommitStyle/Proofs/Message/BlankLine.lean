import CommitStyle.Body
import CommitStyle.Proofs.Message.Code
import CommitStyle.Proofs.Text.Paragraph

/-!
# A blank line in a message

The body of a message stands between its title with the blank characters below it and blank
characters at the end (`Message.exists_regions`), so that another body may be put in its place
(`Message.Regions`). A line in it without a fence is taken out with the code around it or stays a
line of its own (`Text.withoutCode_withLine`), and so a blank line in place of an empty one leaves
the paragraphs outside code as they are or joins two of them (`Message.prose_withLine`).
-/

namespace CommitStyle

namespace Text

/-! ## A line outside code -/

theorem withoutCode_withLine (u v : Text) :
    (∃ w, ∀ l, ¬fence <:+: l → withoutCode (withLine u l v) = w) ∨
      ∃ u' v', ∀ l, ¬fence <:+: l → withoutCode (withLine u l v) = withLine u' l v' := by
  have hfeed : '\n' ∉ fence := by decide
  have hcut {l : Text} (hl : ¬fence <:+: l) : cut fence (withLine u l v) =
      ((cut fence u).map (Prod.map id (· ++ '\n' :: (l ++ '\n' :: v)))).or
        ((cut fence v).map (Prod.map (withLine u l ·) id)) := by
    rw [withLine, cut_append_cons hfeed, cut_append_cons hfeed, cut_eq_none_iff.2 hl]
    cases cut fence v <;> rfl
  have hlast {l : Text} (hl : ¬fence <:+: l) (r : Text) :
      afterLast fence (r ++ '\n' :: (l ++ '\n' :: v)) =
        (afterLast fence v).or ((afterLast fence r).map (withLine · l v)) := by
    rw [afterLast_append_cons hfeed, afterLast_append_cons hfeed, afterLast_eq_none_iff.2 hl,
      Option.map_none, Option.or_none]
    rfl
  cases hu : cut fence u with
  | some parts =>
    obtain ⟨before, rest⟩ := parts
    cases hv : afterLast fence v with
    | some after =>
      -- Code from above the line to below it.
      refine Or.inl ⟨before ++ after, fun l hl => ?_⟩
      simp [withoutCode, hcut hl, hu, hlast hl, hv]
    | none =>
      cases hr : afterLast fence rest with
      | some after =>
        refine Or.inr ⟨before ++ after, v, fun l hl => ?_⟩
        simp [withoutCode, hcut hl, hu, hlast hl, hv, hr, append_withLine]
      | none =>
        refine Or.inr ⟨u, v, fun l hl => ?_⟩
        simp [withoutCode, hcut hl, hu, hlast hl, hv, hr]
  | none =>
    cases hv : cut fence v with
    | none => exact Or.inr ⟨u, v, fun l hl => by simp [withoutCode, hcut hl, hu, hv]⟩
    | some parts =>
      obtain ⟨before, rest⟩ := parts
      cases hr : afterLast fence rest with
      | some after =>
        refine Or.inr ⟨u, before ++ after, fun l hl => ?_⟩
        simp [withoutCode, hcut hl, hu, hv, hr, withLine_append]
      | none => exact Or.inr ⟨u, v, fun l hl => by simp [withoutCode, hcut hl, hu, hv, hr]⟩

/-- Trimming takes a blank line off with all that is above or below it, or leaves it. -/
theorem trim_withLine (u v : Text) :
    (∃ w, ∀ l, isBlank l = true → trim (withLine u l v) = w) ∨
      ∃ u' v', ∀ l, isBlank l = true → trim (withLine u l v) = withLine u' l v' := by
  have hfeed : isBlank ['\n'] = true := rfl
  cases hu : isBlank u with
  | true =>
    refine Or.inl ⟨trim v, fun l hl => ?_⟩
    have hsplit : withLine u l v = (u ++ ['\n'] ++ l ++ ['\n']) ++ v := by simp [withLine]
    rw [hsplit, trim_blank_append]
    simp only [isBlank_append, hu, hl, hfeed, Bool.and_self]
  | false =>
    cases hv : isBlank v with
    | true =>
      refine Or.inl ⟨trim u, fun l hl => ?_⟩
      have hsplit : withLine u l v = u ++ (['\n'] ++ l ++ ['\n'] ++ v) := by simp [withLine]
      rw [hsplit, trim_append_blank]
      simp only [isBlank_append, hv, hl, hfeed, Bool.and_self]
    | false =>
      obtain ⟨x, y, -, -, htrim⟩ := exists_trim_withLine hu hv
      exact Or.inr ⟨_, _, fun l _ => htrim l⟩

theorem not_fence_infix_of_isBlank {l : Text} (h : isBlank l = true) : ¬fence <:+: l := by
  intro hin
  have hmem : '\x60' ∈ l := hin.subset (by decide)
  exact absurd (List.all_eq_true.1 h _ hmem) (by decide)

/-- The paragraphs of the text outside code. -/
def prose (t : Text) : List Paragraph :=
  (t.withoutCode.trim?.map paragraphs).getD []

theorem prose_of_trim_withLine {t u l v : Text} (h : trim (withoutCode t) = withLine u l v) :
    prose t = paragraphs (withLine u l v) := by
  have hne : withLine u l v ≠ [] := by simp [withLine]
  rw [prose, trim?, h, if_neg hne]
  rfl

/-- A blank line in place of an empty one leaves the paragraphs outside code as they are or joins
two of them. -/
theorem prose_withLine (u v : Text) {e f : Text} (he : isEmptyLine e = true)
    (hf : IsBlankLine f) :
    prose (withLine u f v) = prose (withLine u e v) ∨
      JoinedBy f (prose (withLine u e v)) (prose (withLine u f v)) := by
  have hempty := isBlank_of_isEmptyLine he
  have heFence := not_fence_infix_of_isBlank hempty
  have hfFence := not_fence_infix_of_isBlank hf.blank
  rcases withoutCode_withLine u v with ⟨w, hw⟩ | ⟨u', v', hcode⟩
  · left
    rw [prose, prose, hw f hfFence, hw e heFence]
  rcases trim_withLine u' v' with ⟨w, hw⟩ | ⟨u'', v'', htrim⟩
  · left
    rw [prose, prose, hcode f hfFence, hcode e heFence, trim?, trim?, hw f hf.blank, hw e hempty]
  · rw [prose_of_trim_withLine ((congrArg trim (hcode f hfFence)).trans (htrim f hf.blank)),
      prose_of_trim_withLine ((congrArg trim (hcode e heFence)).trans (htrim e hempty))]
    exact paragraphs_withLine u'' v'' he hf

end Text

namespace Message

open Text

/-- The paragraphs of the body outside code. -/
def prose (m : Message) : List Paragraph :=
  (m.rawBody.map Text.prose).getD []

theorem hasBadProse_eq (m : Message) : m.hasBadProse = m.prose.any paragraphOffends := by
  unfold hasBadProse prose bodyWithoutCode Text.prose
  cases m.rawBody with
  | none => rfl
  | some b => cases h : b.withoutCode.trim? <;> simp [h]

/-! ## Below the first line -/

section FirstLine

variable {raw : Text}

theorem headerOf_of_unbroken (h : '\n' ∉ raw.trim) : headerOf raw = raw.trim :=
  if_neg h

theorem rawBody_of_unbroken (h : '\n' ∉ raw.trim) (header : Text) :
    rawBody ⟨raw, header⟩ = none := by
  rw [rawBody, dropWhile_ne_eq_nil_iff.2 h]

variable {line below : Text} (hline : '\n' ∉ line) (htrim : raw.trim = line ++ '\n' :: below)
include hline htrim

theorem headerOf_of_trim : headerOf raw = dropEndWhile (· == '\r') line := by
  rw [headerOf, htrim, if_pos (by simp), takeWhile_ne_append hline]

theorem rawBody_of_trim (header : Text) : rawBody ⟨raw, header⟩ = some ('\n' :: below) := by
  rw [rawBody, htrim, dropWhile_ne_append hline]

end FirstLine

/-! ## Around the body -/

/-- The message with another body in the place of its own, which is at the end of the raw text but
for blank characters. -/
def withBody (m : Message) (b : Text) : Message :=
  let kept := m.raw.trimEnd
  { m with raw :=
      kept.take (kept.length - (m.body.getD []).length) ++ b ++ m.raw.drop kept.length }

/-- What stands around the body of a message. -/
structure Regions where
  before : Text
  title : Text
  /-- The line break below the title and the blank characters behind it. -/
  gap : Text
  after : Text
  isBlank_before : before.isBlank = true
  isBlank_after : after.isBlank = true
  isBlank_gap : gap.isBlank = true
  gap_feed : gap.head? = some '\n'
  title_unbroken : '\n' ∉ title
  title_head : ∃ c, title.head? = some c ∧ CommitStyle.isBlank c = false

namespace Regions

variable (r : Regions)

/-- The raw text with this body. -/
def raw (b : Text) : Text :=
  r.before ++ (r.title ++ r.gap ++ b) ++ r.after

variable {b : Text} (hb : Tight b)
include hb

theorem trim_raw : (r.raw b).trim = r.title ++ r.gap ++ b := by
  obtain ⟨c, hc, hblank⟩ := r.title_head
  obtain ⟨d, hd, hlast⟩ := hb.last
  have htight : Tight (r.title ++ r.gap ++ b) := ⟨⟨c, by simp [hc], by simp [hblank]⟩, d, by
    simp [hd], hlast⟩
  rw [raw, trim_append_blank _ r.isBlank_after, trim_blank_append r.isBlank_before,
    htight.trim_eq]

/-- The first line feed of the trimmed text is the one below the title. -/
theorem exists_trim_raw :
    ∃ g, r.gap = '\n' :: g ∧ (r.raw b).trim = r.title ++ '\n' :: (g ++ b) := by
  obtain ⟨g, hg⟩ := List.head?_eq_some_iff.1 r.gap_feed
  exact ⟨g, hg, by rw [r.trim_raw hb, hg, List.append_assoc, List.cons_append]⟩

theorem headerOf_raw : headerOf (r.raw b) = dropEndWhile (· == '\r') r.title := by
  obtain ⟨g, -, htrim⟩ := r.exists_trim_raw hb
  exact headerOf_of_trim r.title_unbroken htrim

theorem rawBody_raw (header : Text) : rawBody ⟨r.raw b, header⟩ = some (r.gap ++ b) := by
  obtain ⟨g, hg, htrim⟩ := r.exists_trim_raw hb
  rw [rawBody_of_trim r.title_unbroken htrim, hg, List.cons_append]

theorem body_raw (header : Text) : body ⟨r.raw b, header⟩ = some b := by
  rw [body, r.rawBody_raw hb, Option.bind_some, trim?, trim_blank_append r.isBlank_gap, hb.trim_eq,
    if_neg hb.ne_nil]

theorem bodyLines_raw (header : Text) : bodyLines ⟨r.raw b, header⟩ = lines b := by
  rw [bodyLines, r.body_raw hb]
  rfl

theorem withBody_raw (header b' : Text) :
    withBody ⟨r.raw b, header⟩ b' = ⟨r.raw b', header⟩ := by
  obtain ⟨d, hd, hlast⟩ := hb.last
  obtain ⟨front, hfront⟩ := List.getLast?_eq_some_iff.1 hd
  have hkept : (r.raw b).trimEnd = r.before ++ (r.title ++ r.gap) ++ b := by
    have hsplit : r.raw b = r.before ++ (r.title ++ r.gap) ++ front ++ d :: r.after := by
      simp [raw, hfront]
    have hafter : dropEndWhile CommitStyle.isBlank r.after = [] :=
      dropEndWhile_eq_nil_iff.2 (List.all_eq_true.1 r.isBlank_after)
    rw [hsplit, trimEnd, dropEndWhile_append_cons (by simpa using hlast), hafter, hfront]
    simp
  have hraw : r.raw b = r.before ++ (r.title ++ r.gap) ++ b ++ r.after := by simp [raw]
  simp only [withBody, r.body_raw hb, hkept, Option.getD_some]
  rw [hraw, List.drop_left, List.length_append, Nat.add_sub_cancel, List.take_left]
  simp [raw]

theorem prose_raw (header : Text) : prose ⟨r.raw b, header⟩ = Text.prose (r.gap ++ b) := by
  rw [prose, r.rawBody_raw hb]
  rfl

end Regions

theorem eq_of_rawBody {m : Message} {t : Text} (h : m.rawBody = some t) :
    m.raw.trim = m.raw.trim.takeWhile (· ≠ '\n') ++ t ∧ t.head? = some '\n' := by
  have hdrop : m.raw.trim.dropWhile (· ≠ '\n') = t ∧ t ≠ [] := by
    unfold rawBody at h
    split at h
    · cases h
    · next hne =>
      cases h
      exact ⟨rfl, hne⟩
  obtain ⟨rfl, hne⟩ := hdrop
  refine ⟨List.takeWhile_append_dropWhile.symm, ?_⟩
  have hstop := stop_dropWhile (p := (· ≠ '\n')) m.raw.trim _ (List.head?_eq_some_head hne)
  rw [List.head?_eq_some_head hne]
  simpa using hstop

/-- A message with a body is made of its body and what stands around it. -/
theorem exists_regions {m : Message} {b : Text} (h : m.body = some b) :
    ∃ r : Regions, m.raw = r.raw b ∧ Tight b := by
  obtain ⟨t, ht, hb⟩ := Option.bind_eq_some_iff.1 h
  have htight := tight_of_trim? hb
  obtain ⟨rfl, -⟩ := eq_trim_of_trim? hb
  obtain ⟨hwhole, hfeed⟩ := eq_of_rawBody ht
  obtain ⟨before, z, hbefore, hz, hraw⟩ := exists_eq_trim m.raw
  obtain ⟨gap, y, hgap, hy, hbody⟩ := exists_eq_trim t
  have hgapFeed : gap.head? = some '\n' := by
    obtain ⟨c, hc, hblank⟩ := htight.head
    rw [hbody] at hfeed
    cases gap with
    | nil =>
      rw [List.nil_append, List.head?_append, hc] at hfeed
      cases hfeed
      cases hblank
    | cons d gap => exact hfeed
  have htitle : ∃ c, (m.raw.trim.takeWhile (· ≠ '\n')).head? = some c ∧
      CommitStyle.isBlank c = false := by
    cases htrim : m.raw.trim with
    | nil =>
      rw [htrim] at hwhole
      rw [(List.append_eq_nil_iff.1 hwhole.symm).2] at hfeed
      cases hfeed
    | cons c rest =>
      have hc : CommitStyle.isBlank c = false := isBlank_head_trim (by rw [htrim]; rfl)
      have hne : c ≠ '\n' := by
        rintro rfl
        cases hc
      exact ⟨c, by rw [List.takeWhile_cons_of_pos (by simpa using hne), List.head?_cons], hc⟩
  refine ⟨⟨before, m.raw.trim.takeWhile (· ≠ '\n'), gap, y ++ z, hbefore, ?_, hgap, hgapFeed, ?_,
    htitle⟩, ?_, htight⟩
  · rw [isBlank_append, hy, hz]
    rfl
  · intro hmem
    simpa using List.mem_takeWhile_imp hmem
  · conv_lhs => rw [hraw, hwhole, hbody]
    simp [Regions.raw]

end Message
end CommitStyle
