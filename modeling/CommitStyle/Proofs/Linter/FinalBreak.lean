import CommitStyle.Proofs.Linter.Alike
import CommitStyle.Proofs.Rule.CodeJoin
import CommitStyle.Proofs.Text.FullLine
import CommitStyle.Proofs.Url.Mention

/-!
# The final line break

A line feed at the end of a text makes no difference to the report. Most of what the rules read is
cut out of the trimmed text (`Message.agreeOn_of_trim`); what they read of the whole text are its
URLs, its gaps and its lines, and a final line feed adds nothing to the first two and an empty line
to the last. Hence `Config.lintsAlike_append_feed`.
-/

namespace CommitStyle

namespace Text

theorem withoutCode_append_feed (t : Text) :
    withoutCode (t ++ ['\n']) = withoutCode t ++ ['\n'] := by
  have hfeed : '\n' ∉ fence := by decide
  have hcut : cut fence [] = none := rfl
  have hlast : afterLast fence [] = none := rfl
  unfold withoutCode
  rw [cut_append_cons hfeed, hcut, Option.map_none, Option.or_none]
  cases cut fence t with
  | none => rfl
  | some parts =>
    simp only [Option.map_some, Prod.map]
    rw [afterLast_append_cons hfeed, hlast, Option.none_or]
    cases afterLast fence parts.2 with
    | none => rfl
    | some after => exact (List.append_assoc parts.1 after ['\n']).symm

/-- The line behind the final line break. -/
def emptyLine : Line :=
  ⟨[], List.not_mem_nil⟩

theorem lines_append_feed (t : Text) : lines (t ++ ['\n']) = lines t ++ [emptyLine] :=
  lines_append t []

end Text

/-! ## What the rules find -/

namespace Message

open Text

theorem any_isRagged_append (inside : Bool) (ls : List Line) :
    (outsideFencesFrom inside (ls ++ [emptyLine])).any isRagged =
      (outsideFencesFrom inside ls).any isRagged := by
  induction ls generalizing inside with
  | nil => cases inside <;> rfl
  | cons l ls ih =>
    rw [List.cons_append, outsideFencesFrom, outsideFencesFrom]
    split
    · exact ih _
    · split
      · exact ih _
      · rw [List.any_cons, List.any_cons, ih]

theorem rawBody_congr {m n : Message} (htrim : m.raw.trim = n.raw.trim) :
    m.rawBody = n.rawBody := by
  unfold rawBody
  rw [htrim]

theorem body_congr {m n : Message} (htrim : m.raw.trim = n.raw.trim) : m.body = n.body := by
  unfold body
  rw [rawBody_congr htrim]

/-- Two messages with one trimmed text, one header and the same URLs can differ only in their gaps
and in the ends of their lines. -/
theorem agreeOn_of_trim {m n : Message} (htrim : m.raw.trim = n.raw.trim)
    (hheader : m.header = n.header) (hurls : Url.find m.raw = Url.find n.raw) {a : Aspect}
    (hgaps : a ≠ .gaps) (hends : a ≠ .lineEnds) : m.AgreeOn n a := by
  have hraw := rawBody_congr htrim
  have hbody := body_congr htrim
  have hprose : m.bodyWithoutCode = n.bodyWithoutCode := by
    unfold bodyWithoutCode
    rw [hraw]
  cases a with
  | header => exact hheader
  | urls => exact hurls
  | bodyLines => unfold AgreeOn Message.bodyLines; rw [hbody]
  | prose => unfold AgreeOn hasBadProse; rw [hprose]
  | lineLengths => intro max; unfold hasOverlongLine; rw [hprose]
  | belowHeader => unfold AgreeOn lacksBlankBelowHeader hasBody; rw [hbody, htrim]
  | numbers => unfold AgreeOn citesByNumber; rw [hraw]
  | gaps => exact absurd rfl hgaps
  | lineEnds => exact absurd rfl hends

theorem headerOf_congr {t u : Text} (h : t.trim = u.trim) : headerOf t = headerOf u := by
  unfold headerOf
  rw [h]

theorem alike_append_feed (t : Text) :
    Alike ⟨t ++ ['\n'], headerOf (t ++ ['\n'])⟩ ⟨t, headerOf t⟩ := by
  have htrim : (t ++ ['\n']).trim = t.trim := trim_append_blank t rfl
  intro a
  cases a with
  | gaps =>
    change hasWideGap (t ++ ['\n']).withoutCode = hasWideGap t.withoutCode
    rw [withoutCode_append_feed, hasWideGap_append_cons (by decide)]
    exact Bool.or_false _
  | lineEnds =>
    change (outsideFences (lines (t ++ ['\n']))).any _ = (outsideFences (lines t)).any _
    rw [lines_append_feed]
    exact any_isRagged_append false (lines t)
  | _ =>
    exact agreeOn_of_trim htrim (headerOf_congr htrim)
      (Url.find_blank_append_blank (a := []) rfl rfl t) (by decide) (by decide)

end Message

namespace Config

open Text

theorem lintsAlike_append_feed (c : Config) (t : Text) :
    c.LintsAlike (Message.parse (t ++ ['\n'])) (Message.parse t) := by
  have htrim : (t ++ ['\n']).trim = t.trim := trim_append_blank t rfl
  exact c.lintsAlike_of_alike (by rw [htrim]) (Message.alike_append_feed t)

end Config
end CommitStyle
