import CommitStyle.Proofs.Rule.Paragraphwise

/-!
# Segments of a message

The header of a message and its raw body make up the trimmed text, but for the carriage returns of
the line break between them (`Message.segments_headerOf`). Conversely a title, a blank separator
that starts with a line break and any text make a message with that title as its header and the
trimmed text as its body (`Message.parse_joined`). `Message.parse_segments` states both.
-/

namespace CommitStyle

open Text

/-! ## Titles with more behind them -/

namespace Text.IsTitle

theorem unbroken_append {t returns : Text} (ht : IsTitle t)
    (hreturns : ∀ c ∈ returns, c = '\r') : '\n' ∉ t ++ returns := by
  rw [List.mem_append, not_or]
  exact ⟨ht.unbroken, fun hfeed => by cases hreturns _ hfeed⟩

theorem head_append {t : Text} (ht : IsTitle t) (u : Text) :
    ∃ c, (t ++ u).head? = some c ∧ CommitStyle.isBlank c = false := by
  obtain ⟨c, hc, hvisible⟩ := ht.tight.head
  exact ⟨c, by simp [hc], by simpa using hvisible⟩

end Text.IsTitle

/-! ## Cutting a message -/

namespace Message

/-- The header is a line with something in it, and with the raw body it makes up the trimmed text,
but for carriage returns in front of the raw body. -/
structure Segments (m : Message) : Prop where
  header_ne_nil : m.header ≠ []
  header_unbroken : '\n' ∉ m.header
  header_last : m.header.getLast? ≠ some '\r'
  body_feed : ∀ b, m.rawBody = some b → b.head? = some '\n'
  whole : ∃ returns, (∀ c ∈ returns, c = '\r') ∧ (m.rawBody = none → returns = []) ∧
    m.raw.trim = m.header ++ returns ++ m.rawBody.getD []

theorem segments_headerOf {t : Text} (ht : t.isBlank = false) : Segments ⟨t, headerOf t⟩ := by
  have htight := tight_trim ht
  by_cases hfeed : '\n' ∈ t.trim
  · obtain ⟨line, below, htrim, hline⟩ := List.eq_append_cons_of_mem hfeed
    obtain ⟨returns, hreturns, hsplit⟩ := exists_eq_dropEndWhile (· == '\r') line
    have hheader := headerOf_of_trim hline htrim
    have hbody := rawBody_of_trim hline htrim
    refine ⟨?_, unbroken_headerOf t, ?_, ?_, returns, by simpa using hreturns, ?_, ?_⟩
    · intro hnil
      rw [hheader, dropEndWhile_eq_nil_iff] at hnil
      -- The trimmed text would begin with a line of carriage returns.
      obtain ⟨c, hc, hvisible⟩ := htight.head
      rw [htrim] at hc
      cases line with
      | nil =>
        cases hc
        cases hvisible
      | cons d rest =>
        cases hc
        obtain rfl : c = '\r' := by simpa using hnil c List.mem_cons_self
        cases hvisible
    · rw [hheader]
      intro hlast
      simpa using getLast?_dropEndWhile hlast
    · rw [hbody]
      rintro b ⟨⟩
      rfl
    · rw [hbody]
      rintro ⟨⟩
    · rw [hbody, hheader, ← hsplit]
      exact htrim
  · have hheader := headerOf_of_unbroken hfeed
    have hbody := rawBody_of_unbroken hfeed
    refine ⟨?_, unbroken_headerOf t, ?_, ?_, [], by simp, fun _ => rfl, ?_⟩
    · rw [hheader]
      exact htight.ne_nil
    · rw [hheader]
      intro hlast
      cases isBlank_getLast_trim hlast
    · simp [hbody]
    · rw [hbody, hheader]
      simp

/-! ## Putting a message together -/

/-- Blank characters that start with a line break. -/
structure IsSeparator (s : Text) : Prop where
  blank : s.isBlank = true
  breaks : ['\n'] <+: s ∨ ['\r', '\n'] <+: s

/-- A separator is a line feed with blank characters behind it, and a carriage return in front of
it or none. -/
theorem IsSeparator.exists_eq {s : Text} (hs : IsSeparator s) :
    ∃ returns g, (∀ c ∈ returns, c = '\r') ∧ Text.isBlank ('\n' :: g) = true ∧
      s = returns ++ '\n' :: g := by
  obtain ⟨hblank, ⟨g, rfl⟩ | ⟨g, rfl⟩⟩ := hs
  · exact ⟨[], g, by simp, hblank, rfl⟩
  · refine ⟨['\r'], g, by simp, ?_, rfl⟩
    exact (Bool.and_eq_true_iff.1 ((isBlank_append ['\r'] ('\n' :: g)).symm.trans hblank)).2

/-- A title with a line break and blank characters below it. -/
def Regions.ofBreak {t returns gap after : Text} (ht : IsTitle t)
    (hreturns : ∀ c ∈ returns, c = '\r') (hgap : Text.isBlank ('\n' :: gap) = true)
    (hafter : after.isBlank = true) : Regions :=
  { Regions.ofTitle ht with
    title := t ++ returns
    gap := '\n' :: gap
    after := after
    isBlank_after := hafter
    isBlank_gap := hgap
    gap_feed := rfl
    title_unbroken := ht.unbroken_append hreturns
    title_head := ht.head_append returns }

theorem parse_blank_below {t s : Text} (ht : IsTitle t) (hs : s.isBlank = true) :
    ∃ m, parse (t ++ s) = .ok m ∧ m.header = t ∧ m.body = none := by
  have htrim : trim (t ++ s) = t := by rw [trim_append_blank t hs, ht.trimmed]
  have hunbroken : '\n' ∉ trim (t ++ s) := by
    rw [htrim]
    exact ht.unbroken
  refine ⟨_, parse_of_not_blank ?_, ?_, ?_⟩
  · rw [isBlank_append, ht.tight.isBlank_eq, Bool.false_and]
  · rw [headerOf_of_unbroken hunbroken, htrim]
  · rw [body, rawBody_of_unbroken hunbroken]
    rfl

theorem parse_text_below {t s x : Text} (ht : IsTitle t) (hs : IsSeparator s)
    (hx : x.isBlank = false) :
    ∃ m, parse (t ++ s ++ x) = .ok m ∧ m.header = t ∧ m.body = some x.trim := by
  obtain ⟨returns, g, hreturns, hgap, rfl⟩ := hs.exists_eq
  obtain ⟨a, b, ha, hb, hsplit⟩ := exists_eq_trim x
  have hbelow : Text.isBlank ('\n' :: (g ++ a)) = true := by
    rw [← List.cons_append, isBlank_append, hgap, ha, Bool.and_self]
  let r := Regions.ofBreak ht hreturns hbelow hb
  have htight := tight_trim hx
  have hraw : t ++ (returns ++ '\n' :: g) ++ x = r.raw x.trim := by
    conv_lhs => rw [hsplit]
    simp [r, Regions.ofBreak, Regions.ofTitle, Regions.raw]
  refine ⟨_, parse_of_not_blank ?_, ?_, ?_⟩
  · rw [isBlank_append, hx, Bool.and_false]
  · rw [hraw, r.headerOf_raw htight]
    refine (dropEndWhile_append_of_pos (by simpa using hreturns)).trans ?_
    refine ht.tight.dropEndWhile fun d hd => beq_eq_false_iff_ne.2 ?_
    rintro rfl
    cases hd
  · rw [hraw, r.body_raw htight]

/-- The message of a title and a text has them as its header and its body. -/
theorem parse_joined {t s : Text} (ht : IsTitle t) (hs : IsSeparator s) (x : Text) :
    ∃ m, parse (t ++ s ++ x) = .ok m ∧ m.header = t ∧ m.body = x.trim? := by
  cases hx : x.isBlank with
  | true =>
    rw [List.append_assoc, trim?, if_pos (trim_eq_nil_iff.2 hx)]
    exact parse_blank_below ht (by rw [isBlank_append, hs.blank, hx, Bool.and_self])
  | false =>
    rw [trim?, if_neg (tight_trim hx).ne_nil]
    exact parse_text_below ht hs hx

/-- A message is cut into a header and a raw body that make up its trimmed text, and a text that is
put together from a title, a separator and another text is cut into the title and the trimmed
text. -/
theorem parse_segments :
    (∀ raw : Text, raw.isBlank = false → ∃ m, parse raw = .ok m ∧ m.raw = raw ∧ m.Segments) ∧
      ∀ t s x : Text, IsTitle t → IsSeparator s →
        ∃ m, parse (t ++ s ++ x) = .ok m ∧ m.header = t ∧
          m.body = if x.isBlank then none else some x.trim := by
  refine ⟨fun raw hraw => ⟨_, parse_of_not_blank hraw, rfl, segments_headerOf hraw⟩, ?_⟩
  intro t s x ht hs
  obtain ⟨m, hm, hheader, hbody⟩ := parse_joined ht hs x
  refine ⟨m, hm, hheader, hbody.trans ?_⟩
  simp only [trim?, trim_eq_nil_iff]

/-- Carriage returns below the title, and a text with blank characters around it. -/
theorem parse_segments_small :
    (∃ m, parse "\ncore: x\r\r\n\nIt reads. ".toList = .ok m ∧ m.Segments) ∧
      ∃ m, parse "core: x\r\n \n It reads.\n".toList = .ok m ∧ m.header = "core: x".toList ∧
        m.body = some "It reads.".toList := by
  obtain ⟨m, hm, -, hsegments⟩ :=
    parse_segments.1 "\ncore: x\r\r\n\nIt reads. ".toList (by decide)
  exact ⟨⟨m, hm, hsegments⟩, parse_segments.2 "core: x".toList "\r\n \n".toList
    " It reads.\n".toList ⟨by decide, by decide, by decide⟩ ⟨by decide, by decide⟩⟩

end Message
end CommitStyle
