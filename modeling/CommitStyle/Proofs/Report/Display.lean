import CommitStyle.Proofs.Json.Control
import CommitStyle.Proofs.Report.Styling
import CommitStyle.Proofs.Text.Piece
import CommitStyle.Report.Display
import Mathlib.Tactic.SplitIfs

/-!
# Reports without their styles

What is displayed of a report is made up of its header, its commit and the rows of its messages, so
it has no escape if these have none (`Report.EscapeFree.exists_display`). In JSON it never has one,
whatever is in the report (`Report.escape_not_mem_displayJson`).
-/

namespace CommitStyle

open Text Styled

/-! ## Issues -/

/-- A literal is the string of its characters, so it need not be decoded. -/
theorem Text.not_mem_literal {c : Char} {t : Text} (h : c ∉ t) : c ∉ (String.ofList t).toList := by
  rwa [String.toList_ofList]

theorem Text.mem_of_mem_rows {t row : Text} (h : row ∈ rows t) {c : Char} (hc : c ∈ row) :
    c ∈ t := by
  unfold rows at h
  rcases List.mem_append.1 h with h | h
  · obtain ⟨p, hp, rfl⟩ := List.mem_map.1 h
    exact (infix_of_mem_pieces (List.dropLast_subset _ hp)).subset (mem_of_mem_dropReturn hc)
  · obtain ⟨h, -⟩ := List.mem_filter.1 h
    exact (infix_of_mem_pieces (List.mem_of_getLast? (Option.mem_toList.1 h))).subset hc

theorem Text.mem_of_mem_firstRow {t : Text} {c : Char} (h : c ∈ (rows t).headD []) : c ∈ t := by
  cases hrows : rows t with
  | nil =>
    rw [hrows] at h
    cases h
  | cons row below =>
    rw [hrows] at h
    have hrow : row ∈ rows t := by
      rw [hrows]
      exact List.mem_cons_self
    exact mem_of_mem_rows hrow h

theorem Rule.escape_not_mem_name (r : Rule) : '\x1b' ∉ r.name.toList := by
  cases r <;> exact Text.not_mem_literal (by decide)

theorem escape_not_mem_rowDisplay {row : Text} (h : '\x1b' ∉ row) :
    '\x1b' ∉ (rowDisplay row).plain := by
  unfold rowDisplay
  simp only [plain_append, plain_inStyle, plain_ofString, List.mem_append, not_or]
  exact ⟨⟨⟨by decide, by decide⟩, by decide⟩, h⟩

theorem Issue.escape_not_mem_display {i : Issue} (h : '\x1b' ∉ i.message.toList) :
    '\x1b' ∉ i.display.plain := by
  have hmark : i.mark.1 ≠ '\x1b' := by
    unfold mark
    split <;> decide
  unfold display
  simp only [plain_append, plain_inStyle, plain_ofString, plain_plainly, mem_plain_flatMap,
    List.mem_append, not_or]
  refine ⟨⟨⟨⟨⟨by simpa using hmark.symm, by decide⟩, i.rule.escape_not_mem_name⟩, by decide⟩,
    fun hfirst => h (Text.mem_of_mem_firstRow hfirst)⟩, ?_⟩
  rintro ⟨row, hrow, hmem⟩
  exact escape_not_mem_rowDisplay
    (fun hc => h (Text.mem_of_mem_rows (List.mem_of_mem_tail hrow) hc)) hmem

/-! ## Commits -/

namespace Text

section Ascii

variable {t : Text} (h : ∀ c ∈ t, c.utf8Size = 1)
include h

theorem byteLength_eq_length : byteLength t = t.length := by
  induction t with
  | nil => rfl
  | cons c t ih =>
    rw [List.forall_mem_cons] at h
    rw [byteLength, h.1, ih h.2, List.length_cons, Nat.add_comm]

theorem takeBytes_eq_take (n : Nat) : takeBytes n t = t.take n := by
  induction t generalizing n with
  | nil => rw [takeBytes, List.take_nil]
  | cons c t ih =>
    rw [List.forall_mem_cons] at h
    cases n with
    | zero => rw [takeBytes, h.1, if_neg (by decide), List.take_zero]
    | succ n =>
      rw [takeBytes, h.1, if_pos (by omega), Nat.add_sub_cancel, ih h.2, List.take_succ_cons]

end Ascii

theorem utf8Size_of_isHexDigit {c : Char} (h : isHexDigit c = true) : c.utf8Size = 1 := by
  rw [Char.utf8Size_eq_one_iff]
  unfold isHexDigit hexDigit? at h
  split_ifs at h with hdigit hsmall hlarge
  · exact UInt32.le_trans hdigit.2 (by decide)
  · exact UInt32.le_trans hsmall.2 (by decide)
  · exact UInt32.le_trans hlarge.2 (by decide)
  · cases h

end Text

namespace Report

/-- A commit in digits is cut between two of them. -/
theorem shortCommit_of_digits {commit : Text} (h : ∀ c ∈ commit, isHexDigit c = true) :
    shortCommit commit = .ok (commit.take shortCommitBytes) := by
  -- Every digit is one byte, so the bytes that are asked for are so many characters.
  have hsize := fun c hc => utf8Size_of_isHexDigit (h c hc)
  have htake := Text.takeBytes_eq_take hsize shortCommitBytes
  have hlength : Text.byteLength (commit.take shortCommitBytes) =
      (commit.take shortCommitBytes).length :=
    Text.byteLength_eq_length fun c hc => hsize c (List.mem_of_mem_take hc)
  unfold shortCommit
  simp only [htake, Text.byteLength_eq_length hsize, hlength, List.length_take]
  rw [if_neg (Nat.lt_irrefl _)]

/-! ## Reports -/

/-- No escape is in what the report takes over, and its commit is written in hexadecimal digits. -/
structure EscapeFree (r : Report) : Prop where
  header : '\x1b' ∉ r.header
  messages : ∀ i ∈ r.issues, '\x1b' ∉ i.message.toList
  commit : ∀ commit ∈ r.commit, ∀ c ∈ commit, isHexDigit c = true

theorem EscapeFree.exists_commitDisplay {r : Report} (h : r.EscapeFree) :
    ∃ shown, commitDisplay r.commit = .ok shown ∧ '\x1b' ∉ shown.plain := by
  cases hcommit : r.commit with
  | none => exact ⟨[], rfl, List.not_mem_nil⟩
  | some commit =>
    have hdigits := h.commit commit hcommit
    refine ⟨_, by rw [commitDisplay, shortCommit_of_digits hdigits]; rfl, ?_⟩
    rw [plain_append, plain_inStyle, plain_ofString, List.mem_append, not_or]
    refine ⟨fun hmem => ?_, by decide⟩
    cases hdigits _ (List.mem_of_mem_take hmem)

theorem EscapeFree.exists_headerLine {r : Report} (h : r.EscapeFree) :
    ∃ line, r.headerLine = .ok line ∧ '\x1b' ∉ line.plain := by
  obtain ⟨commit, hcommit, hplain⟩ := h.exists_commitDisplay
  have hmark : '\x1b' ∉ r.mark.plain := by
    unfold mark
    split <;> decide
  refine ⟨_, by rw [headerLine, hcommit]; rfl, ?_⟩
  simp only [plain_append, plain_ofString, plain_plainly, List.mem_append, not_or]
  exact ⟨⟨⟨⟨hmark, by decide⟩, hplain⟩, h.header⟩, by decide⟩

theorem EscapeFree.exists_displayText {r : Report} (h : r.EscapeFree) :
    ∃ shown, r.displayText = .ok shown ∧ '\x1b' ∉ shown.plain := by
  obtain ⟨line, hline, hplain⟩ := h.exists_headerLine
  refine ⟨_, by rw [displayText, hline]; rfl, ?_⟩
  rw [plain_append, List.mem_append, not_or, mem_plain_flatMap]
  refine ⟨hplain, ?_⟩
  rintro ⟨i, hi, hmem⟩
  simp only [issueLine, plain_append, plain_ofString, List.mem_append] at hmem
  rcases hmem with (hmem | hmem) | hmem
  · exact absurd hmem (by decide)
  · exact Issue.escape_not_mem_display (h.messages i hi) hmem
  · exact absurd hmem (by decide)

/-! ## JSON -/

theorem plain_issueToJson (i : Issue) (depth : Nat) : i.toJson.Plain (depth + 1) := by
  refine .ofFields fun field hfield => ?_
  simp only [List.mem_cons, List.not_mem_nil, or_false] at hfield
  rcases hfield with rfl | rfl | rfl <;> exact .string ..

theorem plain_toJson (r : Report) (depth : Nat) : r.toJson.Plain (depth + 3) := by
  have hissues (is : List Issue) : (Json.array (is.map Issue.toJson)).Plain (depth + 2) := by
    refine .array fun j hj => ?_
    obtain ⟨i, -, rfl⟩ := List.mem_map.1 hj
    exact plain_issueToJson i depth
  refine .ofFields fun field hfield => ?_
  simp only [List.mem_cons, List.not_mem_nil, or_false] at hfield
  rcases hfield with rfl | rfl | rfl | rfl | rfl
  · exact .bool ..
  · cases r.commit with
    | none => exact .null _
    | some commit => exact .string ..
  · exact .string ..
  · exact hissues r.errors
  · exact hissues r.warnings

theorem escape_not_mem_displayJson (r : Report) : '\x1b' ∉ r.displayJson.plain := by
  rw [displayJson, plain_plainly, List.mem_append, not_or]
  refine ⟨fun hmem => ?_, by decide⟩
  exact absurd ((r.plain_toJson 0).printable .pretty 0 _ hmem) (by decide)

theorem EscapeFree.exists_display {r : Report} (h : r.EscapeFree) (format : Option OutputFormat) :
    ∃ shown, r.display format = .ok shown ∧ '\x1b' ∉ shown.plain := by
  unfold display
  split
  · exact ⟨_, rfl, r.escape_not_mem_displayJson⟩
  · exact h.exists_displayText

/-- If no escape is in the header and the messages of a report, and its commit is in hexadecimal
digits, then the report is displayed in every format, and with the styles taken off, each issue and
each display with colours is the one without. In JSON there are no styles to take off. -/
theorem unstyled_display {r : Report} (h : r.EscapeFree) :
    (∀ i ∈ r.issues, unstyled (i.display.render true) = i.display.render false) ∧
    (∀ format, ∃ shown, r.display format = .ok shown ∧
      unstyled (shown.render true) = shown.render false) ∧
    ∃ shown, r.display (some .json) = .ok shown ∧ shown.render true = shown.render false := by
  refine ⟨fun i hi => ?_, fun format => ?_, r.displayJson, rfl, rfl⟩
  · exact unstyled_render (Issue.escape_not_mem_display (h.messages i hi))
  · obtain ⟨shown, hshown, hplain⟩ := h.exists_display format
    exact ⟨shown, hshown, unstyled_render hplain⟩

/-- A commit, an empty row in a message, an error and a warning. -/
theorem unstyled_display_mixed :
    let r : Report := ⟨"Add parser".toList, some "1a2b3c4d5e".toList,
      [⟨.bodyProse, "It reads.\n\nIt fails.", .error⟩], [⟨.typeEmpty, "It has none.", .warning⟩]⟩
    r.EscapeFree ∧ ∃ shown, r.display none = .ok shown ∧ shown.render true ≠ shown.render false ∧
      unstyled (shown.render true) = shown.render false ∧ shown.render false =
        ("✗ 1a2b3c4 Add parser\n  ✗ body-prose It reads.\n  → \n  → It fails.\n" ++
          "  ⚠ type-empty It has none.\n").toList := by
  intro r
  have hfree : r.EscapeFree := by
    refine ⟨by decide, by decide, ?_⟩
    rintro commit ⟨⟩
    exact List.all_eq_true.1 (by decide)
  obtain ⟨shown, hshown, hplain⟩ := (unstyled_display hfree).2.1 none
  obtain rfl : _ = shown := Except.ok.inj hshown
  refine ⟨hfree, _, hshown, by decide, hplain, ?_⟩
  rw [String.toList_append, String.toList_ofList, String.toList_ofList]
  decide

end Report
end CommitStyle
