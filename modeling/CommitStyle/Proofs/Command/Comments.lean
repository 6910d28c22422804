import CommitStyle.Command.Run
import CommitStyle.Proofs.Linter.FinalBreak
import CommitStyle.Proofs.Linter.LineBreak
import CommitStyle.Proofs.Message.Json
import Mathlib.Data.List.Permutation

/-!
# Comments and what is stored

`Text.stored` is the text as it becomes part of a commit : its lines as they are written, each with
its own line break, up to the scissors line and without comments. The command reads a text in
another way, by rows that it joins anew, which loses carriage returns and the final line break
(`Text.Lined.flatten`). The rules do not see the difference (`Config.lintsAlike_withoutComments`).
Comments that are put between the lines, and anything below the scissors line, are no part of what
is read at all (`Text.Commented.withoutComments_eq`).
-/

namespace CommitStyle

namespace Text

/-! ## What is stored -/

/-- The lines above the scissors line that are no comments. -/
def storedLines (t : Text) : List Text :=
  ((fullLines t).takeWhile fun l => content l ≠ scissors).filter fun l => l.head? ≠ some '#'

/-- The part of the text that is stored. -/
def stored (t : Text) : Text :=
  (storedLines t).flatten

/-- A comment is one with or without its line break. -/
theorem head?_content (l : Text) : (content l).head? = some '#' ↔ l.head? = some '#' := by
  constructor
  · intro h
    obtain ⟨rest, hrest⟩ := prefix_content l
    rw [← hrest, List.head?_append, h]
    rfl
  · intro h
    obtain ⟨l, rfl⟩ := List.head?_eq_some_iff.1 h
    unfold content
    split
    · next hlast =>
      cases l with
      | nil => simp at hlast
      | cons c l =>
        obtain ⟨q, hq⟩ := dropReturn_cons (c := '#') (by decide) (c :: l).dropLast
        rw [List.dropLast_cons_cons, hq]
        rfl
    · rfl

theorem map_content_storedLines (t : Text) : (storedLines t).map content =
    (t.rows.takeWhile (· ≠ scissors)).filter fun row => row.head? ≠ some '#' := by
  unfold storedLines
  rw [← map_content_fullLines, List.takeWhile_map, List.filter_map]
  congr 2
  funext l
  simp [head?_content]

theorem lined_storedLines {t : Text} (h : ReturnsPaired t) : Lined (storedLines t) :=
  (lined_fullLines h).sublist (List.filter_sublist.trans (List.takeWhile_sublist _))

/-- A text without number signs at the start of its rows is stored as it is. -/
theorem stored_eq_self {t : Text} (h : ∀ row ∈ t.rows, row.head? ≠ some '#') : stored t = t := by
  have hmark : ∀ l ∈ fullLines t, l.head? ≠ some '#' := fun l hl hhead =>
    h (content l) (map_content_fullLines t ▸ List.mem_map_of_mem hl) ((head?_content l).2 hhead)
  have hscissors : ∀ l ∈ fullLines t, content l ≠ scissors := fun l hl heq =>
    hmark l hl ((head?_content l).1 (by rw [heq]; decide))
  unfold stored storedLines
  rw [List.takeWhile_eq_self_iff.2 (by simpa using hscissors),
    List.filter_eq_self.2 (by simpa using hmark), flatten_fullLines]

/-! ## What is not stored -/

/-- The rows of the second list are those of the first with comments put in, and with anything else
below the scissors line. -/
inductive Commented : List Text → List Text → Prop
  | nil : Commented [] []
  | row {rs ss : List Text} (r : Text) : Commented rs ss → Commented (r :: rs) (r :: ss)
  | comment {rs ss : List Text} {r : Text} : r.head? = some '#' → r ≠ scissors →
      Commented rs ss → Commented rs (r :: ss)
  | changes (below : List Text) : Commented [] (scissors :: below)
  | changed (below below' : List Text) : Commented (scissors :: below) (scissors :: below')

namespace Commented

variable {rs ss : List Text}

theorem refl : ∀ rs : List Text, Commented rs rs
  | [] => nil
  | r :: rs => row r (refl rs)

theorem append_left (qs : List Text) (h : Commented rs ss) : Commented (qs ++ rs) (qs ++ ss) := by
  induction qs with
  | nil => exact h
  | cons q qs ih => exact row q ih

theorem kept_eq (h : Commented rs ss) :
    ((rs.takeWhile (· ≠ scissors)).filter fun row => row.head? ≠ some '#') =
      (ss.takeWhile (· ≠ scissors)).filter fun row => row.head? ≠ some '#' := by
  induction h with
  | nil => rfl
  | @row rs ss r h ih =>
    by_cases hr : r = scissors
    · simp [hr]
    · by_cases hmark : r.head? = some '#' <;> simpa [hr, hmark] using ih
  | @comment rs ss r hmark hr h ih => simpa [hr, hmark] using ih
  | changes below => simp
  | changed below below' => simp

/-- Comments and what stands below the scissors line are not read. -/
theorem withoutComments_eq {t u : Text} (h : Commented t.rows u.rows) :
    u.withoutComments = t.withoutComments := by
  unfold withoutComments
  rw [h.kept_eq]

end Commented

/-- A comment may be put in wherever a line starts. -/
theorem Commented.insert (above row below : Text) (habove : StartsLine above) (hn : '\n' ∉ row)
    (hmark : row.head? = some '#') (hrow : dropReturn row ≠ scissors) :
    Commented (rows (above ++ below)) (rows (above ++ (row ++ '\n' :: below))) := by
  obtain ⟨rest, rfl⟩ := List.head?_eq_some_iff.1 hmark
  obtain ⟨q, hq⟩ := dropReturn_cons (c := '#') (by decide) rest
  rw [rows_append_of_startsLine habove, rows_append_of_startsLine habove, rows_line hn]
  exact append_left _ (comment (by rw [hq]; rfl) hrow (refl _))

/-- Below the scissors line, one text may stand in place of another. -/
theorem Commented.replace {above : Text} (habove : StartsLine above) (below below' : Text) :
    Commented (rows (above ++ (scissors ++ '\n' :: below)))
      (rows (above ++ (scissors ++ '\n' :: below'))) := by
  have hn : '\n' ∉ scissors := by decide
  have hrow : dropReturn scissors = scissors := by decide
  rw [rows_append_of_startsLine habove, rows_append_of_startsLine habove, rows_line hn,
    rows_line hn, hrow]
  exact append_left _ (changed _ _)

end Text

/-! ## What the command lints -/

namespace Run

/-- An object with a raw text and no header is the message of that text. -/
theorem messageOf_json {input t : Text} {j : Json} (hread : Json.read? input = some j)
    (hraw : j.field? "raw" = some (.string (String.ofList t)))
    (hheader : j.field? "header" = none) :
    messageOf true input = (Message.parse t).mapError .input := by
  unfold messageOf
  rw [if_pos rfl, hread]
  exact congrArg (Except.mapError Error.input) (Message.ofJson_of_raw hraw hheader)

end Run

namespace Config

open Text

theorem lintsAlike_withoutComments (c : Config) {t : Text} (h : ReturnsPaired t) :
    c.LintsAlike (Message.parse t.withoutComments) (Message.parse t.stored) := by
  have hlined := lined_storedLines h
  have hrows : t.withoutComments = joinRows ((storedLines t).map content) := by
    rw [map_content_storedLines]
    rfl
  have hreturns := c.lintsAlike_withoutReturns hlined.paired_flatten
  rcases hlined.flatten with hflat | hflat
  · rw [hrows, ← hflat]
    exact hreturns
  · rw [hflat, ← hrows] at hreturns
    exact (c.lintsAlike_append_feed _).symm.trans hreturns

/-- The command lints a text as what is stored of it. Comments make no difference, nor does anything
below the scissors line, and where there are none, the text lints like an object that holds it. -/
theorem lint_sees_stored (c : Config) (t : Text) (h : ReturnsPaired t) :
    c.LintsAlike (Run.messageOf false t) ((Message.parse t.stored).mapError .input) ∧
      (∀ u : Text, Commented t.rows u.rows → Run.messageOf false u = Run.messageOf false t) ∧
      ((∀ row ∈ t.rows, row.head? ≠ some '#') → ∀ (input : Text) (j : Json),
        Json.read? input = some j → j.field? "raw" = some (.string (String.ofList t)) →
        j.field? "header" = none →
        c.LintsAlike (Run.messageOf false t) (Run.messageOf true input)) := by
  have hstored := (c.lintsAlike_withoutComments h).mapError Error.input
  refine ⟨hstored, fun u hu => ?_, fun hrows input j hread hraw hheader => ?_⟩
  · exact congrArg (fun v => (Message.parse v).mapError Error.input) hu.withoutComments_eq
  · rw [Run.messageOf_json hread hraw hheader]
    rwa [stored_eq_self hrows] at hstored

/-- A text as an editor leaves it, and an object that holds what is stored of it. -/
theorem lint_sees_stored_edited :
    LintsAlike {} (Run.messageOf false "core: add parser\r\n# Edit.\r\n\nIt reads.\r\n".toList)
        ((Message.parse "core: add parser\r\n\nIt reads.\r\n".toList).mapError .input) ∧
      Run.messageOf false "core: add parser\r\n# Edit.\r\n\nIt reads.\r\n".toList =
        Run.messageOf false "core: add parser\r\n\nIt reads.\r\n".toList ∧
      LintsAlike {} (Run.messageOf false "core: add parser\r\n\nIt reads.\r\n".toList)
        (Run.messageOf true
          "\x7b\"raw\": \"core: add parser\\r\\n\\nIt reads.\\r\\n\"\x7d".toList) := by
  have hedited : ReturnsPaired "core: add parser\r\n# Edit.\r\n\nIt reads.\r\n".toList := by decide
  have hplain : ReturnsPaired "core: add parser\r\n\nIt reads.\r\n".toList := by decide
  have hinsert : Commented (rows "core: add parser\r\n\nIt reads.\r\n".toList)
      (rows "core: add parser\r\n# Edit.\r\n\nIt reads.\r\n".toList) :=
    Commented.insert "core: add parser\r\n".toList "# Edit.\r".toList "\nIt reads.\r\n".toList
      (Or.inr (by decide)) (by decide) (by decide) (by decide)
  have hread : Json.read?
      "\x7b\"raw\": \"core: add parser\\r\\n\\nIt reads.\\r\\n\"\x7d".toList =
      some (.object [("raw", .string "core: add parser\r\n\nIt reads.\r\n")]) := by cbv
  have hraw : Json.field? "raw" (.object [("raw", .string "core: add parser\r\n\nIt reads.\r\n")]) =
      some (.string (String.ofList "core: add parser\r\n\nIt reads.\r\n".toList)) := by
    rw [String.ofList_toList]
    rfl
  exact ⟨(lint_sees_stored {} _ hedited).1, (lint_sees_stored {} _ hplain).2.1 _ hinsert,
    (lint_sees_stored {} _ hplain).2.2 (by decide) _ _ hread hraw rfl⟩

end Config
end CommitStyle
