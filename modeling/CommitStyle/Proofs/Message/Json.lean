import CommitStyle.Proofs.Json.Object
import CommitStyle.Proofs.Rule.Misuse
import CommitStyle.Proofs.Text.LineBreak

/-!
# Messages from objects

A message is made from a raw text alone, or from an object that may name the header by itself. The
first way takes the header up to the first line feed, the second one refuses a header with a line
break of any kind in it. They part only at a carriage return that stays in the first line because it
belongs to no line break (`Message.ofJson_agrees_with_parse`).
-/

namespace CommitStyle

namespace Message

open Text

/-! ## Headers without carriage returns -/

theorem eq_of_parse {raw : Text} {m : Message} (h : parse raw = .ok m) :
    m = ⟨raw, headerOf raw⟩ := by
  unfold parse at h
  split at h
  · cases h
  · cases h
    rfl

/-- The carriage returns of line breaks are no part of the header. -/
theorem return_not_mem_headerOf {raw : Text} (h : ReturnsPaired raw) : '\r' ∉ headerOf raw := by
  unfold headerOf
  split
  · rw [dropEndWhile_return h.trim]
    exact return_not_mem_withoutReturns _
  · next hn => exact h.trim.return_not_mem hn

/-! ## Objects -/

section Fields

variable {j : Json} {raw header : Text}

/-- An object without a header is the message of its raw text. -/
theorem ofJson_of_raw (hraw : j.field? "raw" = some (.string (String.ofList raw)))
    (hheader : j.field? "header" = none) : ofJson j = parse raw := by
  unfold ofJson
  rw [hraw, hheader]
  change parse (String.ofList raw).toList = _
  rw [String.toList_ofList]

/-- An object with a header is the message of both, unless the header is broken over lines. -/
theorem ofJson_of_header (hraw : j.field? "raw" = some (.string (String.ofList raw)))
    (hheader : j.field? "header" = some (.string (String.ofList header))) :
    ofJson j = if '\n' ∈ header ∨ '\r' ∈ header then .error (.multiLineHeader header)
      else .ok ⟨raw, header⟩ := by
  unfold ofJson
  rw [hraw, hheader]
  change (if '\n' ∈ (String.ofList header).toList ∨ '\r' ∈ (String.ofList header).toList then
    Except.error (InputError.multiLineHeader (String.ofList header).toList)
    else .ok (ofFields (String.ofList header).toList (String.ofList raw).toList)) = _
  rw [String.toList_ofList, String.toList_ofList]
  rfl

end Fields

/-- The object of a raw text alone is its message. The object that names the header of the text too
is the same message, unless a carriage return is left in the header, which is then refused. None is
left where all of them belong to line breaks. -/
theorem ofJson_agrees_with_parse {raw : Text} {m : Message} (h : parse raw = .ok m) :
    ofJson (.ofFields [("raw", .string (String.ofList raw))]) = .ok m ∧
    ofJson (.ofFields [("header", .string (String.ofList m.header)),
        ("raw", .string (String.ofList raw))]) =
      (if '\r' ∈ m.header then .error (.multiLineHeader m.header) else .ok m) ∧
    (ReturnsPaired raw → '\r' ∉ m.header) := by
  obtain rfl := eq_of_parse h
  have hplain : ofJson (.ofFields [("raw", .string (String.ofList raw))]) = parse raw :=
    ofJson_of_raw (Json.field?_ofFields _ _) (Json.field?_ofFields _ _)
  have hnamed : ofJson (.ofFields [("header", .string (String.ofList (headerOf raw))),
      ("raw", .string (String.ofList raw))]) =
        if '\n' ∈ headerOf raw ∨ '\r' ∈ headerOf raw then
          .error (.multiLineHeader (headerOf raw))
        else .ok ⟨raw, headerOf raw⟩ :=
    ofJson_of_header (Json.field?_ofFields _ _) (Json.field?_ofFields _ _)
  have hbreak : '\n' ∈ headerOf raw ∨ '\r' ∈ headerOf raw ↔ '\r' ∈ headerOf raw :=
    or_iff_right (unbroken_headerOf raw)
  simp only [hbreak] at hnamed
  exact ⟨hplain.trans h, hnamed, return_not_mem_headerOf⟩

/-- Carriage returns before a line feed and at the end of the text. -/
theorem ofJson_agrees_with_parse_returns :
    ∃ m, parse "\r\ncore: add parser\r\r\nIt reads.\r".toList = .ok m ∧
      ofJson (.ofFields [("header", .string "core: add parser"),
        ("raw", .string "\r\ncore: add parser\r\r\nIt reads.\r")]) = .ok m := by
  have hparse : parse "\r\ncore: add parser\r\r\nIt reads.\r".toList =
      .ok ⟨"\r\ncore: add parser\r\r\nIt reads.\r".toList, "core: add parser".toList⟩ := by
    decide +kernel
  have hnamed := (ofJson_agrees_with_parse hparse).2.1
  rw [if_neg (by decide), String.ofList_toList, String.ofList_toList] at hnamed
  exact ⟨_, hparse, hnamed⟩

/-- A carriage return between two words. -/
theorem ofJson_refuses_header_of_parse :
    parse "core: add\rparser\n\nIt reads.".toList =
        .ok ⟨"core: add\rparser\n\nIt reads.".toList, "core: add\rparser".toList⟩ ∧
      ofJson (.ofFields [("header", .string "core: add\rparser"),
        ("raw", .string "core: add\rparser\n\nIt reads.")]) =
        .error (.multiLineHeader "core: add\rparser".toList) := by
  decide +kernel

end Message
end CommitStyle
