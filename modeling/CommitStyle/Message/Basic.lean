import CommitStyle.Error
import CommitStyle.Json.Basic
import CommitStyle.Message.FooterNote
import CommitStyle.Message.Paragraph

/-!
# Commit messages

A message is its raw text and its header; the body, its lines and the footer are cut out of the raw
text when they are asked for. `Message.parse` takes the header from the first line that is not
blank. `Message.ofJson` takes a message from another program, which may hand over the header by
itself.
-/

namespace CommitStyle

/-- A commit message. -/
structure Message where
  raw : Text
  header : Text
  deriving Repr, DecidableEq

namespace Message

/-! ## Making a message -/

/-- The first line of the trimmed text, without the carriage returns at its end. -/
def headerOf (raw : Text) : Text :=
  if '\n' ∈ raw.trim then Text.dropEndWhile (· == '\r') (raw.trim.takeWhile (· ≠ '\n'))
  else raw.trim

/-- The message with this raw text. A blank text is none. -/
def parse (raw : Text) : Except InputError Message :=
  if raw.trim = [] then .error .emptyMessage else .ok ⟨raw, headerOf raw⟩

/-- The message of a header and a raw text that are handed over apart. -/
def ofFields (header raw : Text) : Message :=
  ⟨raw, header⟩

/-- The string that a field holds. -/
def stringField (name : String) : Json → Except InputError Text
  | .string s => .ok s.toList
  | j => .error (.expectedString name j.kind)

/-- The message of an object with a field `raw` and, if it names the header, a field `header`. -/
def ofJson (j : Json) : Except InputError Message := do
  match j.field? "raw" with
  | none => .error .expectedObject
  | some rawField =>
    let raw ← stringField "raw" rawField
    match j.field? "header" with
    | none => parse raw
    | some headerField =>
      let header ← stringField "header" headerField
      if '\n' ∈ header ∨ '\r' ∈ header then .error (.multiLineHeader header)
      else .ok (ofFields header raw)

/-! ## Regions -/

/-- Everything from the first line break of the trimmed text on. -/
def rawBody (m : Message) : Option Text :=
  match m.raw.trim.dropWhile (· ≠ '\n') with
  | [] => none
  | body => some body

/-- The trimmed body, if there is anything in it. -/
def body (m : Message) : Option Text :=
  m.rawBody.bind Text.trim?

/-- The message has a body. -/
def hasBody (m : Message) : Bool :=
  m.body.isSome

/-- The trimmed body without code, if there is anything left. -/
def bodyWithoutCode (m : Message) : Option Text :=
  m.rawBody.bind fun body => body.withoutCode.trim?

/-- The lines of the trimmed body. -/
def bodyLines (m : Message) : List Line :=
  (m.body.map Text.lines).getD []

/-- The lines of the body from the first footer note on. -/
def footerLines (m : Message) : List Line :=
  m.bodyLines.dropWhile fun l => !l.isFooterNote

end Message
end CommitStyle
