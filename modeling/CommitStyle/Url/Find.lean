import CommitStyle.Text.Blank
import CommitStyle.Text.WordChar
import CommitStyle.Url.Basic

/-!
# URLs in prose

`Url.find` lists the URLs that a text mentions, in order. A mention is a scheme, `://` and all
characters up to a blank or a bracket; punctuation at its end belongs to the sentence, and what
remains must be a URL. `Url.isCommitLink` recognises the link to a commit on a web forge by its
path.
-/

namespace CommitStyle.Url

/-! ## Mentions -/

/-- The character ends a mention: a blank, an angle bracket, a parenthesis or a square bracket. -/
def isDelimiter (c : Char) : Bool :=
  isBlank c || ['<', '>', '(', ')', '[', ']'].contains c

/-- A punctuation mark that belongs to the sentence around a mention. -/
def isSentenceMark (c : Char) : Bool :=
  ['.', ',', ';', ':', '!', '?'].contains c

/-- What stands between the scheme and the rest of a mention. -/
def slashes : Text := [':', '/', '/']

/-- The mention at the start of the text, and what follows it. -/
def mentionAt? (t : Text) : Option (Text × Text) :=
  let scheme := t.takeWhile isSchemeChar
  let rest := t.dropWhile isSchemeChar
  let body := (rest.drop 3).takeWhile fun c => !isDelimiter c
  if (t.head?.map isLetter).getD false && slashes.isPrefixOf rest && body ≠ [] then
    some (scheme ++ slashes ++ body, (rest.drop 3).dropWhile fun c => !isDelimiter c)
  else none

theorem length_lt_of_mentionAt? {t m after : Text} (h : mentionAt? t = some (m, after)) :
    after.length < t.length := by
  rw [mentionAt?] at h
  split at h
  · next hp =>
    simp only [Option.some.injEq, Prod.mk.injEq] at h
    obtain ⟨-, rfl⟩ := h
    have h₁ := (List.dropWhile_suffix (l := (t.dropWhile isSchemeChar).drop 3)
      fun c => !isDelimiter c).length_le
    have h₂ := (List.dropWhile_suffix (l := t) isSchemeChar).length_le
    have h₃ : slashes.length ≤ (t.dropWhile isSchemeChar).length :=
      (List.isPrefixOf_iff_prefix.1 (by simp_all)).length_le
    simp only [List.length_drop] at h₁
    simp only [slashes, List.length_cons, List.length_nil] at h₃
    omega
  · simp at h

/-- The mentions in the text, from left to right. -/
def mentions (t : Text) : List Text :=
  match t with
  | [] => []
  | c :: rest =>
    match _h : mentionAt? (c :: rest) with
    | some (mention, after) => mention :: mentions after
    | none => mentions rest
termination_by t.length
decreasing_by
  · exact length_lt_of_mentionAt? _h
  · simp

/-- The URLs that the text mentions. -/
def find (t : Text) : List Text :=
  ((mentions t).map (Text.dropEndWhile isSentenceMark)).filter isUrl

/-! ## Links to commits -/

/-- The text starts with the path of a commit: its hash has 7 to 40 digits and ends a word. -/
def startsCommitPath (t : Text) : Bool :=
  hashAt ['/', 'c', 'o', 'm', 'm', 'i', 't', '/'] ||
    hashAt ['/', 'c', 'o', 'm', 'm', 'i', 't', 's', '/']
where
  /-- The path starts with `start`, and a whole hash follows. -/
  hashAt (start : Text) : Bool :=
    let hash := (t.drop start.length).takeWhile isHexDigit
    let after := (t.drop start.length).dropWhile isHexDigit
    start.isPrefixOf t && 7 ≤ hash.length && hash.length ≤ 40 &&
      !(after.head?.map isWordChar).getD false

/-- The URL links to a commit. -/
def isCommitLink : Text → Bool
  | [] => false
  | c :: rest => startsCommitPath (c :: rest) || isCommitLink rest

end CommitStyle.Url
