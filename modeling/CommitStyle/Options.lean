import CommitStyle.Abbreviation

/-!
# Options of the rules

The settings that the rules read, apart from their severities.
-/

namespace CommitStyle

/-- What the rules know beside the message. -/
structure Options where
  /-- The most characters of a header. -/
  headerMaxLength : Nat
  /-- The most characters of a body line. -/
  bodySoftMaxLineLength : Nat
  /-- The most characters of a footer line. -/
  footerMaxLineLength : Nat
  /-- The abbreviations that are suggested, in order. -/
  abbreviations : List Abbreviation
  /-- The owner and the name of the repository, if known. -/
  repository : Option Text
  deriving DecidableEq, Repr

end CommitStyle
