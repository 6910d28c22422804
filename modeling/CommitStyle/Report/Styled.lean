import CommitStyle.Text.Basic

/-!
# Styled text

Text for a terminal is a list of spans, each in some styles. With colours a span in a style stands
between control sequences that turn its styles on and off again; without colours only the text of
the spans is left, which is `Styled.plain`.
-/

namespace CommitStyle

/-- A way in which a terminal shows text. -/
inductive Style where
  | bold | dim | red | green | yellow | cyan
  deriving DecidableEq, Repr

/-- The number that turns the style on. -/
def Style.code : Style → Text
  | .bold => ['1']
  | .dim => ['2']
  | .red => ['3', '1']
  | .green => ['3', '2']
  | .yellow => ['3', '3']
  | .cyan => ['3', '6']

/-- A text in some styles. -/
structure Span where
  styles : List Style
  text : Text
  deriving DecidableEq, Repr

/-- Spans one after the other. -/
abbrev Styled := List Span

/-- The control sequence with this number. -/
def controlSequence (code : Text) : Text :=
  '\x1b' :: '[' :: code ++ ['m']

/-- The span as it is sent to a terminal with or without colours. -/
def Span.render (color : Bool) (s : Span) : Text :=
  if color && !s.styles.isEmpty then
    s.styles.flatMap (fun style => controlSequence style.code) ++ s.text ++ controlSequence ['0']
  else s.text

namespace Styled

/-- A text without any style. -/
def plainly (t : Text) : Styled :=
  [⟨[], t⟩]

/-- A string without any style. -/
def ofString (s : String) : Styled :=
  plainly s.toList

/-- A text in these styles. -/
def inStyle (styles : List Style) (t : Text) : Styled :=
  [⟨styles, t⟩]

/-- What is sent to a terminal with or without colours. -/
def render (color : Bool) (s : Styled) : Text :=
  s.flatMap (Span.render color)

/-- The text alone. -/
def plain (s : Styled) : Text :=
  s.flatMap Span.text

@[simp] theorem render_false (s : Styled) : s.render false = s.plain :=
  rfl

end Styled
end CommitStyle
