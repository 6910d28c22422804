import CommitStyle.Text.CharTable

/-!
# Percent-encoding

In a host, `%` and two hexadecimal digits stand for one byte. `percentDecode?` reads the bytes of
a text as UTF-8.
-/

namespace CommitStyle.Url

/-- The bytes of the text, with `%` and two hexadecimal digits for one byte. -/
def percentBytes : Text → List UInt8
  | [] => []
  | '%' :: a :: b :: rest =>
    match hexDigit? a, hexDigit? b with
    | some high, some low => UInt8.ofNat (16 * high + low) :: percentBytes rest
    | _, _ => String.utf8EncodeChar '%' ++ percentBytes (a :: b :: rest)
  | c :: rest => String.utf8EncodeChar c ++ percentBytes rest

/-- The text that the bytes of `t` write, if they are UTF-8. -/
def percentDecode? (t : Text) : Option Text :=
  if '%' ∈ t then (String.fromUTF8? ⟨(percentBytes t).toArray⟩).map String.toList else some t

end CommitStyle.Url
