import FieldFilter.Text.Digits

/-! Percent escapes. A percent sign with two hexadecimal digits stands for a byte; every other
character stands for its own bytes in UTF-8.
-/

namespace FieldFilter.Text

/-- The bytes that a text with percent escapes stands for. -/
def percentBytes : List Char → List UInt8
  | '%' :: high :: low :: rest =>
    match hexDigit? high, hexDigit? low with
    | some h, some l => UInt8.ofNat (h * 16 + l) :: percentBytes rest
    | _, _ => String.utf8EncodeChar '%' ++ percentBytes (high :: low :: rest)
  | c :: rest => String.utf8EncodeChar c ++ percentBytes rest
  | [] => []

/-- The text that a text with percent escapes stands for, if its bytes are one. -/
def percentDecoded? (cs : List Char) : Option String :=
  String.fromUTF8? (percentBytes cs).toByteArray

end FieldFilter.Text
