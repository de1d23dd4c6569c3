import Flowchart.Text.Digit
import Flowchart.Text.Utf8

/-!
The page that shows an image. The image is named by a reference relative to the page: the characters that
would end or change a reference are written as percent codes, and the result is escaped once more to stand
in an attribute of the page. `unescape` and `percentDecode` read the two layers back.
-/

namespace Flowchart.Page

/-- The form of a character in a reference. -/
def percentEncode (c : Char) : Text :=
  if c = '%' then "%25".toList
  else if c = '#' then "%23".toList
  else if c = '?' then "%3F".toList
  else if c = ' ' then "%20".toList
  else [c]

/-- The form of a character in an attribute. -/
def escape (c : Char) : Text :=
  if c = '&' then "&amp;".toList
  else if c = '"' then "&quot;".toList
  else if c = '<' then "&lt;".toList
  else if c = '>' then "&gt;".toList
  else [c]

/-- The attribute that refers to an image. -/
def reference (image : Text) : Text := (image.flatMap percentEncode).flatMap escape

def page (image : Text) : Text :=
  "<html><body><img src=\"".toList ++ reference image ++ "\" alt=\"Flowchart\"></body></html>".toList

/-! ### Reading -/

/-- The value of an attribute: its entities are replaced in one pass. -/
def unescape : Text → Text
  | [] => []
  | '&' :: 'a' :: 'm' :: 'p' :: ';' :: rest => '&' :: unescape rest
  | '&' :: 'q' :: 'u' :: 'o' :: 't' :: ';' :: rest => '"' :: unescape rest
  | '&' :: 'l' :: 't' :: ';' :: rest => '<' :: unescape rest
  | '&' :: 'g' :: 't' :: ';' :: rest => '>' :: unescape rest
  | c :: rest => c :: unescape rest

/-- The bytes that a reference stands for: a percent code is one byte, any other character is written in
UTF-8. -/
def percentDecode : Text → Bytes
  | [] => []
  | '%' :: a :: b :: rest =>
    if Text.isHexDigit a ∧ Text.isHexDigit b then UInt8.ofNat (Text.natOfDigits 16 [a, b]) :: percentDecode rest
    else Text.encode ['%'] ++ percentDecode (a :: b :: rest)
  | c :: rest => Text.encode [c] ++ percentDecode rest

end Flowchart.Page
