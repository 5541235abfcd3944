/-
# Quoted text

A text is shown between double quotes, and what would be misread there is escaped: the quote and
the backslash, the four control characters that have a letter of their own, and, by its code
point in hexadecimal, every other character that does not stand alone.
-/
import ReservedArray.Text.Printable

namespace ReservedArray.Text

/-- The code point in lower-case hexadecimal, without leading zeros. -/
def codePoint (c : Char) : String := String.ofList (Nat.toDigits 16 c.toNat)

/-- One character as it is written between quotes. -/
def escape (c : Char) : String :=
  if c = '"' then "\\\""
  else if c = '\\' then "\\\\"
  else if c = '\n' then "\\n"
  else if c = '\t' then "\\t"
  else if c = '\r' then "\\r"
  else if c = Char.ofNat 0 then "\\0"
  else if standsAlone c then c.toString
  else "\\u\x7b" ++ codePoint c ++ "\x7d"

/-- The text between double quotes. -/
def quote (text : String) : String :=
  "\"" ++ String.join (text.toList.map escape) ++ "\""

end ReservedArray.Text
