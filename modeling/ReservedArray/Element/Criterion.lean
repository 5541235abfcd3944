/-
# Ways to compare

Besides their natural order, elements can be compared by one side of them, and by rules that are
no order of distinct elements at all.
-/
import ReservedArray.Element.Basic

namespace ReservedArray

/-- A rule by which two elements are compared. -/
inductive Criterion where
  | natural
  | reversed
  /-- By the number. -/
  | number
  /-- By the remainder of the number by two, which has the number's sign. -/
  | parity
  /-- By the number of whole tens, toward zero. -/
  | tens
  /-- By the number without its sign. -/
  | magnitude
  | text
  /-- By the text with the letters A to Z in lower case. -/
  | foldedText
  | alwaysEqual
  | alwaysLess
  | alwaysGreater
deriving DecidableEq

namespace Criterion

variable {τ : Type} [Element τ]

/-- The text with the letters A to Z in lower case; other letters stay. -/
def fold (text : String) : String := text.map Char.toLower

/-- The order of two elements by the rule. -/
def compare : Criterion → τ → τ → Ordering
  | natural, x, y => Element.order x y
  | reversed, x, y => (Element.order x y).swap
  | number, x, y => Ord.compare (Element.number x) (Element.number y)
  | parity, x, y => Ord.compare ((Element.number x).tmod 2) ((Element.number y).tmod 2)
  | tens, x, y => Ord.compare ((Element.number x).tdiv 10) ((Element.number y).tdiv 10)
  | magnitude, x, y => Ord.compare (Element.number x).natAbs (Element.number y).natAbs
  | text, x, y => Ord.compare (Element.text x) (Element.text y)
  | foldedText, x, y => Ord.compare (fold (Element.text x)) (fold (Element.text y))
  | alwaysEqual, _, _ => .eq
  | alwaysLess, _, _ => .lt
  | alwaysGreater, _, _ => .gt

end Criterion

end ReservedArray
