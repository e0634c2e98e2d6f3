import Mathlib.Data.List.Basic
import Mathlib.Data.List.Infix

/-!
# White Space

Which characters separate the words of a text, and which texts have none.
-/

namespace NovelAgent.Core.Text

/-- White space, over all of Unicode. -/
def isSpace (c : Char) : Bool :=
  let code := c.toNat
  (9 ≤ code && code ≤ 13) || (28 ≤ code && code ≤ 32) || code == 0x85 || code == 0xA0 ||
    code == 0x1680 || (0x2000 ≤ code && code ≤ 0x200A) || code == 0x2028 || code == 0x2029 ||
    code == 0x202F || code == 0x205F || code == 0x3000

/-- A text without a character that is not white space. -/
def isBlank (text : String) : Bool :=
  text.toList.all isSpace

/-- A text without the white space around it. -/
def strip (text : String) : String :=
  String.ofList ((text.toList.dropWhile isSpace).reverse.dropWhile isSpace).reverse

/-- The words of a text. -/
def words (text : String) : List String :=
  ((text.toList.splitOnP isSpace).filter fun word => word ≠ []).map String.ofList

/-- The first text stands somewhere in the second. -/
def contains (part text : String) : Bool :=
  part.toList <:+: text.toList

theorem ne_empty_of_not_isBlank {text : String} (h : ¬ isBlank text = true) : text ≠ "" := by
  rintro rfl
  exact h rfl

end NovelAgent.Core.Text
