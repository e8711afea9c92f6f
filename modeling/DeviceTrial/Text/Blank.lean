/-
**Blank characters and trimming.**

The blanks are the characters with the property White_Space of the Unicode Character Database.

* `isBlank_of_isWhitespace` — every character that core calls white space is a blank;
* `trim` removes blanks at both ends and nothing else.
-/

namespace DeviceTrial.Text

/-- The ranges of the characters with the property White_Space, first and last code point. -/
def blankRanges : List (Nat × Nat) :=
  [(0x09, 0x0D), (0x20, 0x20), (0x85, 0x85), (0xA0, 0xA0), (0x1680, 0x1680), (0x2000, 0x200A),
   (0x2028, 0x2029), (0x202F, 0x202F), (0x205F, 0x205F), (0x3000, 0x3000)]

/-- Whether a character has the property White_Space. -/
def isBlank (c : Char) : Bool :=
  blankRanges.any fun range => range.1 ≤ c.toNat && c.toNat ≤ range.2

theorem isBlank_of_isWhitespace {c : Char} (white : c.isWhitespace = true) :
    isBlank c = true := by
  simp only [Char.isWhitespace, Bool.or_eq_true, decide_eq_true_eq] at white
  rcases white with ((rfl | rfl) | rfl) | rfl <;> decide

/-- The characters without the blanks before the first and after the last other character. -/
def trimChars (cs : List Char) : List Char :=
  ((cs.dropWhile isBlank).reverse.dropWhile isBlank).reverse

/-- The text without the blanks at its ends. -/
def trim (text : String) : String := String.ofList (trimChars text.toList)

/-- Whether nothing but blanks is in the text. -/
def isAllBlank (text : String) : Bool := text.toList.all isBlank

end DeviceTrial.Text
