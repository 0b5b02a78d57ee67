/-!
# White space

The characters of the Unicode property White_Space, and the text without those around it.
-/

namespace Spelling.Text

/-- Whether a character is white space, in the sense of Unicode. -/
def isWhitespace (c : Char) : Bool :=
  let n := c.toNat
  (0x9 ≤ n && n ≤ 0xD) || n == 0x20 || n == 0x85 || n == 0xA0 || n == 0x1680 ||
    (0x2000 ≤ n && n ≤ 0x200A) || n == 0x2028 || n == 0x2029 || n == 0x202F || n == 0x205F ||
    n == 0x3000

/-- Every character that core takes for white space is white space here. -/
theorem isWhitespace_of_core {c : Char} (h : c.isWhitespace) : isWhitespace c := by
  simp only [Char.isWhitespace, Bool.or_eq_true, decide_eq_true_eq] at h
  rcases h with ((rfl | rfl) | rfl) | rfl <;> rfl

/-- The characters without the white space before and after them. -/
def trimChars (cs : List Char) : List Char :=
  ((cs.dropWhile isWhitespace).reverse.dropWhile isWhitespace).reverse

/-- The text without the white space before and after it. -/
def trim (s : String) : String :=
  String.ofList (trimChars s.toList)

end Spelling.Text
