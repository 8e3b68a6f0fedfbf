/-!
# Blank characters

The characters of the Unicode `White_Space` property, and trimming by them. Placement ids and
numeric texts are compared after this trim, so `U+3000` or `U+00A0` around a value vanish while a
zero-width space (`U+200B`, not `White_Space`) stays.
-/

namespace HeaderBidding.Text

/-- Whether a character has the Unicode `White_Space` property. -/
def isBlank (c : Char) : Bool :=
  let n := c.toNat
  (0x09 ≤ n && n ≤ 0x0D) || n == 0x20 || n == 0x85 || n == 0xA0 || n == 0x1680 ||
    (0x2000 ≤ n && n ≤ 0x200A) || n == 0x2028 || n == 0x2029 || n == 0x202F ||
    n == 0x205F || n == 0x3000

/-- Drops blank characters at both ends. -/
def trimBlank (s : String) : String :=
  String.ofList ((s.toList.dropWhile isBlank).reverse.dropWhile isBlank).reverse

/-- Every ASCII blank of core's `Char.isWhitespace` is blank here too. -/
theorem isBlank_of_isWhitespace (c : Char) (h : c.isWhitespace = true) : isBlank c = true := by
  simp only [Char.isWhitespace, Bool.or_eq_true, decide_eq_true_eq] at h
  rcases h with ((h | h) | h) | h <;> subst h <;> decide

example : trimBlank "　 a b\t" = "a b" := by decide +kernel

end HeaderBidding.Text
