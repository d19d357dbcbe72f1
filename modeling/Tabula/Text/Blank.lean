/-!
# Blanks

The characters that count as blank between words, and trimming at both ends of a text.
-/

namespace Tabula.Text

/-- the code points with the white-space property, as closed ranges -/
def blankRanges : List (Nat × Nat) :=
  [(0x09, 0x0D), (0x20, 0x20), (0x85, 0x85), (0xA0, 0xA0), (0x1680, 0x1680), (0x2000, 0x200A),
    (0x2028, 0x2029), (0x202F, 0x202F), (0x205F, 0x205F), (0x3000, 0x3000)]

/-- membership in a table of closed ranges of code points -/
def inRanges (ranges : List (Nat × Nat)) (c : Char) : Bool :=
  ranges.any fun r => r.1 ≤ c.toNat && c.toNat ≤ r.2

/-- whether a character is blank -/
def isBlank (c : Char) : Bool := inRanges blankRanges c

/-- the characters from the first one that is not blank -/
def trimStart (s : List Char) : List Char := s.dropWhile isBlank

/-- the characters up to the last one that is not blank -/
def trimEnd (s : List Char) : List Char := (s.reverse.dropWhile isBlank).reverse

/-- a text without the blanks at its two ends -/
def trim (s : String) : String := String.ofList (trimEnd (trimStart s.toList))

/-- whether a text holds nothing but blanks -/
def allBlank (s : String) : Bool := s.toList.all isBlank

theorem isBlank_space : isBlank ' ' = true := by decide

end Tabula.Text
