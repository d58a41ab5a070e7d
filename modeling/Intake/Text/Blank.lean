/-!
# White space

The characters with the Unicode property White_Space, and texts stripped of them. The ideographic
space and the no-break space are among them; the zero-width space and the byte order mark are not.
-/

namespace Intake.Text

/-- The code points with the property White_Space, as inclusive ranges. -/
def blankRanges : List (Nat × Nat) :=
  [(0x09, 0x0D), (0x20, 0x20), (0x85, 0x85), (0xA0, 0xA0), (0x1680, 0x1680), (0x2000, 0x200A),
    (0x2028, 0x2029), (0x202F, 0x202F), (0x205F, 0x205F), (0x3000, 0x3000)]

/-- Whether a character has the property White_Space. -/
def isBlank (c : Char) : Bool := blankRanges.any fun (lo, hi) => lo ≤ c.toNat && c.toNat ≤ hi

/-- Drops what satisfies `p` from the end of a list. -/
def dropEnd (p : Char → Bool) (cs : List Char) : List Char := (cs.reverse.dropWhile p).reverse

def trim (s : String) : String := String.ofList (dropEnd isBlank (s.toList.dropWhile isBlank))

def trimEndOf (c : Char) (s : String) : String := String.ofList (dropEnd (· == c) s.toList)

def isAllBlank (s : String) : Bool := s.toList.all isBlank

/-- `A` to `Z` in lower case, every other character as it is. -/
def lowerChar (c : Char) : Char := if 'A' ≤ c && c ≤ 'Z' then Char.ofNat (c.toNat + 32) else c

def lower (s : String) : String := String.ofList (s.toList.map lowerChar)

end Intake.Text
