import FormulaMap.Text.Printable

/-!
# Shown texts

How a text is shown inside a message: between quotes, with quotes, backslashes and everything
that cannot be printed escaped.
-/

namespace FormulaMap
namespace Text

/-- A number in hexadecimal digits, in lower case and without leading zeros. -/
def hexDigits (n : Nat) : List Char :=
  if n < 16 then [Nat.digitChar n] else hexDigits (n / 16) ++ [Nat.digitChar (n % 16)]
termination_by n

/-- How one character is shown. -/
def shownChar (c : Char) : List Char :=
  if c == '"' || c == '\\' then ['\\', c]
  else if c == '\n' then ['\\', 'n']
  else if c == '\r' then ['\\', 'r']
  else if c == '\t' then ['\\', 't']
  else if c.toNat = 0 then ['\\', '0']
  else if isPrintable c then [c]
  else ['\\', 'u', '{'] ++ hexDigits c.toNat ++ ['}']

/-- How a text is shown. -/
def shownChars (cs : List Char) : List Char :=
  '"' :: cs.flatMap shownChar ++ ['"']

/-- How a text is shown. -/
def shown (s : String) : String :=
  String.ofList (shownChars s.toList)

/-- How a list of texts is shown. -/
def shownList (texts : List String) : String :=
  "[" ++ ", ".intercalate (texts.map shown) ++ "]"

end Text
end FormulaMap
