import FormulaMap.Text.CharacterRange

/-!
# Percent-encoding

Characters that may not stand in a part of a URL are written as the bytes of their UTF-8 form, each
as a percent sign and two hexadecimal digits.  Which characters these are depends on the part;
control characters and everything outside ASCII always are.
-/

namespace FormulaMap
namespace Http

/-- The hexadecimal digit for a number below sixteen, in upper case. -/
def upperHexDigit (n : Nat) : Char :=
  if n < 10 then Char.ofNat (48 + n) else Char.ofNat (55 + n)

/-- A byte as a percent sign and two digits. -/
def percentByte (b : UInt8) : List Char :=
  ['%', upperHexDigit (b.toNat / 16), upperHexDigit (b.toNat % 16)]

/-- A character as the bytes of its UTF-8 form. -/
def percentChar (c : Char) : List Char :=
  (String.utf8EncodeChar c).flatMap percentByte

/-- Whether a character is encoded in every part of a URL. -/
def isControl (c : Char) : Bool :=
  c.toNat < 32 || 127 ≤ c.toNat

/-- Whether a character is one of a few. -/
def isOneOf (few : String) (c : Char) : Bool :=
  few.toList.contains c

/-- Whether a character is encoded in a fragment. -/
def inFragmentSet (c : Char) : Bool :=
  isControl c || isOneOf " \"<>`" c

/-- Whether a character is encoded in a query; a single quote is in the special schemes only. -/
def inQuerySet (special : Bool) (c : Char) : Bool :=
  isControl c || isOneOf " \"#<>" c || (special && c == '\'')

/-- Whether a character is encoded in a path. -/
def inPathSet (c : Char) : Bool :=
  inFragmentSet c || isOneOf "#?\x7b\x7d" c

/-- Whether a character is encoded in a user name or a password. -/
def inUserSet (c : Char) : Bool :=
  inPathSet c || isOneOf "/:;=@[\\]^|" c

/-- Encodes the characters of a set. -/
def percentEncode (inSet : Char → Bool) (cs : List Char) : List Char :=
  cs.flatMap fun c => if inSet c then percentChar c else [c]

/-- The bytes that a text stands for, with percent signs decoded. -/
def percentDecode : List Char → List UInt8
  | '%' :: a :: b :: rest =>
    if Text.isHexDigit a && Text.isHexDigit b then
      UInt8.ofNat (16 * Text.hexValue a + Text.hexValue b) :: percentDecode rest
    else String.utf8EncodeChar '%' ++ percentDecode (a :: b :: rest)
  | c :: rest => String.utf8EncodeChar c ++ percentDecode rest
  | [] => []
termination_by cs => cs.length

/-- The text of some bytes, if they are the UTF-8 form of one. -/
def textOfBytes? (bytes : List UInt8) : Option (List Char) :=
  (String.fromUTF8? (ByteArray.mk bytes.toArray)).map String.toList

end Http
end FormulaMap
