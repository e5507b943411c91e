import FormulaMap.Json.Reader
import Mathlib.Data.List.Basic

/-!
# Written strings are read back

Between its quotes a string is written character by character, and what is written for a character
is read as that character.  So reading undoes writing for every string, whatever quotes, braces or
control characters it has.
-/

namespace FormulaMap
namespace Json

/-! ## Characters that are read -/

/-- The characters that one escape was taken for are passed over. -/
theorem readString_skip (taken rest : List Char) :
    readString taken.length (taken ++ rest) = readString 0 rest := by
  induction taken with
  | nil => rfl
  | cons c more ih => simpa [readString] using ih

/-- A character that needs no escape stands for itself. -/
theorem readString_plain {c : Char} (hquote : c ≠ '"') (hslash : c ≠ '\\')
    (hcontrol : ¬ c.toNat < 32) (rest : List Char) :
    readString 0 (c :: rest) =
      (readString 0 rest).map fun p => (c :: p.1, p.2) := by
  simp only [readString, hquote, hslash, hcontrol, beq_iff_eq, if_false]
  cases readString 0 rest <;> rfl

/-- An escape stands for the character that is read from it. -/
theorem readString_escape (c : Char) (taken rest : List Char)
    (h : readEscape (taken ++ rest) = .ok (c, taken.length)) :
    readString 0 ('\\' :: (taken ++ rest)) =
      (readString 0 rest).map fun p => (c :: p.1, p.2) := by
  have hquote : ('\\' == '"') = false := rfl
  have hslash : ('\\' == '\\') = true := rfl
  simp only [readString, hquote, hslash, h, Bool.false_eq_true, if_false, if_true]
  change ((readString taken.length (taken ++ rest)).bind fun p => .ok (c :: p.1, p.2)) = _
  rw [readString_skip]
  cases readString 0 rest <;> rfl

/-! ## Hexadecimal escapes -/

/-- The first sixteen code points as hexadecimal digits. -/
theorem hexValue_hexDigit {n : Nat} (h : n < 16) :
    Text.isHexDigit (hexDigit n) = true ∧ Text.hexValue (hexDigit n) = n := by
  have hall : ∀ k : Fin 16, Text.isHexDigit (hexDigit k.val) = true ∧
      Text.hexValue (hexDigit k.val) = k.val := by decide
  exact hall ⟨n, h⟩

theorem four_le_byteLength (a b c d : Char) (rest : List Char) :
    4 ≤ Text.byteLength (a :: b :: c :: d :: rest) := by
  have ha := a.utf8Size_pos
  have hb := b.utf8Size_pos
  have hc := c.utf8Size_pos
  have hd := d.utf8Size_pos
  simp only [Text.byteLength, List.foldr_cons]
  omega

/-- A number below 256 is read from its two hexadecimal digits behind two zeros. -/
theorem readHex_low {n : Nat} (h : n < 256) (rest : List Char) :
    readHex ('0' :: '0' :: hexDigit (n / 16) :: hexDigit (n % 16) :: rest) = .ok n := by
  obtain ⟨hhigh, hhighValue⟩ := hexValue_hexDigit (show n / 16 < 16 by omega)
  obtain ⟨hlow, hlowValue⟩ := hexValue_hexDigit (show n % 16 < 16 by omega)
  have hlength := four_le_byteLength '0' '0' (hexDigit (n / 16)) (hexDigit (n % 16)) rest
  have hzero : Text.isHexDigit '0' = true ∧ Text.hexValue '0' = 0 := by decide
  rw [readHex, if_neg (by omega)]
  simp [hhigh, hlow, hhighValue, hlowValue, hzero]
  omega

/-- A control character is read from its numeric escape. -/
theorem readEscape_control {c : Char} (h : c.toNat < 32) (rest : List Char) :
    readEscape ('u' :: '0' :: '0' :: hexDigit (c.toNat / 16) :: hexDigit (c.toNat % 16) :: rest) =
      .ok (c, 5) := by
  have hhex := readHex_low (show c.toNat < 256 by omega) rest
  simp only [readEscape, hhex]
  change (if 0xDC00 ≤ c.toNat ∧ c.toNat ≤ 0xDFFF then _
    else if c.toNat < 0xD800 ∨ 0xDBFF < c.toNat then Except.ok (Char.ofNat c.toNat, 5) else _) = _
  rw [if_neg (by omega), if_pos (by omega), Char.ofNat_toNat]

/-- A control character with an escape of its own is read from it. -/
theorem readString_letter {c letter : Char} {n : Nat} (h : c.toNat = n)
    (hread : ∀ rest, readEscape (letter :: rest) = .ok (Char.ofNat n, 1)) (rest : List Char) :
    readString 0 ('\\' :: letter :: rest) =
      (readString 0 rest).map fun p => (c :: p.1, p.2) := by
  have hc : Char.ofNat n = c := by
    rw [← h, Char.ofNat_toNat]
  exact readString_escape c [letter] rest (by rw [← hc]; exact hread rest)

/-! ## What is written -/

/-- Every character is read from its written form. -/
theorem readString_written (c : Char) (rest : List Char) :
    readString 0 (escape c ++ rest) =
      (readString 0 rest).map fun p => (c :: p.1, p.2) := by
  rw [escape]
  by_cases hquote : c = '"'
  · subst hquote
    exact readString_escape '"' ['"'] rest rfl
  rw [if_neg (by simpa using hquote)]
  by_cases hslash : c = '\\'
  · subst hslash
    exact readString_escape '\\' ['\\'] rest rfl
  rw [if_neg (by simpa using hslash)]
  by_cases h8 : c.toNat = 8
  · rw [if_pos h8]
    exact readString_letter h8 (fun _ => rfl) rest
  rw [if_neg h8]
  by_cases h9 : c.toNat = 9
  · rw [if_pos h9]
    exact readString_letter h9 (fun _ => rfl) rest
  rw [if_neg h9]
  by_cases h10 : c.toNat = 10
  · rw [if_pos h10]
    exact readString_letter h10 (fun _ => rfl) rest
  rw [if_neg h10]
  by_cases h12 : c.toNat = 12
  · rw [if_pos h12]
    exact readString_letter h12 (fun _ => rfl) rest
  rw [if_neg h12]
  by_cases h13 : c.toNat = 13
  · rw [if_pos h13]
    exact readString_letter h13 (fun _ => rfl) rest
  rw [if_neg h13]
  by_cases hcontrol : c.toNat < 32
  · rw [if_pos hcontrol]
    exact readString_escape c
      ['u', '0', '0', hexDigit (c.toNat / 16), hexDigit (c.toNat % 16)] rest
      (readEscape_control hcontrol rest)
  · rw [if_neg hcontrol]
    exact readString_plain hquote hslash hcontrol rest

/-- A string is read from its written form up to the closing quote. -/
theorem readString_flatMap_escape (cs rest : List Char) :
    readString 0 (cs.flatMap escape ++ '"' :: rest) = .ok (cs, rest) := by
  induction cs with
  | nil => rfl
  | cons c cs ih =>
      rw [List.flatMap_cons, List.append_assoc, readString_written, ih]
      rfl

end Json
end FormulaMap
