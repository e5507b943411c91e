/-!
# Decimal digits

Natural numbers as decimal numerals, most significant digit first, and back.  Main statement:
reading the digits of a number gives the number.
-/

namespace FormulaMap
namespace Decimal

/-- The digit for a number below ten. -/
def digitChar (n : Nat) : Char :=
  Char.ofNat (48 + n)

/-- The value of a digit. -/
def digitOf (c : Char) : Nat :=
  c.toNat - 48

/-- The decimal numeral of a number. -/
def digits (n : Nat) : List Char :=
  if n < 10 then [digitChar n]
  else digits (n / 10) ++ [digitChar (n % 10)]
termination_by n

/-- The number that a run of digits denotes, going on from a value already read. -/
def valueFrom (start : Nat) (cs : List Char) : Nat :=
  cs.foldl (fun n c => 10 * n + digitOf c) start

/-- The number that a run of digits denotes. -/
def value (cs : List Char) : Nat :=
  valueFrom 0 cs

/-- A number as text. -/
def text (n : Nat) : String :=
  String.ofList (digits n)

theorem digitOf_digitChar {n : Nat} (h : n < 10) : digitOf (digitChar n) = n := by
  have : ∀ k : Fin 10, digitOf (digitChar k.val) = k.val := by decide
  exact this ⟨n, h⟩

theorem valueFrom_append (start : Nat) (left right : List Char) :
    valueFrom start (left ++ right) = valueFrom (valueFrom start left) right := by
  simp [valueFrom, List.foldl_append]

/-- Reading the digits of a number gives the number. -/
theorem value_digits (n : Nat) : value (digits n) = n := by
  induction n using Nat.strongRecOn with
  | ind n ih =>
    rw [digits]
    split
    · rename_i h
      simp [value, valueFrom, digitOf_digitChar h]
    · have hlt : n / 10 < n := by omega
      have hmod : n % 10 < 10 := by omega
      have key := ih (n / 10) hlt
      simp only [value] at key ⊢
      rw [valueFrom_append, key]
      simp only [valueFrom, List.foldl_cons, List.foldl_nil, digitOf_digitChar hmod]
      omega

end Decimal
end FormulaMap
