/-!
# Digits

The values of runs of digits in bases up to sixteen, and whole texts that spell an integer of 64
bits.
-/

namespace FormEngine.Text

/-- The value of a hexadecimal digit in either case. -/
def hexDigit? (c : Char) : Option Nat :=
  if '0' ≤ c ∧ c ≤ '9' then some (c.toNat - 48)
  else if 'a' ≤ c ∧ c ≤ 'f' then some (c.toNat - 87)
  else if 'A' ≤ c ∧ c ≤ 'F' then some (c.toNat - 55)
  else none

/-- The value of a run of digits in a base up to sixteen. -/
def inBase? (base : Nat) (digits : List Char) : Option Nat :=
  digits.foldlM (fun n c => ((hexDigit? c).filter (· < base)).map (base * n + ·)) 0

/-- The value of a run of decimal digits, after the digits already read. -/
def digitsValue (start : Nat) (digits : List Char) : Nat :=
  digits.foldl (fun n c => 10 * n + (c.toNat - '0'.toNat)) start

/-- The value of a text that consists of digits, at least one. -/
def natural? (cs : List Char) : Option Nat :=
  if !cs.isEmpty && cs.all Char.isDigit then some (digitsValue 0 cs) else none

/-- Reads an unsigned integer of 64 bits; a plus sign is allowed. -/
def unsigned? (cs : List Char) : Option Nat :=
  let digits := match cs with
    | '+' :: rest => rest
    | _ => cs
  (natural? digits).filter (· < Nat.pow 2 64)

/-- Reads a signed integer of 64 bits. -/
def signed? (cs : List Char) : Option Int :=
  match cs with
  | '-' :: rest => ((natural? rest).filter (· ≤ Nat.pow 2 63)).map fun n => -(n : Int)
  | '+' :: rest => ((natural? rest).filter (· < Nat.pow 2 63)).map Int.ofNat
  | _ => ((natural? cs).filter (· < Nat.pow 2 63)).map Int.ofNat

/-! ## Decimal digits of a number -/

theorem isDigit_of_mem_toDigits {n : Nat} {c : Char} (h : c ∈ Nat.toDigits 10 n) :
    c.isDigit = true :=
  Nat.isDigit_of_mem_toDigits (by decide) (by decide) h

theorem natural?_toDigits (n : Nat) : natural? (Nat.toDigits 10 n) = some n := by
  have hdigits : (!(Nat.toDigits 10 n).isEmpty && (Nat.toDigits 10 n).all Char.isDigit) = true := by
    simp only [Bool.and_eq_true, Bool.not_eq_true', List.isEmpty_eq_false_iff, List.all_eq_true]
    exact ⟨Nat.toDigits_ne_nil, fun c hc => isDigit_of_mem_toDigits hc⟩
  rw [natural?, if_pos hdigits]
  exact congrArg some Nat.ofDigitChars_ten_toDigits

theorem unsigned?_toDigits {n : Nat} (h : n < Nat.pow 2 64) :
    unsigned? (Nat.toDigits 10 n) = some n := by
  have hunsigned : unsigned? (Nat.toDigits 10 n) =
      (natural? (Nat.toDigits 10 n)).filter (· < Nat.pow 2 64) := by
    unfold unsigned?
    split
    · rename_i rest hplus
      have hdigit := isDigit_of_mem_toDigits (hplus ▸ List.mem_cons_self)
      cases hdigit
    · rfl
  rw [hunsigned, natural?_toDigits]
  exact if_pos (decide_eq_true h)

end FormEngine.Text
