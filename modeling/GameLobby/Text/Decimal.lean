/-!
# Decimal digits of a fixed count

Dates are written in decimal fields of a fixed width and read back from them.
-/

namespace GameLobby.Text

/-- The character of a decimal digit. -/
def decimalDigit (d : Nat) : Char :=
  Char.ofNat (0x30 + d)

/-- The last `width` decimal digits of a number. -/
def decimals : (width : Nat) → Nat → List Char
  | 0, _ => []
  | width + 1, n => decimals width (n / 10) ++ [decimalDigit (n % 10)]

/-- The value of a decimal digit. -/
def decimalDigit? (c : Char) : Option Nat :=
  if '0' ≤ c ∧ c ≤ '9' then some (c.toNat - 0x30) else none

/-- The number that decimal digits spell, if all are digits. -/
def decimal? (cs : List Char) : Option Nat :=
  cs.foldlM (fun n c => (decimalDigit? c).map (10 * n + ·)) 0

@[simp] theorem length_decimals (width n : Nat) : (decimals width n).length = width := by
  induction width generalizing n with
  | zero => rfl
  | succ width ih => simp [decimals, ih]

/-- A written digit is read back. -/
theorem decimalDigit?_decimalDigit {n : Nat} (h : n < 10) :
    decimalDigit? (decimalDigit n) = some n := by
  have : ∀ n : Fin 10, decimalDigit? (decimalDigit n) = some n.val := by decide
  exact this ⟨n, h⟩

/-- Digits with one more digit behind them. -/
theorem decimal?_concat (cs : List Char) (c : Char) :
    decimal? (cs ++ [c]) = (decimal? cs).bind fun n => (decimalDigit? c).map (10 * n + ·) := by
  simp only [decimal?, List.foldlM_append, List.foldlM_cons, List.foldlM_nil]
  congr 1
  funext n
  cases decimalDigit? c <;> rfl

/-- The last digits of a number spell what it leaves below that power of ten. -/
theorem decimal?_decimals (width n : Nat) :
    decimal? (decimals width n) = some (n % Nat.pow 10 width) := by
  induction width generalizing n with
  | zero => simp [decimals, decimal?, Nat.pow, Nat.mod_one]
  | succ width ih =>
    have step : n % Nat.pow 10 (width + 1) = 10 * (n / 10 % Nat.pow 10 width) + n % 10 := by
      show n % (Nat.pow 10 width * 10) = _
      rw [Nat.mul_comm, Nat.mod_mul, Nat.add_comm]
    rw [decimals, decimal?_concat, ih, decimalDigit?_decimalDigit (Nat.mod_lt _ (by decide)), step]
    rfl

end GameLobby.Text
