/-!
# Hexadecimal digits

Numbers are written in lower-case digits of a fixed count and read in digits of either case.
-/

namespace GameLobby.Text

/-- The lower-case hexadecimal digit of a number below sixteen. -/
def hexDigit (n : Nat) : Char :=
  if n < 10 then Char.ofNat (0x30 + n) else Char.ofNat (0x57 + n)

/-- The last `width` hexadecimal digits of a number. -/
def hexDigits : (width : Nat) → Nat → List Char
  | 0, _ => []
  | width + 1, n => hexDigits width (n / 16) ++ [hexDigit (n % 16)]

/-- The value of a hexadecimal digit of either case. -/
def hexDigit? (c : Char) : Option Nat :=
  if '0' ≤ c ∧ c ≤ '9' then some (c.toNat - 0x30)
  else if 'a' ≤ c ∧ c ≤ 'f' then some (c.toNat - 0x57)
  else if 'A' ≤ c ∧ c ≤ 'F' then some (c.toNat - 0x37)
  else none

/-- The number that hexadecimal digits spell, if all are digits. -/
def hexNumber? (cs : List Char) : Option Nat :=
  cs.foldlM (fun n c => (hexDigit? c).map (16 * n + ·)) 0

@[simp] theorem length_hexDigits (width n : Nat) : (hexDigits width n).length = width := by
  induction width generalizing n with
  | zero => rfl
  | succ width ih => simp [hexDigits, ih]

/-- The value of a digit is below sixteen. -/
theorem hexDigit?_lt {c : Char} {d : Nat} (h : hexDigit? c = some d) : d < 16 := by
  have bound : ∀ a b : Char, a ≤ b → a.toNat ≤ b.toNat := fun a b h => h
  unfold hexDigit? at h
  split at h
  · rename_i hc
    have := bound _ _ hc.2
    simp at h this
    omega
  · split at h
    · rename_i hc
      have := bound _ _ hc.2
      simp at h this
      omega
    · split at h
      · rename_i hc
        have := bound _ _ hc.2
        simp at h this
        omega
      · simp at h

/-- A written digit is read back. -/
theorem hexDigit?_hexDigit {n : Nat} (h : n < 16) : hexDigit? (hexDigit n) = some n := by
  have : ∀ n : Fin 16, hexDigit? (hexDigit n) = some n.val := by decide
  exact this ⟨n, h⟩

/-- Digits with one more digit behind them. -/
theorem hexNumber?_concat (cs : List Char) (c : Char) :
    hexNumber? (cs ++ [c]) = (hexNumber? cs).bind fun n => (hexDigit? c).map (16 * n + ·) := by
  simp only [hexNumber?, List.foldlM_append, List.foldlM_cons, List.foldlM_nil]
  congr 1
  funext n
  cases hexDigit? c <;> rfl

/-- The last digits of a number spell what it leaves below that power of sixteen. -/
theorem hexNumber?_hexDigits (width n : Nat) :
    hexNumber? (hexDigits width n) = some (n % Nat.pow 16 width) := by
  induction width generalizing n with
  | zero => simp [hexDigits, hexNumber?, Nat.pow, Nat.mod_one]
  | succ width ih =>
    have step : n % Nat.pow 16 (width + 1) = 16 * (n / 16 % Nat.pow 16 width) + n % 16 := by
      show n % (Nat.pow 16 width * 16) = _
      rw [Nat.mul_comm, Nat.mod_mul, Nat.add_comm]
    rw [hexDigits, hexNumber?_concat, ih, hexDigit?_hexDigit (Nat.mod_lt _ (by decide)), step]
    rfl

/-- A number spelled by `k` digits is below the `k`-th power of sixteen. -/
theorem hexNumber?_lt {cs : List Char} {n : Nat} (h : hexNumber? cs = some n) :
    n < Nat.pow 16 cs.length := by
  have go : ∀ (cs : List Char) (m n : Nat),
      cs.foldlM (fun n c => (hexDigit? c).map (16 * n + ·)) m = some n →
        n < (m + 1) * Nat.pow 16 cs.length := by
    intro cs
    induction cs with
    | nil =>
      intro m n h
      simp only [List.foldlM_nil] at h
      cases h
      show m < (m + 1) * 1
      omega
    | cons c cs ih =>
      intro m n h
      simp only [List.foldlM_cons] at h
      cases hd : hexDigit? c with
      | none => rw [hd] at h; cases h
      | some d =>
        rw [hd] at h
        have hlt := hexDigit?_lt hd
        have := ih _ _ h
        refine Nat.lt_of_lt_of_le this ?_
        show (16 * m + d + 1) * Nat.pow 16 cs.length ≤ (m + 1) * (Nat.pow 16 cs.length * 16)
        rw [Nat.mul_comm (Nat.pow 16 cs.length) 16, ← Nat.mul_assoc]
        exact Nat.mul_le_mul_right _ (by omega)
  have := go cs 0 n h
  omega

end GameLobby.Text
