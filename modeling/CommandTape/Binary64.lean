/-!
# Binary64 magnitudes

Which numbers are too large for a binary64 number. Rounding goes to the nearest number of 53
binary digits, a tie to the even one, and a magnitude that rounds to `2 ^ 1024` is infinite.
-/

namespace CommandTape.Binary64

/-- The nearest number of at most 53 binary digits. -/
def round (n : Nat) : Nat :=
  if n < Nat.pow 2 53 then n
  else
    let ulp := Nat.pow 2 (n.log2 - 52)
    let below := n / ulp
    let rest := n % ulp
    if ulp < 2 * rest || (ulp == 2 * rest && below % 2 == 1) then (below + 1) * ulp
    else below * ulp

/-- Rounding takes a number at most to its double. -/
theorem round_le (n : Nat) : round n ≤ 2 * n := by
  unfold round
  split
  · omega
  · next hn =>
    have hpos : n ≠ 0 := by
      rintro rfl
      exact hn (Nat.pow_pos Nat.two_pos)
    have hulp : Nat.pow 2 (n.log2 - 52) ≤ n :=
      Nat.le_trans (Nat.pow_le_pow_right Nat.two_pos (Nat.sub_le _ _)) (Nat.log2_self_le hpos)
    have hbelow : n / Nat.pow 2 (n.log2 - 52) * Nat.pow 2 (n.log2 - 52) ≤ n :=
      Nat.div_mul_le_self _ _
    simp only
    split
    · rw [Nat.add_mul]
      omega
    · omega

/-- The least magnitude that rounds to infinity: it lies half a unit above the largest finite
    number, and that tie goes up. -/
def infinite : Nat := Nat.pow 2 1024 - Nat.pow 2 970

/-- Whether `digits * 10 ^ scale` rounds to infinity. Far from the bound the number of digits
    decides, so that no power of ten is taken that the bound does not reach. -/
def exceeds (digits : Nat) (scale : Int) : Bool :=
  let magnitude : Int := (Nat.toDigits 10 digits).length + scale
  if digits = 0 ∨ magnitude < 300 then false
  else if 320 < magnitude then true
  else match scale with
    | .ofNat e => infinite ≤ digits * Nat.pow 10 e
    | .negSucc e => infinite * Nat.pow 10 (e + 1) ≤ digits

end CommandTape.Binary64
