import CommandTape.Numeral
import Mathlib.Data.List.Forall2

/-!
# Numerals are read as their number

Digits are read from left to right under a bound. Read so, the digits of a number below the bound
give the number, in every radix up to sixteen and with letters in either case, and zeros before
them change nothing.

* `accumulate_append`: reading goes on where it has left off.
* `accumulate_digits`: the digits of a number are read as the number.
* `read_digits`: the same behind any number of zeros, as a whole word.
-/

namespace CommandTape.Numeral

variable {radix bound n d v : Nat} {c : Char} {xs ys digits : List Char}

/-! ## 1. Digits -/

/-- The character is the letter or its capital. -/
def IsCaseOf (c letter : Char) : Prop := c = letter ∨ c = letter.toUpper

instance (c letter : Char) : Decidable (IsCaseOf c letter) :=
  inferInstanceAs (Decidable (c = letter ∨ c = letter.toUpper))

theorem exists_isCaseOf {word letters : List Char} (h : List.Forall₂ IsCaseOf word letters)
    (hc : c ∈ word) : ∃ letter ∈ letters, IsCaseOf c letter := by
  induction h with
  | nil => cases hc
  | cons hhead _ ih =>
    rcases List.mem_cons.mp hc with rfl | hc
    · exact ⟨_, List.mem_cons_self, hhead⟩
    · obtain ⟨letter, hletter, hcase⟩ := ih hc
      exact ⟨letter, List.mem_cons_of_mem _ hletter, hcase⟩

theorem digit?_of_isCaseOf (hradix : radix ≤ 16) (hd : d < radix)
    (hc : IsCaseOf c (Nat.digitChar d)) : digit? radix c = some d := by
  have hall : ∀ d < 16, letterValue? (Nat.digitChar d) = some d ∧
      letterValue? (Nat.digitChar d).toUpper = some d := by decide
  obtain ⟨hlower, hupper⟩ := hall d (Nat.lt_of_lt_of_le hd hradix)
  have hvalue : letterValue? c = some d := by
    rcases hc with rfl | rfl
    · exact hlower
    · exact hupper
  rw [digit?, hvalue]
  exact if_pos (decide_eq_true hd)

theorem digit?_zero (hradix : 0 < radix) : digit? radix '0' = some 0 :=
  if_pos (decide_eq_true hradix)

/-- The digits of a number are digit characters below the radix. -/
theorem exists_of_mem_toDigits (hradix : 1 < radix) (hc : c ∈ Nat.toDigits radix n) :
    ∃ d < radix, c = Nat.digitChar d := by
  induction n using Nat.strongRecOn with
  | ind n ih =>
    rcases Nat.lt_or_ge n radix with hn | hn
    · rw [Nat.toDigits_of_lt_base hn] at hc
      exact ⟨n, hn, List.mem_singleton.mp hc⟩
    · rw [Nat.toDigits_of_base_le hradix hn, List.mem_append, List.mem_singleton] at hc
      rcases hc with hc | hc
      · exact ih (n / radix) (Nat.div_lt_self (by omega) hradix) hc
      · exact ⟨n % radix, Nat.mod_lt n (by omega), hc⟩

/-! ## 2. Reading digits -/

theorem accumulate_append (h : accumulate radix bound v xs = .ok n) :
    accumulate radix bound v (xs ++ ys) = accumulate radix bound n ys := by
  induction xs generalizing v with
  | nil =>
    cases h
    rfl
  | cons c xs ih =>
    rw [accumulate] at h
    rw [List.cons_append, accumulate]
    cases hd : digit? radix c with
    | none =>
      rw [hd] at h
      cases h
    | some d =>
      simp only [hd] at h ⊢
      split at h
      · next hbelow => rw [if_pos hbelow, ih h]
      · cases h

/-- One more digit, if the bound allows it. -/
theorem accumulate_singleton (hd : digit? radix c = some d) (hbound : v * radix + d < bound) :
    accumulate radix bound v [c] = .ok (v * radix + d) := by
  simp only [accumulate, hd, if_pos hbound]

/-- The digits of a number below the bound are read as the number, be letters small or capital. -/
theorem accumulate_digits (hradix : 1 < radix) (hradix' : radix ≤ 16)
    (hdigits : List.Forall₂ IsCaseOf digits (Nat.toDigits radix n)) (hn : n < bound) :
    accumulate radix bound 0 digits = .ok n := by
  induction n using Nat.strongRecOn generalizing digits with
  | ind n ih =>
    rcases Nat.lt_or_ge n radix with hsmall | hlarge
    · rw [Nat.toDigits_of_lt_base hsmall] at hdigits
      cases hdigits with
      | cons hc hnil =>
        cases hnil
        have hd := digit?_of_isCaseOf hradix' hsmall hc
        have hvalue : 0 * radix + n = n := by omega
        rw [accumulate_singleton hd (hvalue.symm ▸ hn), hvalue]
    · have hpos : 0 < radix := by omega
      rw [Nat.toDigits_of_base_le hradix hlarge] at hdigits
      -- The last digit is behind those of the number without it.
      have hfirst := List.forall₂_take_append _ _ _ hdigits
      have hlast := List.forall₂_drop_append _ _ _ hdigits
      have hshort : n / radix < n := Nat.div_lt_self (by omega) hradix
      have hread := ih (n / radix) hshort hfirst (Nat.lt_trans hshort hn)
      rw [← List.take_append_drop (Nat.toDigits radix (n / radix)).length digits,
        accumulate_append hread]
      generalize digits.drop (Nat.toDigits radix (n / radix)).length = last at hlast
      cases hlast with
      | cons hc hnil =>
        cases hnil
        have hd := digit?_of_isCaseOf hradix' (Nat.mod_lt n hpos) hc
        have hvalue : n / radix * radix + n % radix = n := Nat.div_add_mod' n radix
        rw [accumulate_singleton hd (hvalue.symm ▸ hn), hvalue]

theorem accumulate_zeros (hradix : 0 < radix) (hbound : 0 < bound) (zeros : Nat) :
    accumulate radix bound 0 (List.replicate zeros '0') = .ok 0 := by
  induction zeros with
  | zero => rfl
  | succ zeros ih =>
    have hvalue : 0 * radix + 0 = 0 := by omega
    rw [List.replicate_succ, accumulate, digit?_zero hradix]
    simp only [hvalue, if_pos hbound]
    exact ih

/-! ## 3. Whole words -/

/-- A word that begins with a digit is read from its beginning. -/
theorem read_of_head (hd : digit? radix c = some d) (cs : List Char) :
    read radix bound (c :: cs) = accumulate radix bound 0 (c :: cs) := by
  unfold read
  split
  · next h => cases h
  · next h =>
    obtain ⟨rfl, -⟩ := List.cons.inj h
    cases hd
  · next h =>
    obtain ⟨rfl, -⟩ := List.cons.inj h
    cases hd
  · rfl

/-- Behind any number of zeros, the digits of a number below the bound are read as the number. -/
theorem read_digits (hradix : 1 < radix) (hradix' : radix ≤ 16) (zeros : Nat)
    (hdigits : List.Forall₂ IsCaseOf digits (Nat.toDigits radix n)) (hn : n < bound) :
    read radix bound (List.replicate zeros '0' ++ digits) = .ok n := by
  have hpos : 0 < radix := by omega
  have haccumulate :
      accumulate radix bound 0 (List.replicate zeros '0' ++ digits) = .ok n := by
    rw [accumulate_append (accumulate_zeros hpos (by omega) zeros)]
    exact accumulate_digits hradix hradix' hdigits hn
  rw [← haccumulate]
  cases zeros with
  | succ zeros => exact read_of_head (digit?_zero hpos) _
  | zero =>
    cases digits with
    | nil =>
      have hlen := hdigits.length_eq
      have hne : 0 < (Nat.toDigits radix n).length := Nat.length_toDigits_pos
      rw [← hlen] at hne
      cases hne
    | cons c digits =>
      obtain ⟨letter, hmem, hc⟩ := exists_isCaseOf hdigits List.mem_cons_self
      obtain ⟨d, hd, rfl⟩ := exists_of_mem_toDigits hradix hmem
      exact read_of_head (digit?_of_isCaseOf hradix' hd hc) digits

end CommandTape.Numeral
