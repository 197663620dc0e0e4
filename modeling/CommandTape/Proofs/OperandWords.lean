import CommandTape.Listing
import CommandTape.Proofs.Text.Numerals
import Mathlib.Data.Nat.Digits.Defs

/-!
# Operand words

What an operand word stands for is said by the value of its digits, and why a word is none by its
leftmost character that is at fault. Reading adds up digit by digit and looks at the bound each
time; it gives the same numbers and the same reasons.

* `digit?_eq_some_iff`: the digits of a radix.
* `accumulate_eq_ok_iff`, `accumulate_eq_error_iff`: what a row of digits is read as.
* `read_eq_ok_iff`, `read_eq_error_iff`: what a word with an optional sign is read as.
* `readOperand_spells`: what every operand word is read as.
-/

namespace CommandTape

namespace Numeral

variable {radix bound n m v d : Nat} {c : Char} {digits before : List Char} {reason : Reason}

/-! ## 1. Values -/

/-- The character is the digit of value `d`, a letter in either case. -/
def IsDigit (radix : Nat) (c : Char) (d : Nat) : Prop := d < radix ∧ IsCaseOf c (Nat.digitChar d)

/-- The characters are digits, and their positional value is `n`. -/
def Denotes (radix : Nat) (digits : List Char) (n : Nat) : Prop :=
  ∃ ds, List.Forall₂ (IsDigit radix) digits ds ∧ n = Nat.ofDigits radix ds.reverse

theorem isCaseOf_of_letterValue? (h : letterValue? c = some d) (hd : d < 16) :
    IsCaseOf c (Nat.digitChar d) := by
  have hletter : ∀ d < 16, 10 ≤ d →
      (Nat.digitChar d).toNat = 87 + d ∧ (Nat.digitChar d).toUpper.toNat = 55 + d := by decide
  unfold letterValue? at h
  split at h
  · next hdigit =>
    have hrange : 48 ≤ c.toNat ∧ c.toNat ≤ 57 := by
      simpa [Char.isDigit, UInt32.le_iff_toNat_le] using hdigit
    have hvalue : c.toNat - 48 = d := Option.some.inj h
    have hsmall : d < 10 := by omega
    refine .inl (Char.toNat_inj.mp ?_)
    rw [Nat.toNat_digitChar_of_lt_ten hsmall]
    omega
  · split at h
    · next hlower =>
      have hfirst : 97 ≤ c.toNat := hlower.1
      have hvalue : c.toNat - 97 + 10 = d := Option.some.inj h
      refine .inl (Char.toNat_inj.mp ?_)
      rw [(hletter d hd (by omega)).1]
      omega
    · split at h
      · next hupper =>
        have hfirst : 65 ≤ c.toNat := hupper.1
        have hvalue : c.toNat - 65 + 10 = d := Option.some.inj h
        refine .inr (Char.toNat_inj.mp ?_)
        rw [(hletter d hd (by omega)).2]
        omega
      · cases h

theorem digit?_eq_some_iff (hradix : radix ≤ 16) : digit? radix c = some d ↔ IsDigit radix c d := by
  constructor
  · intro h
    obtain ⟨hvalue, hd⟩ := Option.filter_eq_some_iff.mp h
    have hd : d < radix := of_decide_eq_true hd
    exact ⟨hd, isCaseOf_of_letterValue? hvalue (Nat.lt_of_lt_of_le hd hradix)⟩
  · rintro ⟨hd, hc⟩
    exact digit?_of_isCaseOf hradix hd hc

/-- One more digit behind a row. -/
theorem Denotes.append (h : Denotes radix digits m) (hc : IsDigit radix c d) :
    Denotes radix (digits ++ [c]) (m * radix + d) := by
  obtain ⟨ds, hds, rfl⟩ := h
  refine ⟨ds ++ [d], List.rel_append hds (.cons hc .nil), ?_⟩
  rw [List.reverse_append, List.reverse_singleton, List.singleton_append, Nat.ofDigits_cons]
  ring

theorem Denotes.isDigit (h : Denotes radix digits n) (hc : c ∈ digits) :
    ∃ d, IsDigit radix c d := by
  obtain ⟨ds, hds, -⟩ := h
  induction hds with
  | nil => cases hc
  | cons hhead _ ih =>
    rcases List.mem_cons.mp hc with rfl | hc
    · exact ⟨_, hhead⟩
    · exact ih hc

/-! ## 2. Rows of digits -/

/-- Behind a value `v`, digits are read as the number that they denote behind it. -/
theorem accumulate_eq_ok_iff_from (hradix : radix ≤ 16) (hpos : 0 < radix) (hv : v < bound) :
    accumulate radix bound v digits = .ok n ↔
      ∃ ds, List.Forall₂ (IsDigit radix) digits ds ∧
        n = v * radix ^ ds.length + Nat.ofDigits radix ds.reverse ∧ n < bound := by
  induction digits generalizing v with
  | nil =>
    constructor
    · intro h
      cases h
      exact ⟨[], .nil, by simp, hv⟩
    · rintro ⟨ds, hds, rfl, _⟩
      cases hds
      simp [accumulate]
  | cons c digits ih =>
    constructor
    · intro h
      rw [accumulate] at h
      cases hd : digit? radix c with
      | none =>
        rw [hd] at h
        cases h
      | some d =>
        simp only [hd] at h
        split at h
        · next hbelow =>
          obtain ⟨ds, hds, hn, hbound⟩ := (ih hbelow).mp h
          refine ⟨d :: ds, .cons ((digit?_eq_some_iff hradix).mp hd) hds, ?_, hbound⟩
          rw [hn, Nat.ofDigits_reverse_cons, List.length_cons, pow_succ]
          ring
        · cases h
    · rintro ⟨ds, hds, hn, hbound⟩
      cases hds with
      | @cons _ d _ ds hc hds =>
        rw [Nat.ofDigits_reverse_cons, List.length_cons, pow_succ] at hn
        have hn' : n = (v * radix + d) * radix ^ ds.length + Nat.ofDigits radix ds.reverse := by
          rw [hn]
          ring
        -- No part of the digits is worth more than all of them.
        have hbelow : v * radix + d < bound :=
          calc v * radix + d ≤ (v * radix + d) * radix ^ ds.length :=
                Nat.le_mul_of_pos_right _ (Nat.pow_pos hpos)
            _ ≤ n := hn' ▸ Nat.le_add_right _ _
            _ < bound := hbound
        rw [accumulate, (digit?_eq_some_iff hradix).mpr hc]
        simp only [if_pos hbelow]
        exact (ih hbelow).mpr ⟨ds, hds, hn', hbound⟩

theorem accumulate_eq_ok_iff (hradix : radix ≤ 16) (hpos : 0 < radix) (hbound : 0 < bound) :
    accumulate radix bound 0 digits = .ok n ↔ Denotes radix digits n ∧ n < bound := by
  rw [accumulate_eq_ok_iff_from hradix hpos hbound]
  unfold Denotes
  simp only [Nat.zero_mul, Nat.zero_add]
  constructor
  · rintro ⟨ds, hds, hn, hlt⟩
    exact ⟨⟨ds, hds, hn⟩, hlt⟩
  · rintro ⟨⟨ds, hds, hn⟩, hlt⟩
    exact ⟨ds, hds, hn, hlt⟩

/-- A row of digits stands for one number only. -/
theorem Denotes.unique (hradix : radix ≤ 16) (hpos : 0 < radix) (h : Denotes radix digits n)
    (h' : Denotes radix digits m) : m = n := by
  have hread (k : Nat) (hk : Denotes radix digits k) (hle : k ≤ max m n) :
      accumulate radix (max m n + 1) 0 digits = .ok k :=
    (accumulate_eq_ok_iff hradix hpos (Nat.succ_pos _)).mpr ⟨hk, Nat.lt_succ_of_le hle⟩
  have hm := hread m h' (Nat.le_max_left m n)
  have hn := hread n h (Nat.le_max_right m n)
  exact Except.ok.inj (hm.symm.trans hn)

/-! ## 3. Characters at fault -/

/-- The character behind `before` is at fault: it is no digit, or the digits up to it and with it
    take the value to the bound. -/
def Offends (radix bound : Nat) (before : List Char) (c : Char) : Reason → Prop
  | .empty => False
  | .invalidDigit => ∀ d, ¬ IsDigit radix c d
  | .tooLarge => ∃ n, Denotes radix (before ++ [c]) n ∧ bound ≤ n

/-- The leftmost character that is at fault is so for this reason. -/
def FirstOffence (radix bound : Nat) (digits : List Char) (reason : Reason) : Prop :=
  ∃ before c after, digits = before ++ c :: after ∧ Offends radix bound before c reason ∧
    ∀ earlier c' between, before = earlier ++ c' :: between →
      ∀ other, ¬ Offends radix bound earlier c' other

theorem accumulate_append_error {xs : List Char} (h : accumulate radix bound v xs = .error reason)
    (ys : List Char) : accumulate radix bound v (xs ++ ys) = .error reason := by
  induction xs generalizing v with
  | nil => cases h
  | cons c xs ih =>
    rw [accumulate] at h
    rw [List.cons_append, accumulate]
    cases hd : digit? radix c with
    | none =>
      rw [hd] at h
      exact h
    | some d =>
      simp only [hd] at h ⊢
      split at h
      · next hbelow => rw [if_pos hbelow, ih h]
      · next hbelow => rw [if_neg hbelow, h]

/-- Reading that fails does so at one character, and what stands before it has been read. -/
theorem exists_stop (h : accumulate radix bound v digits = .error reason) :
    ∃ before c after m, digits = before ++ c :: after ∧
      accumulate radix bound v before = .ok m ∧ accumulate radix bound m [c] = .error reason := by
  induction digits generalizing v with
  | nil => cases h
  | cons c digits ih =>
    cases hc : accumulate radix bound v [c] with
    | error other =>
      have hwhole : accumulate radix bound v (c :: digits) = .error other :=
        accumulate_append_error hc digits
      cases hwhole.symm.trans h
      exact ⟨[], c, digits, v, rfl, rfl, hc⟩
    | ok m =>
      have hrest : accumulate radix bound v (c :: digits) = accumulate radix bound m digits :=
        accumulate_append hc
      obtain ⟨before, c', after, m', rfl, hbefore, hstop⟩ := ih (hrest.symm.trans h)
      exact ⟨c :: before, c', after, m', rfl, (accumulate_append hc).trans hbefore, hstop⟩

/-- The character behind digits that have been read is refused for the reason why it is at fault. -/
theorem offends_iff (hradix : radix ≤ 16) (hpos : 0 < radix) (hbound : 0 < bound)
    (hbefore : accumulate radix bound 0 before = .ok m) :
    accumulate radix bound m [c] = .error reason ↔ Offends radix bound before c reason := by
  have hdenotes : Denotes radix before m :=
    ((accumulate_eq_ok_iff hradix hpos hbound).mp hbefore).1
  cases hd : digit? radix c with
  | none =>
    have hnone : ∀ d, ¬ IsDigit radix c d := by
      intro d hc
      rw [(digit?_eq_some_iff hradix).mpr hc] at hd
      cases hd
    have hread : accumulate radix bound m [c] = .error .invalidDigit := by
      rw [accumulate, hd]
    rw [hread]
    cases reason with
    | empty =>
      constructor <;>
      · intro h
        cases h
    | invalidDigit => exact ⟨fun _ => hnone, fun _ => rfl⟩
    | tooLarge =>
      constructor
      · intro h
        cases h
      · rintro ⟨n, hn, -⟩
        obtain ⟨d, hc⟩ := hn.isDigit (List.mem_append_right _ List.mem_cons_self)
        exact absurd hc (hnone d)
  | some d =>
    have hc : IsDigit radix c d := (digit?_eq_some_iff hradix).mp hd
    have hread : accumulate radix bound m [c] =
        if m * radix + d < bound then .ok (m * radix + d) else .error .tooLarge := by
      rw [accumulate, hd]
      rfl
    have hvalue : Denotes radix (before ++ [c]) (m * radix + d) := hdenotes.append hc
    rw [hread]
    cases reason with
    | empty =>
      constructor
      · intro h
        split at h <;> cases h
      · intro h
        cases h
    | invalidDigit =>
      refine ⟨fun h => ?_, fun hnone => absurd hc (hnone d)⟩
      split at h <;> cases h
    | tooLarge =>
      constructor
      · intro h
        split at h
        · cases h
        · next hlarge => exact ⟨_, hvalue, Nat.not_lt.mp hlarge⟩
      · rintro ⟨n, hn, hle⟩
        rw [hvalue.unique hradix hpos hn] at hle
        rw [if_neg (Nat.not_lt.mpr hle)]

/-- A row that has been read holds no character at fault. -/
theorem not_offends_of_ok (hradix : radix ≤ 16) (hpos : 0 < radix) (hbound : 0 < bound)
    {after : List Char} (h : accumulate radix bound 0 (before ++ c :: after) = .ok n) :
    ¬ Offends radix bound before c reason := by
  cases hbefore : accumulate radix bound 0 before with
  | error other =>
    rw [accumulate_append_error hbefore] at h
    cases h
  | ok m =>
    intro hoffends
    have hstop := (offends_iff hradix hpos hbound hbefore).mpr hoffends
    rw [accumulate_append hbefore, ← List.singleton_append, accumulate_append_error hstop] at h
    cases h

theorem accumulate_eq_error_iff (hradix : radix ≤ 16) (hpos : 0 < radix) (hbound : 0 < bound) :
    accumulate radix bound 0 digits = .error reason ↔ FirstOffence radix bound digits reason := by
  constructor
  · intro h
    obtain ⟨before, c, after, m, rfl, hbefore, hstop⟩ := exists_stop h
    refine ⟨before, c, after, rfl, (offends_iff hradix hpos hbound hbefore).mp hstop, ?_⟩
    rintro earlier c' between rfl other
    exact not_offends_of_ok hradix hpos hbound hbefore
  · rintro ⟨before, c, after, rfl, hoffends, hfirst⟩
    cases hbefore : accumulate radix bound 0 before with
    | error other =>
      -- An error before the character would be due to an earlier one.
      obtain ⟨earlier, c', between, m, rfl, hearlier, hstop⟩ := exists_stop hbefore
      exact absurd ((offends_iff hradix hpos hbound hearlier).mp hstop)
        (hfirst earlier c' between rfl other)
    | ok m =>
      have hstop := (offends_iff hradix hpos hbound hbefore).mpr hoffends
      rw [accumulate_append hbefore, ← List.singleton_append, accumulate_append_error hstop]

/-! ## 4. Words -/

/-- The word is `digits`, perhaps with a plus sign before them. A plus sign at the beginning is
    always taken for the sign. -/
def Signed (word digits : List Char) : Prop :=
  word = '+' :: digits ∨ word.head? ≠ some '+' ∧ word = digits

theorem exists_signed (word : List Char) : ∃ digits, Signed word digits := by
  by_cases h : word.head? = some '+'
  · obtain ⟨digits, rfl⟩ := List.head?_eq_some_iff.mp h
    exact ⟨digits, .inl rfl⟩
  · exact ⟨word, .inr ⟨h, rfl⟩⟩

theorem Signed.read_eq {word : List Char} (h : Signed word digits) (hne : digits ≠ []) :
    read radix bound word = accumulate radix bound 0 digits := by
  unfold read
  rcases h with rfl | ⟨hhead, rfl⟩
  · split
    · next heq => cases heq
    · next heq => exact absurd (List.cons.inj heq).2 hne
    · next heq => rw [(List.cons.inj heq).2]
    · next hother => exact absurd rfl (hother digits)
  · split
    · exact absurd rfl hne
    · exact absurd rfl hhead
    · exact absurd rfl hhead
    · rfl

/-- A word without digits is empty or a plus sign. -/
theorem Signed.read_nil {word : List Char} (h : Signed word []) (radix bound : Nat) :
    (word = [] ∧ read radix bound word = .error .empty) ∨
      (word = ['+'] ∧ read radix bound word = .error .invalidDigit) := by
  rcases h with rfl | ⟨-, rfl⟩
  · exact .inr ⟨rfl, rfl⟩
  · exact .inl ⟨rfl, rfl⟩

theorem read_eq_ok_iff {word : List Char} (hradix : radix ≤ 16) (hpos : 0 < radix)
    (hbound : 0 < bound) :
    read radix bound word = .ok n ↔
      ∃ digits, Signed word digits ∧ digits ≠ [] ∧ Denotes radix digits n ∧ n < bound := by
  constructor
  · intro h
    obtain ⟨digits, hsigned⟩ := exists_signed word
    by_cases hnil : digits = []
    · rw [hnil] at hsigned
      rcases hsigned.read_nil radix bound with ⟨-, hread⟩ | ⟨-, hread⟩ <;>
        cases hread.symm.trans h
    · rw [hsigned.read_eq hnil] at h
      exact ⟨digits, hsigned, hnil, (accumulate_eq_ok_iff hradix hpos hbound).mp h⟩
  · rintro ⟨digits, hsigned, hnil, hdenotes⟩
    rw [hsigned.read_eq hnil]
    exact (accumulate_eq_ok_iff hradix hpos hbound).mpr hdenotes

theorem not_firstOffence_nil : ¬ FirstOffence radix bound [] reason := by
  rintro ⟨before, c, after, hnil, -⟩
  cases before <;> cases hnil

theorem read_eq_error_iff {word : List Char} (hradix : radix ≤ 16) (hpos : 0 < radix)
    (hbound : 0 < bound) :
    read radix bound word = .error reason ↔
      (word = [] ∧ reason = .empty) ∨ (word = ['+'] ∧ reason = .invalidDigit) ∨
        ∃ digits, Signed word digits ∧ FirstOffence radix bound digits reason := by
  constructor
  · intro h
    obtain ⟨digits, hsigned⟩ := exists_signed word
    by_cases hnil : digits = []
    · rw [hnil] at hsigned
      rcases hsigned.read_nil radix bound with ⟨hword, hread⟩ | ⟨hword, hread⟩
      · exact .inl ⟨hword, Except.error.inj (h.symm.trans hread)⟩
      · exact .inr (.inl ⟨hword, Except.error.inj (h.symm.trans hread)⟩)
    · rw [hsigned.read_eq hnil] at h
      exact .inr (.inr ⟨digits, hsigned, (accumulate_eq_error_iff hradix hpos hbound).mp h⟩)
  · rintro (⟨rfl, rfl⟩ | ⟨rfl, rfl⟩ | ⟨digits, hsigned, hfirst⟩)
    · rfl
    · rfl
    · have hnil : digits ≠ [] := by
        rintro rfl
        exact not_firstOffence_nil hfirst
      rw [hsigned.read_eq hnil]
      exact (accumulate_eq_error_iff hradix hpos hbound).mpr hfirst

example : read 10 UInt32.size "4294967296x".toList = .error .tooLarge := by rfl
example : read 10 UInt32.size "429x4967296".toList = .error .invalidDigit := by rfl

end Numeral

namespace Listing

open Numeral (Reason Signed Denotes FirstOffence)

/-! ## 5. Operands -/

/-- The radix of an operand word, and what stands behind the mark of the radix. -/
inductive Marked : List Char → Nat → List Char → Prop
  | decimal {word : List Char} (hmark : ∀ body, word ≠ '0' :: 'x' :: body) : Marked word 10 word
  | hexadecimal (body : List Char) : Marked ('0' :: 'x' :: body) 16 body

/-- The digits of an operand word and their radix. -/
def Spells (word : List Char) (radix : Nat) (digits : List Char) : Prop :=
  ∃ body, Marked word radix body ∧ Signed body digits

theorem exists_marked (word : List Char) : ∃ radix body, Marked word radix body := by
  by_cases h : ∃ body, word = '0' :: 'x' :: body
  · obtain ⟨body, rfl⟩ := h
    exact ⟨16, body, .hexadecimal body⟩
  · exact ⟨10, word, .decimal fun body hword => h ⟨body, hword⟩⟩

theorem Marked.unique {word body body' : List Char} {radix radix' : Nat}
    (h : Marked word radix body) (h' : Marked word radix' body') :
    radix' = radix ∧ body' = body := by
  cases h with
  | decimal hmark =>
    cases h' with
    | decimal => exact ⟨rfl, rfl⟩
    | hexadecimal => exact absurd rfl (hmark _)
  | hexadecimal =>
    cases h' with
    | decimal hmark => exact absurd rfl (hmark _)
    | hexadecimal => exact ⟨rfl, rfl⟩

/-- A word shows its digits behind its mark and in no other way. -/
theorem Marked.spells_iff {word body digits : List Char} {radix radix' : Nat}
    (h : Marked word radix body) :
    Spells word radix' digits ↔ radix' = radix ∧ Signed body digits := by
  constructor
  · rintro ⟨body', h', hsigned⟩
    obtain ⟨rfl, rfl⟩ := h.unique h'
    exact ⟨rfl, hsigned⟩
  · rintro ⟨rfl, hsigned⟩
    exact ⟨body, h, hsigned⟩

theorem Marked.radix_range {word body : List Char} {radix : Nat} (h : Marked word radix body) :
    0 < radix ∧ radix ≤ 16 := by
  cases h <;> decide

theorem Marked.readOperand_eq {word body : List Char} {radix : Nat} (h : Marked word radix body) :
    readOperand word = (Numeral.read radix UInt32.size body).map UInt32.ofNat := by
  cases h with
  | decimal hmark =>
    unfold readOperand
    split
    · next body => exact absurd rfl (hmark body)
    · rfl
  | hexadecimal => rfl

theorem readOperand_eq_error_iff {word body : List Char} {radix : Nat} {reason : Reason}
    (h : Marked word radix body) :
    readOperand word = .error reason ↔ Numeral.read radix UInt32.size body = .error reason := by
  rw [h.readOperand_eq]
  cases Numeral.read radix UInt32.size body with
  | error other =>
    exact ⟨fun h => congrArg _ (Except.error.inj h), fun h => congrArg _ (Except.error.inj h)⟩
  | ok n => exact ⟨nofun, nofun⟩

theorem exists_readOperand_iff {word body : List Char} {radix n : Nat}
    (h : Marked word radix body) :
    (∃ value, readOperand word = .ok value ∧ value.toNat = n) ↔
      Numeral.read radix UInt32.size body = .ok n := by
  obtain ⟨hpos, hradix⟩ := h.radix_range
  rw [h.readOperand_eq]
  cases hread : Numeral.read radix UInt32.size body with
  | error reason =>
    refine ⟨?_, nofun⟩
    rintro ⟨value, hvalue, -⟩
    cases hvalue
  | ok m =>
    -- What is read is below the bound, so it fits the word.
    have hm : (UInt32.ofNat m).toNat = m := by
      obtain ⟨_, _, _, _, hlt⟩ := (Numeral.read_eq_ok_iff hradix hpos (by decide)).mp hread
      exact UInt32.toNat_ofNat_of_lt' hlt
    constructor
    · rintro ⟨value, hvalue, rfl⟩
      cases hvalue
      rw [hm]
    · intro h
      cases h
      exact ⟨UInt32.ofNat n, rfl, hm⟩

/-- Every operand word is read as the value of its digits if there are any and their value is below
    `2 ^ 32`, with any number of zeros before them. Of the others, the word that is only the mark
    of the radix is called empty, and a sign without digits is a digit that is none. Else the
    leftmost character at fault gives the reason. -/
theorem readOperand_spells (word : List Char) (hword : word ≠ []) :
    (∀ n, (∃ value, readOperand word = .ok value ∧ value.toNat = n) ↔
      ∃ radix digits, Spells word radix digits ∧ digits ≠ [] ∧ Denotes radix digits n ∧
        n < 2 ^ 32) ∧
    ∀ reason, readOperand word = .error reason ↔
      (word = ['0', 'x'] ∧ reason = .empty) ∨
      ((∃ sign, (sign = '+' ∨ sign = '-') ∧ (word = [sign] ∨ word = ['0', 'x', sign])) ∧
        reason = .invalidDigit) ∨
      ∃ radix digits, Spells word radix digits ∧ FirstOffence radix (2 ^ 32) digits reason := by
  obtain ⟨radix, body, hmarked⟩ := exists_marked word
  obtain ⟨hpos, hradix⟩ := hmarked.radix_range
  refine ⟨fun n => ?read, fun reason => ?refused⟩
  case read =>
    rw [exists_readOperand_iff hmarked, Numeral.read_eq_ok_iff hradix hpos (by decide)]
    constructor
    · rintro ⟨digits, hsigned, hdigits⟩
      exact ⟨radix, digits, hmarked.spells_iff.mpr ⟨rfl, hsigned⟩, hdigits⟩
    · rintro ⟨radix', digits, hspelled, hdigits⟩
      obtain ⟨rfl, hsigned⟩ := hmarked.spells_iff.mp hspelled
      exact ⟨digits, hsigned, hdigits⟩
  case refused =>
    constructor
    · intro h
      rw [readOperand_eq_error_iff hmarked, Numeral.read_eq_error_iff hradix hpos (by decide)] at h
      rcases h with ⟨rfl, rfl⟩ | ⟨rfl, rfl⟩ | ⟨digits, hsigned, hfirst⟩
      · cases hmarked with
        | decimal => exact absurd rfl hword
        | hexadecimal => exact .inl ⟨rfl, rfl⟩
      · refine .inr (.inl ⟨⟨'+', .inl rfl, ?_⟩, rfl⟩)
        cases hmarked with
        | decimal => exact .inl rfl
        | hexadecimal => exact .inr rfl
      · exact .inr (.inr ⟨radix, digits, hmarked.spells_iff.mpr ⟨rfl, hsigned⟩, hfirst⟩)
    · rintro (⟨rfl, rfl⟩ | ⟨⟨sign, hsign, hword⟩, rfl⟩ | ⟨radix', digits, hspelled, hfirst⟩)
      · rfl
      · rcases hsign with rfl | rfl <;> rcases hword with rfl | rfl <;> rfl
      · obtain ⟨rfl, hsigned⟩ := hmarked.spells_iff.mp hspelled
        rw [readOperand_eq_error_iff hmarked, Numeral.read_eq_error_iff hradix hpos (by decide)]
        exact .inr (.inr ⟨digits, hsigned, hfirst⟩)

/-- A word with zeros before its digits, and one in which a digit takes the value to the bound
    before a character that is no digit. -/
theorem readOperand_spells_atBound :
    let fits := "+0004294967295".toList
    let large := "0x+100000000_".toList
    fits ≠ [] ∧ large ≠ [] ∧
      (∃ radix digits, Spells fits radix digits ∧ digits ≠ [] ∧ Denotes radix digits 4294967295 ∧
        4294967295 < 2 ^ 32) ∧
      ∃ radix digits, Spells large radix digits ∧ FirstOffence radix (2 ^ 32) digits .tooLarge := by
  intro fits large
  have hfits : fits ≠ [] := by decide
  have hlarge : large ≠ [] := by decide
  have hread := ((readOperand_spells fits hfits).1 4294967295).mp ⟨4294967295, rfl, rfl⟩
  have hrefused := ((readOperand_spells large hlarge).2 .tooLarge).mp rfl
  rcases hrefused with ⟨-, hreason⟩ | ⟨-, hreason⟩ | hfirst
  · cases hreason
  · cases hreason
  · exact ⟨hfits, hlarge, hread, hfirst⟩

end Listing

end CommandTape
