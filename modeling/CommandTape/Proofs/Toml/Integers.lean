import CommandTape.Proofs.OperandWords
import CommandTape.Toml.Word

/-!
# Integers in TOML

A TOML integer is written in decimal digits, without zeros before them and perhaps with a sign, or
behind the mark of another radix. An underscore may stand between any two digits. All these words
are read as their number if it fits 64 bits, and as nothing at all if it does not.

* `Writes`: the words that an integer may be written as.
* `integer?_of_writes`: they are read as the integer.
* `read?_of_writes`: as a whole word, an integer is looked at for its range and for nothing else.
* `writes_decimal`: the plain digits of an integer are one of its words.
-/

namespace CommandTape.Toml.Word

open Numeral (IsDigit Denotes)

variable {radix m : Nat} {n : Int} {word digits : List Char} {ds : List Nat} {c : Char}

/-! ## 1. Digits -/

/-- The word is these digits; between two of them an underscore may stand. -/
inductive Grouped : List Char → List Char → Prop
  | single (c : Char) : Grouped [c] [c]
  | next (c : Char) {word digits : List Char} (hrest : Grouped word digits) :
      Grouped (c :: word) (c :: digits)
  | apart (c : Char) {word digits : List Char} (hrest : Grouped word digits) :
      Grouped (c :: '_' :: word) (c :: digits)

theorem grouped_self (hne : digits ≠ []) : Grouped digits digits := by
  induction digits with
  | nil => exact absurd rfl hne
  | cons c digits ih =>
    cases digits with
    | nil => exact .single c
    | cons d digits => exact .next c (ih (List.cons_ne_nil _ _))

/-- The word begins with the first of the digits. -/
theorem Grouped.head?_eq (h : Grouped word digits) : word.head? = digits.head? := by
  cases h <;> rfl

theorem Grouped.mem (h : Grouped word digits) (hc : c ∈ word) : c ∈ digits ∨ c = '_' := by
  induction h with
  | single d => exact .inl hc
  | next d _ ih =>
    rcases List.mem_cons.mp hc with rfl | hc
    · exact .inl List.mem_cons_self
    · exact (ih hc).imp_left (List.mem_cons_of_mem d)
  | apart d _ ih =>
    rcases List.mem_cons.mp hc with rfl | hc
    · exact .inl List.mem_cons_self
    · rcases List.mem_cons.mp hc with rfl | hc
      · exact .inr rfl
      · exact (ih hc).imp_left (List.mem_cons_of_mem d)

/-- What holds of the digits of a radix, letters in either case, holds of each digit. -/
theorem of_isDigit {P : Char → Prop}
    (h : ∀ d < radix, P (Nat.digitChar d) ∧ P (Nat.digitChar d).toUpper) {d : Nat}
    (hc : IsDigit radix c d) : P c := by
  obtain ⟨hd, rfl | rfl⟩ := hc
  · exact (h d hd).1
  · exact (h d hd).2

theorem not_isDigit_underscore (hradix : radix ≤ 16) {d : Nat} : ¬ IsDigit radix '_' d := by
  rintro ⟨hd, hcase⟩
  have hall : ∀ d < 16, ¬ Numeral.IsCaseOf '_' (Nat.digitChar d) := by decide
  exact hall d (Nat.lt_of_lt_of_le hd hradix) hcase

theorem digits?_cons (hne : word ≠ []) (hhead : word.head? ≠ some '_') :
    digits? radix (c :: word) =
      (do let d ← Numeral.digit? radix c
          let ds ← digits? radix word
          some (d :: ds)) := by
  rw [digits?]
  · exact hne
  · rintro rest rfl
    exact hhead rfl

theorem digits?_of_grouped (hradix : radix ≤ 16) (hword : Grouped word digits)
    (hdigits : List.Forall₂ (IsDigit radix) digits ds) : digits? radix word = some ds := by
  have hread {c : Char} {d : Nat} (hc : IsDigit radix c d) : Numeral.digit? radix c = some d :=
    (Numeral.digit?_eq_some_iff hradix).mpr hc
  induction hword generalizing ds with
  | single c =>
    cases hdigits with
    | cons hc hnil =>
      cases hnil
      rw [digits?, hread hc]
      rfl
  | @next c word digits hrest ih =>
    cases hdigits with
    | cons hc hdigits =>
      -- Behind the first digit stands a digit, so neither an underscore nor the end of the word.
      have hne : word ≠ [] := by
        rintro rfl
        cases hrest
      have hhead : word.head? ≠ some '_' := by
        rw [hrest.head?_eq]
        cases hdigits with
        | nil => exact nofun
        | cons hc' _ =>
          intro h
          exact not_isDigit_underscore hradix (Option.some.inj h ▸ hc')
      rw [digits?_cons hne hhead, hread hc, ih hdigits]
      rfl
  | @apart c word digits hrest ih =>
    cases hdigits with
    | cons hc hdigits =>
      rw [digits?, hread hc, ih hdigits]
      rfl

theorem ofDigits_eq (radix : Nat) (ds : List Nat) :
    ofDigits radix ds = Nat.ofDigits radix ds.reverse := by
  rw [ofDigits, Nat.ofDigits_eq_foldr, List.foldr_reverse]
  congr 1
  funext value d
  simp
  ring

/-- Digits with their underscores are read as the number that they denote. -/
theorem exists_digits? (hradix : radix ≤ 16) (hword : Grouped word digits)
    (hdigits : Denotes radix digits m) :
    ∃ ds, digits? radix word = some ds ∧ ofDigits radix ds = m ∧
      List.Forall₂ (IsDigit radix) digits ds := by
  obtain ⟨ds, hds, rfl⟩ := hdigits
  exact ⟨ds, digits?_of_grouped hradix hword hds, ofDigits_eq radix ds, hds⟩

/-! ## 2. Integers -/

/-- A whole number in decimal digits, without zeros before it. -/
def Whole (word : List Char) (m : Nat) : Prop :=
  ∃ digits, Grouped word digits ∧ Denotes 10 digits m ∧ (digits.head? = some '0' → digits = ['0'])

/-- What stands behind the zero of a number in another radix. -/
inductive Mark : Char → Nat → Prop
  | hexadecimal : Mark 'x' 16
  | octal : Mark 'o' 8
  | binary : Mark 'b' 2

/-- The word is the integer `n`. -/
inductive Writes : List Char → Int → Prop
  | plain {word : List Char} {m : Nat} (hword : Whole word m) : Writes word m
  | plus {word : List Char} {m : Nat} (hword : Whole word m) : Writes ('+' :: word) m
  | minus {word : List Char} {m : Nat} (hword : Whole word m) : Writes ('-' :: word) (-m)
  | marked {mark : Char} {radix m : Nat} {word digits : List Char} (hmark : Mark mark radix)
      (hword : Grouped word digits) (hdigits : Denotes radix digits m) :
      Writes ('0' :: mark :: word) m

theorem whole?_of_whole (h : Whole word m) :
    ∃ ds, whole? word = some ds ∧ ofDigits 10 ds = m := by
  obtain ⟨digits, hword, hdigits, hzero⟩ := h
  obtain ⟨ds, hread, hvalue, hds⟩ := exists_digits? (by decide) hword hdigits
  refine ⟨ds, ?_, hvalue⟩
  rw [whole?, hread]
  split
  · next d rest heq =>
    -- A zero before further digits is excluded.
    cases heq
    cases hds with
    | @cons c _ digits _ hc hrest =>
      have hc : c = '0' := by
        obtain ⟨-, rfl | rfl⟩ := hc <;> rfl
      obtain ⟨-, rfl⟩ := List.cons.inj (hzero (congrArg some hc))
      cases hrest
  · rfl

/-- What holds of the underscore and of all digits of a radix holds of all characters of digits with
    their underscores. -/
theorem Grouped.forall_mem {P : Char → Prop} (hword : Grouped word digits)
    (hdigits : Denotes radix digits m) (hunderscore : P '_')
    (hdigit : ∀ d < radix, P (Nat.digitChar d) ∧ P (Nat.digitChar d).toUpper) :
    ∀ c ∈ word, P c := by
  intro c hc
  rcases hword.mem hc with hc | rfl
  · obtain ⟨d, hd⟩ := hdigits.isDigit hc
    exact of_isDigit hdigit hd
  · exact hunderscore

/-- A decimal number holds no sign and no mark of a radix. -/
theorem Whole.not_mem_mark (h : Whole word m) : ∀ c ∈ word, c ∉ ['+', '-', 'x', 'o', 'b'] := by
  obtain ⟨digits, hword, hdigits, -⟩ := h
  exact hword.forall_mem hdigits (by decide) (by decide)

theorem integer?_of_whole (h : Whole word m) : integer? word = some (m : Int) := by
  obtain ⟨ds, hread, hvalue⟩ := whole?_of_whole h
  have hmark : ∀ c ∈ ['+', '-', 'x', 'o', 'b'], c ∉ word := fun c hc hmem =>
    h.not_mem_mark c hmem hc
  have hunsigned : unsigned word = (false, word) := by
    unfold unsigned
    split
    · exact absurd List.mem_cons_self (hmark '-' (by decide))
    · exact absurd List.mem_cons_self (hmark '+' (by decide))
    · rfl
  have hsecond {c c' : Char} {rest : List Char} (hc' : c' ∈ ['+', '-', 'x', 'o', 'b'])
      (hword : word = c :: c' :: rest) : False :=
    hmark c' hc' (hword ▸ List.mem_cons_of_mem c List.mem_cons_self)
  unfold integer?
  split
  · exact (hsecond (by decide) rfl).elim
  · exact (hsecond (by decide) rfl).elim
  · exact (hsecond (by decide) rfl).elim
  · simp only [hunsigned, hread, Option.map_some, hvalue]
    rfl

theorem integer?_of_writes (h : Writes word n) : integer? word = some n := by
  cases h with
  | plain hword => exact integer?_of_whole hword
  | plus hword =>
    obtain ⟨ds, hread, hvalue⟩ := whole?_of_whole hword
    simp [integer?, unsigned, hread, hvalue]
  | minus hword =>
    obtain ⟨ds, hread, hvalue⟩ := whole?_of_whole hword
    simp [integer?, unsigned, hread, hvalue]
  | marked hmark hword hdigits =>
    cases hmark <;>
    · obtain ⟨ds, hread, hvalue, -⟩ := exists_digits? (by decide) hword hdigits
      simp [integer?, hread, hvalue]

/-! ## 3. Whole words -/

theorem isChar_of_writes (h : Writes word n) : ∀ c ∈ word, isChar c = true := by
  have hwhole {word : List Char} {m : Nat} (h : Whole word m) : ∀ c ∈ word, isChar c = true := by
    obtain ⟨digits, hword, hdigits, -⟩ := h
    exact hword.forall_mem hdigits (by decide) (by decide)
  cases h with
  | plain hword => exact hwhole hword
  | plus hword => exact List.forall_mem_cons.mpr ⟨by decide, hwhole hword⟩
  | minus hword => exact List.forall_mem_cons.mpr ⟨by decide, hwhole hword⟩
  | marked hmark hword hdigits =>
    cases hmark <;>
      exact List.forall_mem_cons.mpr ⟨by decide, List.forall_mem_cons.mpr ⟨by decide,
        hword.forall_mem hdigits (by decide) (by decide)⟩⟩

/-- A word that is an integer is looked at for its range and for nothing else. -/
theorem read?_of_writes (h : Writes word n) :
    read? word = if fits64 n then some (.integer n) else none := by
  have hinteger := integer?_of_writes h
  unfold read?
  split
  · next heq =>
    rw [heq] at hinteger
    cases hinteger
  · split
    · next heq =>
      rw [heq] at hinteger
      cases hinteger
    · rw [hinteger]

example : read? "0xdead_BEEF".toList = some (.integer 3735928559) := by decide
example : read? "-9_223_372_036_854_775_809".toList = none := by decide

/-! ## 4. Plain digits -/

theorem head?_toDigits_ne_zero (hm : 0 < m) : (Nat.toDigits 10 m).head? ≠ some '0' := by
  induction m using Nat.strongRecOn with
  | ind m ih =>
    rcases Nat.lt_or_ge m 10 with hsmall | hlarge
    · have hall : ∀ d < 10, 0 < d → ([Nat.digitChar d].head? ≠ some '0') := by decide
      rw [Nat.toDigits_of_lt_base hsmall]
      exact hall m hsmall hm
    · -- The last digit stands behind those of the number without it, of which there are some.
      have hfirst := ih (m / 10) (by omega) (by omega)
      rw [Nat.toDigits_of_base_le (by decide) hlarge]
      cases hdigits : Nat.toDigits 10 (m / 10) with
      | nil => exact absurd hdigits (List.ne_nil_of_length_pos Nat.length_toDigits_pos)
      | cons c digits =>
        rw [hdigits] at hfirst
        exact hfirst

theorem whole_decimal (m : Nat) : Whole (Numeral.decimal m) m := by
  have hne : Numeral.decimal m ≠ [] := List.ne_nil_of_length_pos Nat.length_toDigits_pos
  have hself : List.Forall₂ Numeral.IsCaseOf (Numeral.decimal m) (Nat.toDigits 10 m) :=
    List.forall₂_same.mpr fun _ _ => .inl rfl
  have hread : Numeral.accumulate 10 (m + 1) 0 (Numeral.decimal m) = .ok m :=
    Numeral.accumulate_digits (by decide) (by decide) hself (Nat.lt_succ_self m)
  refine ⟨Numeral.decimal m, grouped_self hne, ?_, ?_⟩
  · exact ((Numeral.accumulate_eq_ok_iff (by decide) (by decide) (Nat.succ_pos m)).mp hread).1
  · intro hzero
    rcases Nat.eq_zero_or_pos m with rfl | hm
    · rfl
    · exact absurd hzero (head?_toDigits_ne_zero hm)

/-- The decimal digits of an integer, behind a minus sign if it is negative. -/
def decimal : Int → List Char
  | .ofNat m => Numeral.decimal m
  | .negSucc m => '-' :: Numeral.decimal (m + 1)

theorem writes_decimal (n : Int) : Writes (decimal n) n := by
  cases n with
  | ofNat m => exact .plain (whole_decimal m)
  | negSucc m => exact .minus (whole_decimal (m + 1))

end CommandTape.Toml.Word
