import CommandTape.Json.Layout
import CommandTape.Json.Text
import CommandTape.Proofs.Text.Numerals

/-!
# Literals

How a text may be written as a literal is said character by character: as itself, by an escape of
one letter, by the number of its unit in hexadecimal, or by two of them for a pair of surrogates.
Reading the literal gives back the text, whatever the choice at each character. A reader that is not
strict takes more literals, and what it makes of them is of no account.

* `Spells`, `IsLiteral`: the literals of a text, and all there are.
* `spells_text`: a text as it is written is one of its literals.
* `Spells.readAs`, `IsLiteral.exists_readAs`: what literals are read as.
-/

namespace CommandTape.Json

/-! ## 1. Characters of a literal -/

/-- Four hexadecimal digits, in either case, that are the number of a UTF-16 unit. -/
inductive IsUnit : Nat → List Char → Prop
  | mk {a b c d : Nat} {w x y z : Char} (hw : Numeral.digit? 16 w = some a)
      (hx : Numeral.digit? 16 x = some b) (hy : Numeral.digit? 16 y = some c)
      (hz : Numeral.digit? 16 z = some d) :
      IsUnit (((a * 16 + b) * 16 + c) * 16 + d) [w, x, y, z]

/-- The piece of a literal that is a character: itself, an escape of one letter, the number of its
    unit, or those of a pair of surrogates. -/
inductive SpellsChar (c : Char) : List Char → Prop
  | plain (hcontrol : ' ' ≤ c) (hquote : c ≠ '"') (hbackslash : c ≠ '\\') : SpellsChar c [c]
  | letter {letter : Char} (h : escaped? letter = some c) : SpellsChar c ['\\', letter]
  | unit {digits : List Char} (h : IsUnit c.toNat digits) : SpellsChar c ('\\' :: 'u' :: digits)
  | pair {lead trail : Nat} {digits digits' : List Char} (hlead : isLead lead = true)
      (htrail : isTrail trail = true) (hc : c.toNat = paired lead trail)
      (h : IsUnit lead digits) (h' : IsUnit trail digits') :
      SpellsChar c ('\\' :: 'u' :: (digits ++ '\\' :: 'u' :: digits'))

/-- The text is a literal of these characters, from quote to quote. -/
inductive Spells (s : List Char) : List Char → Prop
  | mk {pieces : List (List Char)} (h : List.Forall₂ SpellsChar s pieces) :
      Spells s ('"' :: (pieces.flatten ++ ['"']))

/-- A piece of any literal, which may be a surrogate without its other. -/
inductive IsPiece : List Char → Prop
  | plain {c : Char} (hcontrol : ' ' ≤ c) (hquote : c ≠ '"') (hbackslash : c ≠ '\\') : IsPiece [c]
  | letter {letter : Char} (h : (escaped? letter).isSome) : IsPiece ['\\', letter]
  | unit {n : Nat} {digits : List Char} (h : IsUnit n digits) : IsPiece ('\\' :: 'u' :: digits)

/-- The text is a literal, from quote to quote. -/
inductive IsLiteral : List Char → Prop
  | mk {pieces : List (List Char)} (h : ∀ piece ∈ pieces, IsPiece piece) :
      IsLiteral ('"' :: (pieces.flatten ++ ['"']))

/-! ## 2. Literals as they are written -/

theorem digit?_digitChar {d : Nat} (h : d < 16) : Numeral.digit? 16 (Nat.digitChar d) = some d :=
  Numeral.digit?_of_isCaseOf (by decide) h (.inl rfl)

/-- A control character is written by its number. -/
theorem isUnit_control {c : Char} (h : c < ' ') :
    IsUnit c.toNat ('0' :: '0' :: Layout.hex2 c.toNat) := by
  have hc : c.toNat < 32 := h
  have hzero : Numeral.digit? 16 '0' = some 0 := rfl
  have hhigh : c.toNat / 16 < 16 := by omega
  have hlow : c.toNat % 16 < 16 := by omega
  have hvalue : ((0 * 16 + 0) * 16 + c.toNat / 16) * 16 + c.toNat % 16 = c.toNat := by omega
  have hunit := IsUnit.mk hzero hzero (digit?_digitChar hhigh) (digit?_digitChar hlow)
  rwa [hvalue] at hunit

theorem spellsChar_escape (c : Char) : SpellsChar c (Layout.escape c) := by
  unfold Layout.escape
  split
  · exact .letter rfl
  · exact .letter rfl
  · exact .letter rfl
  · exact .letter rfl
  · exact .letter rfl
  · exact .letter rfl
  · exact .letter rfl
  · next hquote hbackslash _ _ _ _ _ =>
    split
    · next hc => exact .unit (isUnit_control hc)
    · next hc => exact .plain (Char.not_lt.mp hc) hquote hbackslash

/-- A text as it is written is one of its literals. -/
theorem spells_text (s : List Char) : Spells s (Layout.text s) := by
  have hpieces : List.Forall₂ SpellsChar s (s.map Layout.escape) :=
    List.forall₂_map_right_iff.mpr (List.forall₂_same.mpr fun c _ => spellsChar_escape c)
  have hspells := Spells.mk hpieces
  rwa [← List.flatMap_def] at hspells

/-! ## 3. Reading literals -/

theorem utf8Size_of_digit? {radix d : Nat} {c : Char} (h : Numeral.digit? radix c = some d) :
    c.utf8Size = 1 := by
  obtain ⟨hvalue, -⟩ := Option.filter_eq_some_iff.mp h
  have hascii : c ≤ 'z' := by
    unfold Numeral.letterValue? at hvalue
    split at hvalue
    · next hdigit =>
      rw [Char.isDigit, Bool.and_eq_true, decide_eq_true_eq, decide_eq_true_eq] at hdigit
      exact Char.le_trans hdigit.2 (by decide)
    · split at hvalue
      · next hsmall => exact hsmall.2
      · split at hvalue
        · next hcapital => exact Char.le_trans hcapital.2 (by decide)
        · cases hvalue
  exact Char.utf8Size_eq_one_iff.mpr (UInt32.le_trans hascii (by decide))

/-- No character is half of a pair. -/
theorem not_surrogate (c : Char) : isLead c.toNat = false ∧ isTrail c.toNat = false := by
  have hvalid : c.toNat < 0xd800 ∨ (0xdfff < c.toNat ∧ c.toNat < 0x110000) := c.valid
  simp only [isLead, isTrail, Bool.and_eq_false_iff, decide_eq_false_iff_not]
  omega

theorem isTrail_of_isLead {unit : Nat} (h : isLead unit = true) : isTrail unit = false := by
  simp only [isLead, isTrail, Bool.and_eq_true, decide_eq_true_eq, Bool.and_eq_false_iff,
    decide_eq_false_iff_not] at h ⊢
  omega

namespace Literal

variable {strict : Bool} {taken : List Char} {lead : Option Nat} {c : Char} {n : Nat}
  {digits : List Char}

/-- The literal after some more characters, if they neither end nor break it. -/
def after? (strict : Bool) : List Char → Literal → Option Literal
  | [], t => some t
  | c :: cs, t =>
    match t.next strict c with
    | .more t => after? strict cs t
    | .over _ | .broken => none

theorem after?_append {xs ys : List Char} {t u : Literal} (h : after? strict xs t = some u) :
    after? strict (xs ++ ys) t = after? strict ys u := by
  induction xs generalizing t with
  | nil =>
    cases h
    rfl
  | cons c xs ih =>
    rw [List.cons_append, after?]
    rw [after?] at h
    cases hn : t.next strict c with
    | more v =>
      rw [hn] at h
      exact ih h
    | _ =>
      rw [hn] at h
      cases h

/-- The digits of a unit are looked at once all four of them are there. -/
theorem after?_unit (h : IsUnit n digits) {u : Literal}
    (hunit : ∀ spot, nextUnit strict ⟨taken, lead, spot⟩ n = .more u) :
    after? strict ('\\' :: 'u' :: digits) ⟨taken, lead, .plain⟩ = some u := by
  cases h with
  | mk hw hx hy hz =>
    simp [after?, next, hw, hx, hy, hz, utf8Size_of_digit? hw, utf8Size_of_digit? hx,
      utf8Size_of_digit? hy, utf8Size_of_digit? hz, hunit]

/-- A spelled character is read as the character. -/
theorem after?_spellsChar {piece : List Char} (h : SpellsChar c piece) (taken : List Char) :
    after? true piece ⟨taken, none, .plain⟩ = some ⟨c :: taken, none, .plain⟩ := by
  cases h with
  | plain hcontrol hquote hbackslash =>
    have hcontrol : ¬ c < ' ' := Char.not_lt.mpr hcontrol
    simp [after?, next, hquote, hbackslash, hcontrol, push]
  | @letter letter h =>
    have hu : letter ≠ 'u' := by
      rintro rfl
      cases h
    simp [after?, next, hu, h, push]
  | unit h =>
    obtain ⟨hlead, htrail⟩ := not_surrogate c
    exact after?_unit h fun spot => by simp [nextUnit, hlead, htrail, push]
  | @pair lead trail digits digits' hlead htrail hc h h' =>
    have hfirst : after? true ('\\' :: 'u' :: digits) ⟨taken, none, .plain⟩ =
        some ⟨taken, some lead, .plain⟩ :=
      after?_unit h fun spot => by simp [nextUnit, hlead, isTrail_of_isLead hlead]
    have hsecond : after? true ('\\' :: 'u' :: digits') ⟨taken, some lead, .plain⟩ =
        some ⟨c :: taken, none, .plain⟩ :=
      after?_unit h' fun spot => by simp [nextUnit, htrail, ← hc, push]
    rw [← hsecond]
    exact after?_append hfirst

theorem after?_spells {s : List Char} {pieces : List (List Char)}
    (h : List.Forall₂ SpellsChar s pieces) (taken : List Char) :
    after? true pieces.flatten ⟨taken, none, .plain⟩ = some ⟨s.reverse ++ taken, none, .plain⟩ := by
  induction h generalizing taken with
  | nil => rfl
  | cons hpiece _ ih =>
    rw [List.flatten_cons, after?_append (after?_spellsChar hpiece taken), ih, List.reverse_cons,
      List.append_assoc]
    rfl

/-- What a reader that is not strict makes of a piece is of no account. -/
theorem after?_isPiece {piece : List Char} (h : IsPiece piece) (taken : List Char) :
    ∃ taken', after? false piece ⟨taken, none, .plain⟩ = some ⟨taken', none, .plain⟩ := by
  cases h with
  | @plain c hcontrol hquote hbackslash =>
    have hcontrol : ¬ c < ' ' := Char.not_lt.mpr hcontrol
    exact ⟨c :: taken, by simp [after?, next, hquote, hbackslash, hcontrol, push]⟩
  | @letter letter h =>
    obtain ⟨c, hc⟩ := Option.isSome_iff_exists.mp h
    have hu : letter ≠ 'u' := by
      rintro rfl
      cases hc
    exact ⟨c :: taken, by simp [after?, next, hu, hc, push]⟩
  | unit h => exact ⟨taken, after?_unit h fun spot => rfl⟩

theorem exists_after?_pieces {pieces : List (List Char)} (h : ∀ piece ∈ pieces, IsPiece piece)
    (taken : List Char) :
    ∃ taken', after? false pieces.flatten ⟨taken, none, .plain⟩ = some ⟨taken', none, .plain⟩ := by
  induction pieces generalizing taken with
  | nil => exact ⟨taken, rfl⟩
  | cons piece pieces ih =>
    obtain ⟨hpiece, hpieces⟩ := List.forall_mem_cons.mp h
    obtain ⟨middle, hmiddle⟩ := after?_isPiece hpiece taken
    obtain ⟨taken', htaken'⟩ := ih hpieces middle
    refine ⟨taken', ?_⟩
    rw [List.flatten_cons, after?_append hmiddle, htaken']

/-- The text is a literal, from its opening quote to its closing one, that is read as these
    characters. -/
def ReadAs (strict : Bool) (text s : List Char) : Prop :=
  ∃ body, text = '"' :: (body ++ ['"']) ∧ after? strict body {} = some ⟨s.reverse, none, .plain⟩

end Literal

/-- However its characters are written, a literal is read as them. -/
theorem Spells.readAs {s text : List Char} (h : Spells s text) : Literal.ReadAs true text s := by
  cases h with
  | @mk pieces h =>
    refine ⟨pieces.flatten, rfl, ?_⟩
    rw [← List.append_nil s.reverse]
    exact Literal.after?_spells h []

theorem IsLiteral.exists_readAs {text : List Char} (h : IsLiteral text) :
    ∃ s, Literal.ReadAs false text s := by
  cases h with
  | @mk pieces h =>
    obtain ⟨taken, htaken⟩ := Literal.exists_after?_pieces h []
    refine ⟨taken.reverse, pieces.flatten, rfl, ?_⟩
    rw [List.reverse_reverse]
    exact htaken

theorem readAs_text (s : List Char) : Literal.ReadAs true (Layout.text s) s :=
  (spells_text s).readAs

end CommandTape.Json
