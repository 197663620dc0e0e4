import CommandTape.Proofs.Json.Containers

/-!
# Documents

What JSON there is: literals with any escapes, numbers of any size, and containers of them to any
depth. A document that nothing is asked of is passed over from its first character to its last.

* `IsNumber`, `Document`: the texts of JSON.
* `IsNumber.reads`: a number is passed over, be it in range or not.
* `Document.reads`: so is every document.
-/

namespace CommandTape.Json

open Reading

/-! ## 1. Numbers -/

/-- The whole part of a number: a zero, or digits that do not begin with one. -/
inductive IsWhole : List Char → Prop
  | zero : IsWhole ['0']
  | digits {c : Char} {cs : List Char} (hc : c.isDigit = true) (hzero : c ≠ '0')
      (hcs : ∀ c ∈ cs, c.isDigit = true) : IsWhole (c :: cs)

/-- Nothing, or a point and digits. -/
inductive IsFraction : List Char → Prop
  | none : IsFraction []
  | digits {digits : List Char} (hne : digits ≠ []) (hdigits : ∀ c ∈ digits, c.isDigit = true) :
      IsFraction ('.' :: digits)

/-- Nothing, or a mark and digits, with or without a sign. -/
inductive IsExponent : List Char → Prop
  | none : IsExponent []
  | digits {mark : Char} {sign digits : List Char} (hmark : mark = 'e' ∨ mark = 'E')
      (hsign : sign ∈ [[], ['+'], ['-']]) (hne : digits ≠ [])
      (hdigits : ∀ c ∈ digits, c.isDigit = true) : IsExponent (mark :: (sign ++ digits))

inductive IsNumber : List Char → Prop
  | mk {sign whole fraction exponent : List Char} (hsign : sign = [] ∨ sign = ['-'])
      (hwhole : IsWhole whole) (hfraction : IsFraction fraction)
      (hexponent : IsExponent exponent) : IsNumber (sign ++ (whole ++ (fraction ++ exponent)))

theorem exists_digit? {c : Char} (hc : c.isDigit = true) :
    ∃ d, Numeral.digit? 10 c = some d ∧ (d = 0 ↔ c = '0') := by
  have hbounds := hc
  rw [Char.isDigit, Bool.and_eq_true, decide_eq_true_eq, decide_eq_true_eq] at hbounds
  have hlow : 48 ≤ c.toNat := hbounds.1
  have hhigh : c.toNat ≤ 57 := hbounds.2
  have hzero : c = '0' ↔ c.toNat = 48 := Char.toNat_inj.symm
  have hvalue : Numeral.letterValue? c = some (c.toNat - 48) := if_pos hc
  refine ⟨c.toNat - 48, ?_, by rw [hzero]; omega⟩
  have hbelow : c.toNat - 48 < 10 := by omega
  rw [Numeral.digit?, hvalue]
  exact if_pos (decide_eq_true hbelow)

section Numbers

variable {due : Due} {want : Want} {frames : List Frame} {t : NumberText} {c : Char}
  {cs digits : List Char}

/-- The part of a number that goes on with a digit. -/
def NumberPart.withDigit : NumberPart → NumberPart
  | .sign | .zero | .whole => .whole
  | .point | .fraction => .fraction
  | .mark | .markSign | .exponent => .exponent

theorem next_of_more {u : NumberText} (h : t.next c = .more u) :
    (inNumber t want frames).next c = .ok (inNumber u want frames) := by
  simp only [Reading.next, h]

theorem next_digit (hpart : t.part ∉ [.sign, .zero]) (hc : c.isDigit = true) :
    ∃ u : NumberText, u.part = t.part.withDigit ∧
      (inNumber t want frames).next c = .ok (inNumber u want frames) := by
  obtain ⟨d, hd, -⟩ := exists_digit? hc
  have hmore : ∃ u : NumberText, u.part = t.part.withDigit ∧ t.next c = .more u := by
    obtain ⟨part, negative, digits, places, exponentNegative, exponent⟩ := t
    cases part <;> simp_all [NumberText.next, NumberText.nextDigit, NumberPart.withDigit]
  obtain ⟨u, hu, hmore⟩ := hmore
  exact ⟨u, hu, next_of_more hmore⟩

theorem leads_digits (hpart : t.part ∉ [.sign, .zero]) (hne : digits ≠ [])
    (hdigits : ∀ c ∈ digits, c.isDigit = true) :
    ∃ u : NumberText, u.part = t.part.withDigit ∧
      Leads false (inNumber t want frames) digits (inNumber u want frames) := by
  induction digits generalizing t with
  | nil => exact absurd rfl hne
  | cons c digits ih =>
    obtain ⟨hc, hdigits⟩ := List.forall_mem_cons.mp hdigits
    obtain ⟨u, hu, hnext⟩ := next_digit hpart hc
    by_cases hnil : digits = []
    · rw [hnil]
      exact ⟨u, hu, .step hnext (.nil _)⟩
    · -- The part that the first digit leads to is the one that all others stay in.
      have hagain : u.part ∉ [.sign, .zero] ∧ u.part.withDigit = t.part.withDigit := by
        rw [hu]
        cases t.part <;> decide
      obtain ⟨v, hv, hleads⟩ := ih hagain.1 hnil hdigits
      exact ⟨v, hv.trans hagain.2, .step hnext hleads⟩

theorem next_firstDigit (hc : c.isDigit = true) (hdue : Awaits due want) :
    ∃ t : NumberText, t.part = (if c = '0' then .zero else .whole) ∧
      (between due frames).next c = .ok (inNumber t want frames) := by
  obtain ⟨d, hd, hzero⟩ := exists_digit? hc
  have hminus : c ≠ '-' := by
    rintro rfl
    cases hc
  have hstart : NumberText.start? c =
      some ⟨if d = 0 then .zero else .whole, false, d, 0, false, 0⟩ := by
    simp [NumberText.start?, hminus, hd]
  have hspace : isSpace c = false := by
    refine Bool.eq_false_iff.mpr fun h => ?_
    rw [(Delimits.of_isSpace h).not_number.1] at hd
    cases hd
  have hclosing : c ≠ ']' := by
    rintro rfl
    cases hc
  refine ⟨⟨if d = 0 then .zero else .whole, false, d, 0, false, 0⟩, if_congr hzero rfl rfl, ?_⟩
  rw [next_of_awaits hdue frames hspace hclosing]
  exact openValue_of_start? hstart frames

theorem next_signedDigit (ht : t.part = .sign) (hc : c.isDigit = true) :
    ∃ u : NumberText, u.part = (if c = '0' then .zero else .whole) ∧
      (inNumber t want frames).next c = .ok (inNumber u want frames) := by
  obtain ⟨d, hd, hzero⟩ := exists_digit? hc
  refine ⟨{ t with part := if d = 0 then .zero else .whole, digits := d },
    if_congr hzero rfl rfl, next_of_more ?_⟩
  simp [NumberText.next, NumberText.nextDigit, hd, ht]

/-- A first digit begins the whole part, and no other may follow a zero. -/
theorem leads_whole {reading : Reading} (h : IsWhole cs)
    (hfirst : ∀ c, c.isDigit = true → ∃ t : NumberText,
      t.part = (if c = '0' then .zero else .whole) ∧
        reading.next c = .ok (inNumber t want frames)) :
    ∃ t : NumberText, t.part ∈ [.zero, .whole] ∧
      Leads false reading cs (inNumber t want frames) := by
  cases h with
  | zero =>
    obtain ⟨t, ht, hnext⟩ := hfirst '0' rfl
    exact ⟨t, by simp [ht], .step hnext (.nil _)⟩
  | @digits c cs hc hzero hcs =>
    obtain ⟨t, ht, hnext⟩ := hfirst c hc
    rw [if_neg hzero] at ht
    by_cases hnil : cs = []
    · rw [hnil]
      exact ⟨t, by simp [ht], .step hnext (.nil _)⟩
    · obtain ⟨u, hu, hleads⟩ := leads_digits (t := t) (by simp [ht]) hnil hcs
      rw [ht] at hu
      exact ⟨u, by simp [hu, NumberPart.withDigit], .step hnext hleads⟩

theorem leads_fraction (h : IsFraction cs) (ht : t.part ∈ [.zero, .whole]) :
    ∃ u : NumberText, u.part ∈ [.zero, .whole, .fraction] ∧
      Leads false (inNumber t want frames) cs (inNumber u want frames) := by
  cases h with
  | none =>
    simp only [List.mem_cons, List.not_mem_nil, or_false] at ht
    exact ⟨t, by rcases ht with ht | ht <;> simp [ht], .nil _⟩
  | @digits digits hne hdigits =>
    have hpoint : t.next '.' = .more { t with part := .point } := by
      have hdigit : Numeral.digit? 10 '.' = none := by decide
      have ht : t.part = .zero ∨ t.part = .whole := by simpa using ht
      simp [NumberText.next, hdigit, ht]
    have hpart : NumberPart.point ∉ [.sign, .zero] := by decide
    obtain ⟨u, hu, hleads⟩ := leads_digits (t := { t with part := .point }) hpart hne hdigits
    exact ⟨u, by simp [hu, NumberPart.withDigit], .step (next_of_more hpoint) hleads⟩

theorem leads_sign {sign : List Char} (ht : t.part = .mark) (hsign : sign ∈ [[], ['+'], ['-']]) :
    ∃ u : NumberText, (u.part = .mark ∨ u.part = .markSign) ∧
      Leads false (inNumber t want frames) sign (inNumber u want frames) := by
  have hsigned {c : Char} (hdigit : Numeral.digit? 10 c = none) (hc : c = '+' ∨ c = '-') :
      t.next c = .more { t with part := .markSign, exponentNegative := c = '-' } := by
    rcases hc with rfl | rfl <;> simp [NumberText.next, hdigit, ht]
  simp only [List.mem_cons, List.not_mem_nil, or_false] at hsign
  rcases hsign with rfl | rfl | rfl
  · exact ⟨t, .inl ht, .nil _⟩
  · exact ⟨_, .inr rfl, .step (next_of_more (hsigned (by decide) (.inl rfl))) (.nil _)⟩
  · exact ⟨_, .inr rfl, .step (next_of_more (hsigned (by decide) (.inr rfl))) (.nil _)⟩

theorem leads_exponent (h : IsExponent cs) (ht : t.part ∈ [.zero, .whole, .fraction]) :
    ∃ u : NumberText, u.isComplete = true ∧
      Leads false (inNumber t want frames) cs (inNumber u want frames) := by
  have hparts : t.part = .zero ∨ t.part = .whole ∨ t.part = .fraction := by simpa using ht
  cases h with
  | none =>
    exact ⟨t, by rcases hparts with ht | ht | ht <;> simp [NumberText.isComplete, ht], .nil _⟩
  | @digits mark sign digits hmark hsign hne hdigits =>
    have hmore : t.next mark = .more { t with part := .mark } := by
      have hdigit : Numeral.digit? 10 mark = none := by
        rcases hmark with rfl | rfl <;> decide
      have hpoint : mark ≠ '.' := by
        rcases hmark with rfl | rfl <;> decide
      simp [NumberText.next, hdigit, hpoint, hmark, hparts]
    obtain ⟨u, hu, hsigned⟩ := leads_sign (t := { t with part := .mark }) rfl hsign
    obtain ⟨v, hv, hleads⟩ := leads_digits (t := u) (by rcases hu with hu | hu <;> simp [hu]) hne
      hdigits
    have hcomplete : v.part = .exponent := by
      rw [hv]
      rcases hu with hu | hu <;> rw [hu] <;> rfl
    exact ⟨v, by simp [NumberText.isComplete, hcomplete],
      .step (next_of_more hmore) (hsigned.append hleads)⟩

theorem leads_number (h : IsNumber cs) (hdue : Awaits due want) :
    ∃ t : NumberText, t.isComplete = true ∧
      Leads false (between due frames) cs (inNumber t want frames) := by
  cases h with
  | @mk sign whole fraction exponent hsign hwhole hfraction hexponent =>
    have hstart : ∃ t : NumberText, t.part ∈ [.zero, .whole] ∧
        Leads false (between due frames) (sign ++ whole) (inNumber t want frames) := by
      rcases hsign with rfl | rfl
      · exact leads_whole hwhole fun c hc => next_firstDigit hc hdue
      · have hminus : (between due frames).next '-' =
            .ok (inNumber ⟨.sign, true, 0, 0, false, 0⟩ want frames) :=
          (next_of_awaits hdue frames rfl (by decide)).trans rfl
        obtain ⟨t, ht, hleads⟩ := leads_whole hwhole fun c hc =>
          next_signedDigit (t := ⟨.sign, true, 0, 0, false, 0⟩) rfl hc
        exact ⟨t, ht, .step hminus hleads⟩
    obtain ⟨t, ht, hleads⟩ := hstart
    obtain ⟨u, hu, hleads'⟩ := leads_fraction hfraction ht
    obtain ⟨v, hv, hleads''⟩ := leads_exponent hexponent hu
    rw [← List.append_assoc]
    exact ⟨v, hv, hleads.append (hleads'.append hleads'')⟩

/-- A number is passed over, whether or not it is in range. -/
theorem IsNumber.reads (h : IsNumber cs) : Reads false .anything cs .null := by
  intro due hdue frame outer rest reading' hdelimited hrest
  obtain ⟨c, rest, rfl, hc⟩ := hdelimited
  obtain ⟨t, ht, hleads⟩ := leads_number h hdue
  refine hleads.append ?_
  -- Only the delimiter shows that the number is over, and then any number will do.
  cases hrest with
  | cons _ hnext hrest =>
    refine .step ?_ hrest
    rw [next_of_delimits hc ht rfl]
    exact hnext

end Numbers

/-! ## 2. Documents -/

/-- A member of an object: a literal for its key, a colon with white space around it, a value. -/
structure Member where
  key : List Char
  before : List Char
  after : List Char
  value : List Char

/-- The text of a member. -/
def Member.text (m : Member) : List Char := m.key ++ (m.before ++ ':' :: (m.after ++ m.value))

/-- The text is a JSON value. -/
inductive Document : List Char → Prop
  | null : Document Layout.null
  | flag (b : Bool) : Document (Layout.flag b)
  | number {text : List Char} (h : IsNumber text) : Document text
  | literal {text : List Char} (h : IsLiteral text) : Document text
  | array {items : List (List Char)} {text : List Char} (hspread : Spread items text)
      (hitems : ∀ item ∈ items, Document item) : Document ('[' :: (text ++ [']']))
  | object {members : List Member} {text : List Char} (hspread : Spread (members.map (·.text)) text)
      (hkeys : ∀ m ∈ members, IsLiteral m.key ∧ IsGap m.before ∧ IsGap m.after)
      (hvalues : ∀ m ∈ members, Document m.value) : Document ('\x7b' :: (text ++ ['\x7d']))

/-- Items that leave an open container as it is. -/
theorem takesAll_same {frame : Frame} {items : List (List Char)}
    (h : ∀ item ∈ items, Takes false frame item frame) : TakesAll false frame items frame := by
  induction items with
  | nil => exact .nil _
  | cons item items ih =>
    obtain ⟨hitem, hitems⟩ := List.forall_mem_cons.mp h
    exact .cons hitem (ih hitems)

/-- A document that nothing is asked of is passed over, to any depth. -/
theorem Document.reads {text : List Char} (h : Document text) :
    Reads false .anything text .null := by
  induction h with
  | null => exact ReadsWhole.reads fun _ hdue => leads_null hdue rfl
  | flag b => exact ReadsWhole.reads fun _ hdue => leads_flag hdue b rfl
  | number h => exact h.reads
  | literal h =>
    -- What the literal is read as is thrown away with it.
    obtain ⟨s, hs⟩ := h.exists_readAs
    exact ReadsWhole.reads fun _ hdue => leads_text hdue hs rfl
  | @array items text hspread _ ih =>
    have hitems : TakesAll false .array items .array := takesAll_same fun item hitem =>
      fun _ hdue outer _ _ hdelimited hrest => ih item hitem hdue.symm .array outer hdelimited hrest
    exact (readsWhole_spread '[' rfl (by decide) (fun _ => rfl) hspread hitems rfl rfl).reads
  | @object members text hspread hkeys _ ih =>
    have hmembers : TakesAll false .object (members.map (·.text)) .object := by
      refine takesAll_same fun item hitem => ?_
      obtain ⟨m, hm, rfl⟩ := List.mem_map.mp hitem
      obtain ⟨hkey, hbefore, hafter⟩ := hkeys m hm
      obtain ⟨s, hs⟩ := hkey.exists_readAs
      have hs : Literal.ReadAs false m.key (String.ofList s).toList := by
        rw [String.toList_ofList]
        exact hs
      exact takes_keyed rfl hs rfl hbefore hafter (ih m hm) rfl
    exact (readsWhole_spread '\x7b' rfl (by decide) (fun _ => rfl) hspread hmembers rfl rfl).reads

end CommandTape.Json
