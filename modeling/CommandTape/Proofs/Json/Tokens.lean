import CommandTape.Json.Layout
import CommandTape.Json.Reading
import CommandTape.Proofs.Json.Literals

/-!
# Reading what has been written: tokens

A reading takes in a text one character at a time. This module says where the text of a token
leads, from any reading that awaits such a token, whatever containers are open around it, and that
a token that breaks off is a text that has ended too early.

* `Leads.append`: texts lead on from each other.
* `leads_gap`: white space between two tokens leads nowhere.
* `leads_text`, `leads_key`, `leads_flag`: a token that shows its own end leads to what it holds.
* `leads_natural`: the digits of a number lead to a number that may go on, and
  `next_of_delimits`: what comes behind a value ends it.
-/

namespace CommandTape.Json

namespace Reading

/-! ## 1. Texts that lead on -/

/-- The text leads from one reading to another. If it is `needed`, a text that breaks off before
    the end of this one has ended too early. -/
inductive Leads (needed : Bool) : Reading → List Char → Reading → Prop
  | nil (reading : Reading) : Leads needed reading [] reading
  | cons {reading middle reading' : Reading} {c : Char} {cs : List Char}
      (hcut : needed = true → reading.finish = .error .ended) (hnext : reading.next c = .ok middle)
      (hrest : Leads needed middle cs reading') : Leads needed reading (c :: cs) reading'

variable {needed : Bool} {reading middle reading' : Reading} {xs ys : List Char} {c : Char}

theorem Leads.single (hcut : reading.finish = .error .ended)
    (hnext : reading.next c = .ok reading') : Leads needed reading [c] reading' :=
  .cons (fun _ => hcut) hnext (.nil _)

/-- Where a text that breaks off is of no account, only the next reading counts. -/
theorem Leads.step (hnext : reading.next c = .ok middle) (hrest : Leads false middle xs reading') :
    Leads false reading (c :: xs) reading' :=
  .cons (fun h => absurd h Bool.false_ne_true) hnext hrest

theorem Leads.append (h : Leads needed reading xs middle) (h' : Leads needed middle ys reading') :
    Leads needed reading (xs ++ ys) reading' := by
  induction h with
  | nil => exact h'
  | cons hcut hnext _ ih => exact .cons hcut hnext (ih h')

/-- Reading is a fold, so it follows where the text leads. -/
theorem Leads.foldlM_next (h : Leads needed reading xs reading') :
    xs.foldlM next reading = .ok reading' := by
  induction h with
  | nil => rfl
  | cons _ hnext _ ih =>
    rw [List.foldlM_cons, hnext]
    exact ih

/-! ## 2. White space -/

/-- A text of white space. -/
def IsGap (gap : List Char) : Prop := ∀ c ∈ gap, isSpace c = true

theorem leads_gap {gap : List Char} (h : IsGap gap) (due : Due) (frames : List Frame) :
    Leads needed (between due frames) gap (between due frames) := by
  induction gap with
  | nil => exact .nil _
  | cons c gap ih =>
    exact .cons (fun _ => rfl) (if_pos (h c List.mem_cons_self))
      (ih fun c hc => h c (List.mem_cons_of_mem _ hc))

theorem isGap_nil : IsGap [] := List.forall_mem_nil _

theorem isGap_newLine (level : Nat) : IsGap (Layout.newLine level) := by
  intro c hc
  rcases List.mem_cons.mp hc with rfl | hc
  · rfl
  · rw [List.eq_of_mem_replicate hc]
    rfl

/-! ## 3. The first character of a value -/

/-- A value that answers to `want` is due, be it the first of its container or not. -/
def Awaits (due : Due) (want : Want) : Prop := due = .value want ∨ due = .firstValue want

theorem next_of_awaits {due : Due} {want : Want} (h : Awaits due want) (frames : List Frame)
    (hspace : isSpace c = false) (hclosing : c ≠ ']') :
    (between due frames).next c = openValue want frames c := by
  rcases h with rfl | rfl <;> simp [next, nextToken, nextBetween, openToken, hspace, hclosing]

end Reading

/-! ## 4. Texts and keys -/

namespace Reading

variable {needed : Bool} {want : Want} {due : Due} {value : Value}

/-- A literal that is neither ended nor broken leads on within the literal, be it a value or a
    key. -/
theorem leads_literal {strict : Bool} (within : Literal → Reading)
    (hnext : ∀ t c u, t.next strict c = .more u → (within t).next c = .ok (within u))
    (hcut : ∀ t, (within t).finish = .error .ended) {cs : List Char} {t u : Literal}
    (h : Literal.after? strict cs t = some u) : Leads needed (within t) cs (within u) := by
  induction cs generalizing t with
  | nil =>
    cases h
    exact .nil _
  | cons c cs ih =>
    rw [Literal.after?] at h
    cases hn : t.next strict c with
    | more v =>
      rw [hn] at h
      exact .cons (fun _ => hcut t) (hnext t c v hn) (ih h)
    | _ =>
      rw [hn] at h
      cases h

/-- A literal where a value is due. -/
theorem leads_text {text s : List Char} (hdue : Awaits due want)
    (hread : Literal.ReadAs want.isStrict text s)
    (htake : want.take (.text (String.ofList s)) = .ok value) (frames : List Frame) :
    Leads needed (between due frames) text (give value frames) := by
  obtain ⟨body, rfl, hafter⟩ := hread
  have hopen : (between due frames).next '"' = .ok (inText {} want frames) :=
    next_of_awaits hdue frames rfl (by decide)
  have hbody : Leads needed (inText {} want frames) body
      (inText ⟨s.reverse, none, .plain⟩ want frames) :=
    leads_literal (fun t => inText t want frames) (fun t c u h => by simp only [next, h])
      (fun _ => rfl) hafter
  have hclose : (inText ⟨s.reverse, none, .plain⟩ want frames).next '"' =
      .ok (give value frames) := by
    simp [next, Literal.next, giveScalar, htake, Except.map]
  exact .cons (fun _ => rfl) hopen (hbody.append (.single rfl hclose))

/-- A literal where a key is due. -/
theorem leads_key {text s : List Char} {frame frame' : Frame} (hdue : due = .key ∨ due = .firstKey)
    (hread : Literal.ReadAs frame.isStrict text s) {due' : Due}
    (hkey : frame.openKey (String.ofList s) = .ok (frame', due')) (outer : List Frame) :
    Leads needed (between due (frame :: outer)) text (between due' (frame' :: outer)) := by
  obtain ⟨body, rfl, hafter⟩ := hread
  have hopen : (between due (frame :: outer)).next '"' = .ok (inKey {} (frame :: outer)) := by
    rcases hdue with rfl | rfl <;> rfl
  have hbody : Leads needed (inKey {} (frame :: outer)) body
      (inKey ⟨s.reverse, none, .plain⟩ (frame :: outer)) :=
    leads_literal (fun t => inKey t (frame :: outer)) (fun t c u h => by simp [next, h])
      (fun _ => rfl) hafter
  have hclose : (inKey ⟨s.reverse, none, .plain⟩ (frame :: outer)).next '"' =
      .ok (between due' (frame' :: outer)) := by
    simp [next, Literal.next, giveKey, hkey, Except.map]
  exact .cons (fun _ => rfl) hopen (hbody.append (.single rfl hclose))

/-- The letters of `null`, `true` or `false` that are still due. -/
theorem leads_inWord {scalar : Scalar} (htake : want.take scalar = .ok value)
    (frames : List Frame) {letters : List Char} (hletters : letters ≠ []) :
    Leads needed (inWord letters scalar want frames) letters (give value frames) := by
  induction letters with
  | nil => exact absurd rfl hletters
  | cons letter rest ih =>
    cases rest with
    | nil => exact .single rfl (by simp [next, giveScalar, htake, Except.map])
    | cons letter' rest => exact .cons (fun _ => rfl) (if_pos rfl) (ih (List.cons_ne_nil _ _))

theorem leads_null (hdue : Awaits due want) (htake : want.take .null = .ok value)
    (frames : List Frame) :
    Leads needed (between due frames) Layout.null (give value frames) :=
  .cons (fun _ => rfl) (next_of_awaits hdue frames rfl (by decide))
    (leads_inWord htake frames (by decide))

theorem leads_flag (hdue : Awaits due want) (b : Bool) (htake : want.take (.flag b) = .ok value)
    (frames : List Frame) :
    Leads needed (between due frames) (Layout.flag b) (give value frames) := by
  cases b with
  | false =>
    exact .cons (fun _ => rfl) (next_of_awaits hdue frames rfl (by decide))
      (leads_inWord htake frames (by decide))
  | true =>
    exact .cons (fun _ => rfl) (next_of_awaits hdue frames rfl (by decide))
      (leads_inWord htake frames (by decide))

end Reading

/-! ## 5. Numbers -/

namespace NumberText

/-- The digits of a natural number, read to the last. -/
def natural (n : Nat) : NumberText :=
  ⟨if n = 0 then .zero else .whole, false, n, 0, false, 0⟩

theorem isComplete_natural (n : Nat) : (natural n).isComplete = true := by
  unfold natural isComplete
  split <;> rfl

theorem start?_digitChar {d : Nat} (h : d < 10) : start? (Nat.digitChar d) = some (natural d) := by
  have hall : ∀ d < 10, start? (Nat.digitChar d) = some (natural d) := by decide
  exact hall d h

theorem next_digitChar {n d : Nat} (hn : 0 < n) (hd : d < 10) :
    (natural n).next (Nat.digitChar d) = .more (natural (n * 10 + d)) := by
  have hdigit : Numeral.digit? 10 (Nat.digitChar d) = some d := by
    have hall : ∀ d < 10, Numeral.digit? 10 (Nat.digitChar d) = some d := by decide
    exact hall d hd
  have hn' : n ≠ 0 := Nat.ne_of_gt hn
  have hnd : n * 10 + d ≠ 0 := by omega
  simp only [next, hdigit, nextDigit, natural, hn', hnd, if_false]

theorem isOutOfRange_natural {n : Nat} (h : n < UInt64.size) : isOutOfRange n 0 = false := by
  have hleading : leading n 0 = (n, 0) := by rw [leading, dif_pos h]
  have hone : Binary64.round 1 = 1 := by decide
  have hbound : 2 * UInt64.size < Binary64.infinite := by decide +kernel
  have hround : Binary64.round n < Binary64.infinite := by
    have hle := Binary64.round_le n
    omega
  simp [isOutOfRange, hleading, hone, hround]

/-- A natural number that 64 bits hold is read as itself. -/
theorem value_natural {n : Nat} (h : n < UInt64.size) : (natural n).value = .natural n := by
  have hpart : ((natural n).part == .zero || (natural n).part == .whole) = true := by
    unfold natural
    split <;> rfl
  simp only [value, hpart]
  simp [natural, isOutOfRange_natural h]

/-- Behind a complete number, white space, a comma or the end of a container is the end of it. -/
theorem next_eq_over {t : NumberText} (h : t.isComplete = true) {c : Char}
    (hdigit : Numeral.digit? 10 c = none) (hmarks : c ∉ ['.', 'e', 'E', '+', '-']) :
    t.next c = .over := by
  simp only [List.mem_cons, List.not_mem_nil, or_false, not_or] at hmarks
  simp [next, hdigit, hmarks, h]

end NumberText

namespace Reading

variable {needed : Bool} {want : Want} {due : Due} {value : Value} {c : Char}

/-- What comes right behind a value: white space, a comma or the end of a container. -/
def Delimits (c : Char) : Prop := c ∈ [' ', '\t', '\n', '\r', ',', ']', '\x7d']

instance : Decidable (Delimits c) := inferInstanceAs (Decidable (c ∈ _))

theorem Delimits.of_isSpace (h : isSpace c = true) : Delimits c := by
  simp only [isSpace, Bool.or_eq_true, decide_eq_true_eq] at h
  rcases h with ((rfl | rfl) | rfl) | rfl <;> decide

theorem Delimits.not_number (hc : Delimits c) :
    Numeral.digit? 10 c = none ∧ c ∉ ['.', 'e', 'E', '+', '-'] := by
  simp only [Delimits, List.mem_cons, List.not_mem_nil, or_false] at hc
  rcases hc with rfl | rfl | rfl | rfl | rfl | rfl | rfl <;> decide

/-- A number is over once its delimiter is there, which counts as the character after the value. -/
theorem next_of_delimits (hc : Delimits c) {number : NumberText}
    (hcomplete : number.isComplete = true) (htake : want.take (.number number.value) = .ok value)
    (frames : List Frame) :
    (inNumber number want frames).next c = (give value frames).nextToken c := by
  have hover : number.next c = .over :=
    NumberText.next_eq_over hcomplete hc.not_number.1 hc.not_number.2
  simp only [next, hover, giveScalar, htake]
  rfl

theorem openValue_of_start? {number : NumberText} (h : NumberText.start? c = some number)
    (frames : List Frame) : openValue want frames c = .ok (inNumber number want frames) := by
  unfold openValue
  split
  case h_7 => rw [h]
  all_goals cases h

/-- A word is taken as what its digits say. -/
theorem take_natural {n : Nat} (h : n < UInt32.size) (nullable : Bool) :
    (Want.shape .word nullable).take (.number (NumberText.natural n).value) =
      .ok (.word (UInt32.ofNat n)) := by
  have hsize : UInt32.size ≤ UInt64.size := by decide
  rw [NumberText.value_natural (Nat.lt_of_lt_of_le h hsize)]
  exact if_pos h

/-- Within a container, a text that breaks off behind some digits has ended too early. -/
theorem finish_natural {n : Nat} (h : n < UInt32.size) (nullable : Bool) (frame : Frame)
    (outer : List Frame) :
    (inNumber (.natural n) (.shape .word nullable) (frame :: outer)).finish = .error .ended := by
  simp only [finish, NumberText.isComplete_natural, giveScalar, take_natural h]
  rfl

/-- The digits of a word within a container. -/
theorem leads_natural {nullable : Bool} (hdue : Awaits due (.shape .word nullable)) {n : Nat}
    (h : n < UInt32.size) (frame : Frame) (outer : List Frame) :
    Leads needed (between due (frame :: outer)) (Layout.natural n)
      (inNumber (.natural n) (.shape .word nullable) (frame :: outer)) := by
  unfold Layout.natural Numeral.decimal
  induction n using Nat.strongRecOn with
  | ind n ih =>
    rcases Nat.lt_or_ge n 10 with hn | hn
    · have hplain : ∀ d < 10, isSpace (Nat.digitChar d) = false ∧ Nat.digitChar d ≠ ']' := by decide
      rw [Nat.toDigits_of_lt_base hn]
      refine .single rfl ?_
      rw [next_of_awaits hdue _ (hplain n hn).1 (hplain n hn).2]
      exact openValue_of_start? (NumberText.start?_digitChar hn) _
    · have hshort : n / 10 < n := Nat.div_lt_self (by omega) (by decide)
      have hnext := NumberText.next_digitChar (n := n / 10) (d := n % 10) (by omega) (by omega)
      rw [Nat.div_add_mod'] at hnext
      rw [Nat.toDigits_of_base_le (by decide) hn]
      refine (ih (n / 10) hshort (by omega)).append (.single (finish_natural (by omega) _ _ _) ?_)
      simp only [next, hnext]

end Reading

end CommandTape.Json
