import CommandTape.Listing
import CommandTape.Proofs.Text.Cuts
import Mathlib.Data.List.Forall2
import Mathlib.Data.String.Basic

/-!
# The grammar of text listings

What a line of a listing may be is said without its reader: blank up to its comment, or the words
of one instruction. Reading accepts exactly these lines, and of the others it names the first.

* `readLine_eq_none_iff`, `instructs_iff`: the reader of a line knows the two kinds of lines.
* `Lists.readLines`: lines of the two kinds give their instructions in order.
* `readLines_wrong`: the first line of no kind is named by its number.
* `read_grammar`: what a text is read as, for every text and every ceiling.
-/

namespace CommandTape

/-! ## 1. Names in any letter case -/

/-- The word is the name with some of its letters as capitals. -/
def InAnyCase (word : List Char) (name : String) : Prop :=
  List.Forall₂ (fun c letter => c = letter ∨ c = letter.toUpper) word name.toList

/-- The capitals of ASCII go up by 32 code points, and all other characters stay. -/
theorem toNat_toLower (c : Char) :
    c.toLower.toNat = if 65 ≤ c.toNat ∧ c.toNat ≤ 90 then c.toNat + 32 else c.toNat := by
  unfold Char.toLower
  split
  · next h =>
    have h' : 65 ≤ c.toNat ∧ c.toNat ≤ 90 := h
    rw [if_pos h']
    have hadd : (c.val + 32).toNat = c.val.toNat + 32 := by
      rw [UInt32.toNat_add]
      exact Nat.mod_eq_of_lt (Nat.lt_of_le_of_lt (Nat.add_le_add_right h'.2 _) (by decide))
    exact hadd
  · next h => exact (if_neg h).symm

theorem toNat_toUpper (c : Char) :
    c.toUpper.toNat = if 97 ≤ c.toNat ∧ c.toNat ≤ 122 then c.toNat - 32 else c.toNat := by
  unfold Char.toUpper
  split
  · next h =>
    have h' : 97 ≤ c.toNat ∧ c.toNat ≤ 122 := h
    rw [if_pos h']
    -- The distance is negative, so it is added as a word that wraps.
    have hadd : (c.val + ('A'.val - 'a'.val)).toNat = (c.toNat + 4294967264) % 4294967296 :=
      UInt32.toNat_add _ _
    have hsub : (c.toNat + 4294967264) % 4294967296 = c.toNat - 32 := by omega
    exact hadd.trans hsub
  · next h => exact (if_neg h).symm

theorem toLower_eq_iff {c letter : Char} (hletter : letter.toLower = letter) :
    c.toLower = letter ↔ c = letter ∨ c = letter.toUpper := by
  rw [← Char.toNat_inj, toNat_toLower] at hletter
  rw [← Char.toNat_inj, ← Char.toNat_inj, ← Char.toNat_inj, toNat_toLower, toNat_toUpper]
  split at hletter <;> split <;> split <;> omega

namespace Command

theorem ofName?_eq_some_iff {name : String} {cmd : Command} :
    ofName? name = some cmd ↔ name = cmd.name := by
  constructor
  · intro h
    unfold ofName? at h
    split at h <;> cases h <;> rfl
  · rintro rfl
    exact ofName?_name cmd

theorem map_toLower_iff {word name : List Char} (hname : name.map Char.toLower = name) :
    word.map Char.toLower = name ↔
      List.Forall₂ (fun c letter => c = letter ∨ c = letter.toUpper) word name := by
  induction word generalizing name with
  | nil =>
    constructor
    · rintro rfl
      exact .nil
    · intro h
      cases h
      rfl
  | cons c word ih =>
    cases name with
    | nil =>
      constructor
      · intro h
        cases h
      · intro h
        cases h
    | cons letter name =>
      obtain ⟨hletter, hname⟩ := List.cons.inj hname
      rw [List.map_cons, List.cons.injEq, List.forall₂_cons, toLower_eq_iff hletter, ih hname]

/-- A word is read as a command exactly if it is the name of the command in some letter case. -/
theorem read?_eq_some_iff {word : List Char} {cmd : Command} :
    read? (String.ofList word) = some cmd ↔ InAnyCase word cmd.name := by
  have hname : cmd.name.toList.map Char.toLower = cmd.name.toList := by
    cases cmd <;> rfl
  unfold read? lowered InAnyCase
  rw [ofName?_eq_some_iff, String.toList_ofList, ← map_toLower_iff hname, String.ofList_eq]

end Command

namespace Listing

/-! ## 2. Lines -/

/-- Nothing but blanks stands before the comment. -/
def IsBlankLine (line : List Char) : Prop := ∀ c ∈ beforeComment line, Text.isBlank c = true

/-- The words before the comment are those of an instruction: a pop or peek, which gets operand
    zero, or a push with the one word of its operand. -/
inductive Instructs : List Char → Command × UInt32 → Prop
  | answer {line verb : List Char} {cmd : Command} (hcmd : cmd = .pop ∨ cmd = .peek)
      (hwords : Text.WordsOf (beforeComment line) [verb]) (hverb : InAnyCase verb cmd.name) :
      Instructs line (cmd, 0)
  | push {line verb word : List Char} {value : UInt32}
      (hwords : Text.WordsOf (beforeComment line) [verb, word])
      (hverb : InAnyCase verb Command.push.name) (hword : readOperand word = .ok value) :
      Instructs line (.push, value)

/-- The line is of one of the two kinds. -/
def IsFine (line : List Char) : Prop := IsBlankLine line ∨ ∃ cell, Instructs line cell

theorem words_eq_nil_iff {line : List Char} :
    Text.words line = [] ↔ ∀ c ∈ line, Text.isBlank c = true := by
  rw [eq_comm, ← Text.wordsOf_iff]
  constructor
  · intro h
    cases h with
    | none hgap => exact hgap
  · exact .none

/-- The words that are read are none at all or those of an instruction. -/
theorem readWords_eq_ok {words : List (List Char)} {cell? : Option (Command × UInt32)}
    (h : readWords words = .ok cell?) :
    (words = [] ∧ cell? = none) ∨
    (∃ verb cmd, (cmd = .pop ∨ cmd = .peek) ∧ words = [verb] ∧ InAnyCase verb cmd.name ∧
      cell? = some (cmd, 0)) ∨
    (∃ verb word value, words = [verb, word] ∧ InAnyCase verb Command.push.name ∧
      readOperand word = .ok value ∧ cell? = some (.push, value)) := by
  unfold readWords at h
  split at h
  · cases h
    exact .inl ⟨rfl, rfl⟩
  · next verb args =>
    split at h
    · cases h
    · next cmd hread =>
      have hverb := Command.read?_eq_some_iff.mp hread
      split at h
      · next word htakes =>
        obtain rfl : cmd = .push := by cases cmd <;> first | rfl | cases htakes
        split at h
        · next value hword =>
          cases h
          exact .inr (.inr ⟨verb, word, value, rfl, hverb, hword, rfl⟩)
        · cases h
      · next htakes =>
        cases h
        have hcmd : cmd = .pop ∨ cmd = .peek := by cases cmd <;> simp_all [Command.takesOperand]
        exact .inr (.inl ⟨verb, cmd, hcmd, rfl, hverb, rfl⟩)
      · cases h

theorem readLine_eq_none_iff {line : List Char} : readLine line = .ok none ↔ IsBlankLine line := by
  unfold readLine IsBlankLine
  rw [← words_eq_nil_iff]
  constructor
  · intro h
    obtain ⟨hnil, -⟩ | ⟨_, _, _, _, _, hcell⟩ | ⟨_, _, _, _, _, _, hcell⟩ := readWords_eq_ok h
    · exact hnil
    · cases hcell
    · cases hcell
  · intro h
    rw [h]
    rfl

theorem instructs_iff {line : List Char} {cell : Command × UInt32} :
    Instructs line cell ↔ readLine line = .ok (some cell) := by
  constructor
  · intro h
    cases h with
    | @answer verb cmd hcmd hwords hverb =>
      have hread := Command.read?_eq_some_iff.mpr hverb
      rw [readLine, ← Text.wordsOf_iff.mp hwords]
      rcases hcmd with rfl | rfl <;> simp [readWords, hread, Command.takesOperand]
    | @push verb word value hwords hverb hword =>
      have hread := Command.read?_eq_some_iff.mpr hverb
      rw [readLine, ← Text.wordsOf_iff.mp hwords]
      simp [readWords, hread, Command.takesOperand, hword]
  · intro h
    obtain ⟨-, hcell⟩ | ⟨verb, cmd, hcmd, hwords, hverb, hcell⟩ |
      ⟨verb, word, value, hwords, hverb, hword, hcell⟩ := readWords_eq_ok h
    · cases hcell
    · cases hcell
      exact .answer hcmd (Text.wordsOf_iff.mpr hwords.symm) hverb
    · cases hcell
      exact .push (Text.wordsOf_iff.mpr hwords.symm) hverb hword

theorem readLine_of_not_isFine {line : List Char} (h : ¬ IsFine line) :
    ∃ reason, readLine line = .error reason := by
  cases hread : readLine line with
  | error reason => exact ⟨reason, rfl⟩
  | ok cell? =>
    refine absurd ?_ h
    cases cell? with
    | none => exact .inl (readLine_eq_none_iff.mp hread)
    | some cell => exact .inr ⟨cell, instructs_iff.mpr hread⟩

/-! ## 3. Texts -/

/-- The instructions of some fine lines, in order. -/
inductive Lists : List (List Char) → List (Command × UInt32) → Prop
  | nil : Lists [] []
  | blank {line : List Char} {lines : List (List Char)} {cells : List (Command × UInt32)}
      (hline : IsBlankLine line) (hrest : Lists lines cells) : Lists (line :: lines) cells
  | instruction {line : List Char} {cell : Command × UInt32} {lines : List (List Char)}
      {cells : List (Command × UInt32)} (hline : Instructs line cell) (hrest : Lists lines cells) :
      Lists (line :: lines) (cell :: cells)

theorem exists_lists {lines : List (List Char)} (h : ∀ line ∈ lines, IsFine line) :
    ∃ cells, Lists lines cells := by
  induction lines with
  | nil => exact ⟨[], .nil⟩
  | cons line lines ih =>
    obtain ⟨hline, hlines⟩ := List.forall_mem_cons.mp h
    obtain ⟨cells, hcells⟩ := ih hlines
    rcases hline with hblank | ⟨cell, hcell⟩
    · exact ⟨cells, .blank hblank hcells⟩
    · exact ⟨cell :: cells, .instruction hcell hcells⟩

/-- Fine lines are read as their instructions, whatever the number of the first. -/
theorem Lists.readLines {lines : List (List Char)} {cells : List (Command × UInt32)}
    (h : Lists lines cells) (number : Nat) : readLines number lines = .ok cells := by
  induction h generalizing number with
  | nil => rfl
  | blank hline _ ih => rw [Listing.readLines, readLine_eq_none_iff.mpr hline, ih]
  | instruction hline _ ih =>
    rw [Listing.readLines, instructs_iff.mp hline, ih]
    rfl

/-- Of the lines that are not fine, the first is named, by the number of lines up to it. -/
theorem readLines_wrong {before : List (List Char)} (hbefore : ∀ line ∈ before, IsFine line)
    {line : List Char} (hline : ¬ IsFine line) (behind : List (List Char)) (number : Nat) :
    ∃ reason, readLines number (before ++ line :: behind) =
      .error (.line (number + before.length) reason) := by
  induction before generalizing number with
  | nil =>
    obtain ⟨reason, hreason⟩ := readLine_of_not_isFine hline
    refine ⟨reason, ?_⟩
    rw [List.nil_append, readLines, hreason]
    rfl
  | cons first before ih =>
    obtain ⟨hfirst, hbefore⟩ := List.forall_mem_cons.mp hbefore
    obtain ⟨reason, hreason⟩ := ih hbefore (number + 1)
    refine ⟨reason, ?_⟩
    rw [Nat.add_assoc, Nat.add_comm 1, ← List.length_cons] at hreason
    rcases hfirst with hblank | ⟨cell, hcell⟩
    · rw [List.cons_append, readLines, readLine_eq_none_iff.mpr hblank]
      exact hreason
    · rw [List.cons_append, readLines, instructs_iff.mp hcell]
      simp only [hreason]
      rfl

/-- Either all lines are fine, or one is the first that is not. -/
theorem fine_or_wrong (lines : List (List Char)) :
    (∀ line ∈ lines, IsFine line) ∨
      ∃ before line behind, lines = before ++ line :: behind ∧
        (∀ earlier ∈ before, IsFine earlier) ∧ ¬ IsFine line := by
  induction lines with
  | nil => exact .inl (List.forall_mem_nil _)
  | cons first lines ih =>
    by_cases hfirst : IsFine first
    · rcases ih with hall | ⟨before, line, behind, rfl, hbefore, hline⟩
      · exact .inl (List.forall_mem_cons.mpr ⟨hfirst, hall⟩)
      · exact .inr ⟨first :: before, line, behind, rfl,
          List.forall_mem_cons.mpr ⟨hfirst, hbefore⟩, hline⟩
    · exact .inr ⟨[], first, lines, rfl, List.forall_mem_nil _, hfirst⟩

/-- What a text is read as. Its lines are cut in one way only. If all of them are fine, their
    instructions are the program, or too many for one. If not, the first of the others is named
    by its number, however many instructions there are. -/
theorem read_grammar (text : List Char) (ceiling : UInt32) :
    ∃ lines, (∀ cut, Text.LinesOf text cut ↔ cut = lines) ∧
      ((∀ line ∈ lines, IsFine line) →
        ∃ cells, (∀ told, Lists lines told ↔ told = cells) ∧
          (cells.length ≤ ceiling.toNat →
            ∃ program, read text ceiling = .ok program ∧ program.cells = cells) ∧
          (ceiling.toNat < cells.length →
            read text ceiling = .error (.program (.tooManyInstructions cells.length ceiling)))) ∧
      (∀ before line behind, lines = before ++ line :: behind →
        (∀ earlier ∈ before, IsFine earlier) → ¬ IsFine line →
          ∃ reason, read text ceiling = .error (.line (before.length + 1) reason)) ∧
      ((∀ line ∈ lines, IsFine line) ∨
        ∃ before line behind, lines = before ++ line :: behind ∧
          (∀ earlier ∈ before, IsFine earlier) ∧ ¬ IsFine line) := by
  obtain ⟨lines, hlines⟩ : ∃ lines, Text.lines text = lines := ⟨_, rfl⟩
  refine ⟨lines, fun cut => hlines ▸ Text.linesOf_iff, ?fine, ?wrong, fine_or_wrong lines⟩
  case fine =>
    intro hfine
    obtain ⟨cells, hcells⟩ := exists_lists hfine
    have hread : read text ceiling = (Program.ofCells cells ceiling).mapError .program := by
      simp only [read, hlines, hcells.readLines 1]
    have honly : ∀ told, Lists lines told ↔ told = cells := by
      intro told
      constructor
      · intro h
        exact Except.ok.inj ((h.readLines 1).symm.trans (hcells.readLines 1))
      · rintro rfl
        exact hcells
    refine ⟨cells, honly, fun hlen => ?_, fun hlen => ?_⟩
    · rw [hread, Program.ofCells, dif_pos hlen]
      exact ⟨_, rfl, rfl⟩
    · rw [hread, Program.ofCells, dif_neg (Nat.not_le.mpr hlen)]
      rfl
  case wrong =>
    intro before line behind hsplit hbefore hline
    obtain ⟨reason, hreason⟩ := readLines_wrong hbefore hline behind 1
    refine ⟨reason, ?_⟩
    rw [Nat.add_comm] at hreason
    simp only [read, hlines, hsplit, hreason]

example : read "push 1\r\n\n  ; two\nPop 3\n".toList 0 =
    .error (.line 4 (.operandCount .pop 1)) := by rfl

end Listing

end CommandTape
