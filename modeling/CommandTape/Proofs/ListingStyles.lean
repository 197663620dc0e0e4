import CommandTape.Proofs.ListingGrammar
import CommandTape.Proofs.Operands
import CommandTape.Proofs.Text.Numerals

/-!
# Listings in other styles

A listing that is shown has one form: an index, a verb in small letters, an operand in decimal. A
listing that is written by hand may differ in all of this but the index, which it does not have:
letter case, radix, zeros, indentation, comments, line ends, lines that hold nothing. That all these
texts list the same instructions is proved from the grammar of listings, so it holds of what is
accepted and not only of what is printed.

* `lines_listing`: the listing that is shown has one line for each instruction.
* `SpellsOperand.readOperand`: an operand in either radix is read as its number.
* `Restyles.lists`: a text in any style is a list of fine lines with the instructions in order.
* `listing_restyled`: from the listing of a program to the program, through any style.
-/

namespace CommandTape.Listing

/-! ## 1. Styles -/

/-- Spaces and tabs. -/
def IsIndent (gap : List Char) : Prop := ∀ c ∈ gap, c = ' ' ∨ c = '\t'

/-- Nothing, or a comment that goes on to the end of the line. -/
def IsComment (comment : List Char) : Prop :=
  comment = [] ∨ ∃ mark rest, (mark = ';' ∨ mark = '#') ∧ '\n' ∉ rest ∧ comment = mark :: rest

def IsLineEnd (ending : List Char) : Prop := ending = ['\n'] ∨ ending = ['\r', '\n']

instance (word : List Char) (name : String) : Decidable (InAnyCase word name) :=
  inferInstanceAs (Decidable (List.Forall₂ Numeral.IsCaseOf word name.toList))

/-- The word is the operand in decimal, or in hexadecimal with letters in either case, with any
    number of zeros before its digits. -/
inductive SpellsOperand (value : UInt32) : List Char → Prop
  | decimal (zeros : Nat) :
      SpellsOperand value (List.replicate zeros '0' ++ Numeral.decimal value.toNat)
  | hexadecimal (zeros : Nat) {digits : List Char}
      (hdigits : List.Forall₂ Numeral.IsCaseOf digits (Nat.toDigits 16 value.toNat)) :
      SpellsOperand value ('0' :: 'x' :: (List.replicate zeros '0' ++ digits))

/-- The phrase is the instruction, with spaces and tabs around its words. A pop or peek is written
    without its operand. -/
inductive Phrases : Command × UInt32 → List Char → Prop
  | answer {cmd : Command} {operand : UInt32} {gap verb gap' : List Char}
      (hcmd : cmd = .pop ∨ cmd = .peek) (hgap : IsIndent gap) (hverb : InAnyCase verb cmd.name)
      (hgap' : IsIndent gap') : Phrases (cmd, operand) (gap ++ (verb ++ gap'))
  | push {value : UInt32} {gap verb gap' word gap'' : List Char} (hgap : IsIndent gap)
      (hverb : InAnyCase verb Command.push.name) (hgap' : IsIndent gap') (hapart : gap' ≠ [])
      (hword : SpellsOperand value word) (hgap'' : IsIndent gap'') :
      Phrases (.push, value) (gap ++ (verb ++ (gap' ++ (word ++ gap''))))

/-- The text lists the instructions, one a line, with comments behind them and with lines between
    that hold no instruction. The last line may go without an end. -/
inductive Restyles : Tape (Command × UInt32) → List Char → Prop
  | rest {gap comment : List Char} (hgap : IsIndent gap) (hcomment : IsComment comment) :
      Restyles [] (gap ++ comment)
  | idle {cells : Tape (Command × UInt32)} {gap comment ending text : List Char}
      (hgap : IsIndent gap) (hcomment : IsComment comment) (hending : IsLineEnd ending)
      (hrest : Restyles cells text) : Restyles cells (gap ++ (comment ++ (ending ++ text)))
  | instruction {cell : Command × UInt32} {cells : Tape (Command × UInt32)}
      {phrase comment ending text : List Char} (hphrase : Phrases cell phrase)
      (hcomment : IsComment comment) (hending : IsLineEnd ending) (hrest : Restyles cells text) :
      Restyles (cell :: cells) (phrase ++ (comment ++ (ending ++ text)))
  | last {cell : Command × UInt32} {phrase comment : List Char} (hphrase : Phrases cell phrase)
      (hcomment : IsComment comment) : Restyles [cell] (phrase ++ comment)

/-- An instruction as a line of a listing shows it, behind the index. -/
def plain : Command × UInt32 → List Char
  | (.push, value) => Command.push.name.toList ++ ' ' :: Numeral.decimal value.toNat
  | (cmd, _) => cmd.name.toList

/-! ## 2. Characters of a line -/

/-- None of the characters starts a comment or belongs to a line end. -/
def IsCode (code : List Char) : Prop := ∀ c ∈ code, c ∉ [';', '#', '\n', '\r']

theorem IsCode.append {xs ys : List Char} (hxs : IsCode xs) (hys : IsCode ys) :
    IsCode (xs ++ ys) := fun c hc =>
  (List.mem_append.mp hc).elim (hxs c) (hys c)

theorem IsCode.of_isAlphanum {word : List Char} (h : ∀ c ∈ word, c.isAlphanum = true) :
    IsCode word := by
  intro c hc hmem
  have hall : ∀ c ∈ [';', '#', '\n', '\r'], c.isAlphanum = false := by simp
  exact Bool.false_ne_true ((hall c hmem).symm.trans (h c hc))

theorem IsIndent.isCode {gap : List Char} (h : IsIndent gap) : IsCode gap := by
  intro c hc
  rcases h c hc with rfl | rfl <;> decide

theorem IsIndent.isBlank {gap : List Char} (h : IsIndent gap) :
    ∀ c ∈ gap, Text.isBlank c = true := by
  intro c hc
  rcases h c hc with rfl | rfl <;> rfl

theorem isWord_of_isAlphanum {word : List Char} (hne : word ≠ [])
    (h : ∀ c ∈ word, c.isAlphanum = true) : Text.IsWord word := by
  refine ⟨hne, fun c hc => ?_⟩
  have hc := h c hc
  cases hblank : Text.isBlank c with
  | false => rfl
  | true =>
    simp only [Text.isBlank, Bool.or_eq_true, decide_eq_true_eq] at hblank
    rcases hblank with (((rfl | rfl) | rfl) | rfl) | rfl <;> cases hc

/-- A name in any letter case has letters only, as the name has. -/
theorem isAlphanum_of_inAnyCase {word : List Char} {cmd : Command} (h : InAnyCase word cmd.name) :
    word ≠ [] ∧ ∀ c ∈ word, c.isAlphanum = true := by
  have hname : cmd.name.toList ≠ [] ∧ ∀ letter ∈ cmd.name.toList,
      letter.isAlphanum = true ∧ letter.toUpper.isAlphanum = true := by
    cases cmd <;> simp [Command.name]
  unfold InAnyCase at h
  generalize cmd.name.toList = letters at h hname
  refine ⟨fun hnil => ?_, fun c hc => ?_⟩
  · subst hnil
    cases h
    exact hname.1 rfl
  · obtain ⟨letter, hletter, hcase⟩ := Numeral.exists_isCaseOf h hc
    rcases hcase with rfl | rfl
    · exact (hname.2 _ hletter).1
    · exact (hname.2 _ hletter).2

/-! ## 3. Words -/

/-- The digits of a number are digits in any letter case of themselves. -/
theorem forall₂_isCaseOf_self (letters : List Char) :
    List.Forall₂ Numeral.IsCaseOf letters letters :=
  List.forall₂_same.mpr fun _ _ => .inl rfl

theorem isAlphanum_of_digits {radix n : Nat} (hradix : 1 < radix) (hradix' : radix ≤ 16)
    {digits : List Char} (hdigits : List.Forall₂ Numeral.IsCaseOf digits (Nat.toDigits radix n)) :
    ∀ c ∈ digits, c.isAlphanum = true := by
  intro c hc
  have hall : ∀ d < 16, (Nat.digitChar d).isAlphanum = true ∧
      (Nat.digitChar d).toUpper.isAlphanum = true := by decide
  obtain ⟨letter, hletter, hcase⟩ := Numeral.exists_isCaseOf hdigits hc
  obtain ⟨d, hd, rfl⟩ := Numeral.exists_of_mem_toDigits hradix hletter
  obtain ⟨hsmall, hcapital⟩ := hall d (Nat.lt_of_lt_of_le hd hradix')
  rcases hcase with rfl | rfl
  · exact hsmall
  · exact hcapital

theorem isAlphanum_decimal (n : Nat) : ∀ c ∈ Numeral.decimal n, c.isAlphanum = true :=
  isAlphanum_of_digits (by decide) (by decide) (forall₂_isCaseOf_self _)

theorem isAlphanum_zeros_append (zeros : Nat) {digits : List Char}
    (h : ∀ c ∈ digits, c.isAlphanum = true) :
    ∀ c ∈ List.replicate zeros '0' ++ digits, c.isAlphanum = true := by
  refine List.forall_mem_append.mpr ⟨fun c hc => ?_, h⟩
  rw [List.eq_of_mem_replicate hc]
  rfl

namespace SpellsOperand

variable {value : UInt32} {word : List Char}

theorem isAlphanum (h : SpellsOperand value word) : ∀ c ∈ word, c.isAlphanum = true := by
  cases h with
  | decimal zeros => exact isAlphanum_zeros_append zeros (isAlphanum_decimal _)
  | hexadecimal zeros hdigits =>
    have hdigits := isAlphanum_of_digits (by decide) (by decide) hdigits
    exact List.forall_mem_cons.mpr ⟨rfl, List.forall_mem_cons.mpr
      ⟨rfl, isAlphanum_zeros_append zeros hdigits⟩⟩

theorem ne_nil (h : SpellsOperand value word) : word ≠ [] := by
  cases h with
  | decimal zeros => exact List.append_ne_nil_of_right_ne_nil _ Nat.toDigits_ne_nil
  | hexadecimal zeros _ => exact List.cons_ne_nil _ _

/-- An operand in either radix is read as its number. -/
theorem readOperand (h : SpellsOperand value word) : readOperand word = .ok value := by
  have hvalue : value.toNat < UInt32.size := value.toNat_lt
  cases h with
  | decimal zeros =>
    have hdigits := forall₂_isCaseOf_self (Nat.toDigits 10 value.toNat)
    have hread := Numeral.read_digits (by decide) (by decide) zeros hdigits hvalue
    -- No decimal digit is an `x`, so the word is not taken for a hexadecimal one.
    have hx : 'x' ∉ List.replicate zeros '0' ++ Nat.toDigits 10 value.toNat := by
      intro hx
      rcases List.mem_append.mp hx with hx | hx
      · cases List.eq_of_mem_replicate hx
      · obtain ⟨d, hd, hchar⟩ := Numeral.exists_of_mem_toDigits (by decide) hx
        have hall : ∀ d < 10, 'x' ≠ Nat.digitChar d := by decide
        exact hall d hd hchar
    unfold Listing.readOperand
    split
    · next heq =>
      rw [Numeral.decimal] at heq
      rw [heq] at hx
      exact absurd (List.mem_cons_of_mem _ List.mem_cons_self) hx
    · rw [Numeral.decimal, hread, Except.map, UInt32.ofNat_toNat]
  | hexadecimal zeros hdigits =>
    have hread := Numeral.read_digits (by decide) (by decide) zeros hdigits hvalue
    rw [Listing.readOperand, hread, Except.map, UInt32.ofNat_toNat]

end SpellsOperand

/-! ## 4. Phrases -/

namespace Phrases

variable {cell : Command × UInt32} {phrase : List Char}

theorem isCode (h : Phrases cell phrase) : IsCode phrase := by
  cases h with
  | answer hcmd hgap hverb hgap' =>
    have hverb := IsCode.of_isAlphanum (isAlphanum_of_inAnyCase hverb).2
    exact hgap.isCode.append (hverb.append hgap'.isCode)
  | push hgap hverb hgap' hapart hword hgap'' =>
    have hverb := IsCode.of_isAlphanum (isAlphanum_of_inAnyCase hverb).2
    have hword := IsCode.of_isAlphanum hword.isAlphanum
    exact hgap.isCode.append
      (hverb.append (hgap'.isCode.append (hword.append hgap''.isCode)))

theorem ne_nil (h : Phrases cell phrase) : phrase ≠ [] := by
  cases h with
  | answer hcmd hgap hverb hgap' =>
    exact List.append_ne_nil_of_right_ne_nil _
      (List.append_ne_nil_of_left_ne_nil (isAlphanum_of_inAnyCase hverb).1 _)
  | push hgap hverb hgap' hapart hword hgap'' =>
    exact List.append_ne_nil_of_right_ne_nil _
      (List.append_ne_nil_of_left_ne_nil (isAlphanum_of_inAnyCase hverb).1 _)

/-- The words of a phrase, in front of a comment, are those of the instruction. -/
theorem instructs (h : Phrases cell phrase) {line : List Char}
    (hline : beforeComment line = phrase) : Instructs line (cell.1, cell.1.operand cell.2) := by
  cases h with
  | @answer cmd operand gap verb gap' hcmd hgap hverb hgap' =>
    obtain ⟨hne, hletters⟩ := isAlphanum_of_inAnyCase hverb
    have hoperand : cmd.operand operand = 0 := by
      rcases hcmd with rfl | rfl <;> rfl
    have hwords : Text.WordsOf (gap ++ (verb ++ gap')) [verb] :=
      .word hgap.isBlank (isWord_of_isAlphanum hne hletters)
        (fun c hc => hgap'.isBlank c (List.mem_of_mem_head? hc)) (.none hgap'.isBlank)
    rw [hoperand]
    exact .answer hcmd (hline ▸ hwords) hverb
  | @push value gap verb gap' word gap'' hgap hverb hgap' hapart hword hgap'' =>
    obtain ⟨hne, hletters⟩ := isAlphanum_of_inAnyCase hverb
    have hwords : Text.WordsOf (gap ++ (verb ++ (gap' ++ (word ++ gap'')))) [verb, word] := by
      refine .word hgap.isBlank (isWord_of_isAlphanum hne hletters) (fun c hc => ?_) ?_
      · rw [List.head?_append_of_ne_nil _ hapart] at hc
        exact hgap'.isBlank c (List.mem_of_mem_head? hc)
      · exact .word hgap'.isBlank (isWord_of_isAlphanum hword.ne_nil hword.isAlphanum)
          (fun c hc => hgap''.isBlank c (List.mem_of_mem_head? hc)) (.none hgap''.isBlank)
    exact .push (hline ▸ hwords) hverb hword.readOperand

end Phrases

/-! ## 5. Lines -/

theorem beforeComment_append {code comment : List Char} (hcode : IsCode code)
    (hcomment : IsComment comment) : beforeComment (code ++ comment) = code := by
  have hall : ∀ c ∈ code, (c ≠ ';' && c ≠ '#') = true := by
    intro c hc
    have hc := hcode c hc
    simp_all
  rw [beforeComment, List.takeWhile_append_of_pos hall]
  rcases hcomment with rfl | ⟨mark, rest, rfl | rfl, -, rfl⟩ <;> simp

theorem lineFeed_not_mem {code comment : List Char} (hcode : IsCode code)
    (hcomment : IsComment comment) : '\n' ∉ code ++ comment := by
  intro hmem
  rcases List.mem_append.mp hmem with hmem | hmem
  · exact hcode _ hmem (by decide)
  · rcases hcomment with rfl | ⟨mark, rest, hmark, hrest, rfl⟩
    · cases hmem
    · rcases List.mem_cons.mp hmem with rfl | hmem
      · exact absurd hmark (by decide)
      · exact hrest hmem

/-- A comment without the carriage return at its end is a comment. -/
theorem IsComment.dropReturn {comment : List Char} (h : IsComment (comment ++ ['\r'])) :
    IsComment comment := by
  rcases h with h | ⟨mark, rest, hmark, hrest, h⟩
  · simp at h
  · cases comment with
    | nil =>
      obtain ⟨rfl, -⟩ := List.cons.inj h
      exact absurd hmark (by decide)
    | cons c comment =>
      obtain ⟨rfl, rfl⟩ := List.cons.inj h
      exact .inr ⟨c, comment, hmark, fun hmem => hrest (List.mem_append_left _ hmem), rfl⟩

/-- The first line of a text. Its comment loses a carriage return that it ends with, since that
    belongs to the line end. -/
theorem lines_ended {code comment ending : List Char} (hcode : IsCode code)
    (hcomment : IsComment comment) (hending : IsLineEnd ending) (text : List Char) :
    ∃ comment', IsComment comment' ∧
      Text.lines (code ++ (comment ++ (ending ++ text))) =
        (code ++ comment') :: Text.lines text := by
  have hmem := lineFeed_not_mem hcode hcomment
  rw [← List.append_assoc]
  rcases hending with rfl | rfl
  · -- Behind a line feed alone, a carriage return that ends the comment is part of the line end.
    by_cases hreturn : (code ++ comment).getLast? = some '\r'
    · rcases List.eq_nil_or_concat' comment with rfl | ⟨short, last, rfl⟩
      · rw [List.append_nil] at hreturn
        exact absurd (by decide) (hcode _ (List.mem_of_getLast? hreturn))
      · rw [← List.append_assoc, List.getLast?_concat] at hreturn
        obtain rfl : last = '\r' := Option.some.inj hreturn
        have hshort := hcomment.dropReturn
        refine ⟨short, hshort, ?_⟩
        simpa using Text.lines_carriageReturn (lineFeed_not_mem hcode hshort) text
    · exact ⟨comment, hcomment, Text.lines_lineFeed hmem hreturn text⟩
  · exact ⟨comment, hcomment, Text.lines_carriageReturn hmem text⟩

theorem lines_last {code comment : List Char} (hcode : IsCode code) (hcomment : IsComment comment)
    (hne : code ++ comment ≠ []) : Text.lines (code ++ comment) = [code ++ comment] :=
  Text.lines_unended hne (lineFeed_not_mem hcode hcomment)

theorem isBlankLine_append {gap comment : List Char} (hgap : IsIndent gap)
    (hcomment : IsComment comment) : IsBlankLine (gap ++ comment) := by
  rw [IsBlankLine, beforeComment_append hgap.isCode hcomment]
  exact hgap.isBlank

/-- In any style a text is a list of fine lines that have the instructions in order, with zero for
    the operands that are not read. -/
theorem Restyles.lists {cells : Tape (Command × UInt32)} {text : List Char}
    (h : Restyles cells text) :
    Lists (Text.lines text) (cells.map fun cell => (cell.1, cell.1.operand cell.2)) := by
  induction h with
  | @rest gap comment hgap hcomment =>
    by_cases hne : gap ++ comment = []
    · rw [hne]
      exact .nil
    · rw [lines_last hgap.isCode hcomment hne]
      exact .blank (isBlankLine_append hgap hcomment) .nil
  | idle hgap hcomment hending _ ih =>
    obtain ⟨comment', hcomment', hlines⟩ := lines_ended hgap.isCode hcomment hending _
    rw [hlines]
    exact .blank (isBlankLine_append hgap hcomment') ih
  | instruction hphrase hcomment hending _ ih =>
    obtain ⟨comment', hcomment', hlines⟩ := lines_ended hphrase.isCode hcomment hending _
    rw [hlines]
    exact .instruction (hphrase.instructs (beforeComment_append hphrase.isCode hcomment')) ih
  | @last cell phrase comment hphrase hcomment =>
    have hbefore := beforeComment_append hphrase.isCode hcomment
    have hne : phrase ++ comment ≠ [] := List.append_ne_nil_of_left_ne_nil hphrase.ne_nil _
    rw [lines_last hphrase.isCode hcomment hne]
    exact .instruction (hphrase.instructs hbefore) .nil

/-! ## 6. The listing that is shown -/

theorem phrases_plain (cell : Command × UInt32) : Phrases cell (plain cell) := by
  have hnil : IsIndent [] := List.forall_mem_nil _
  have hspace : IsIndent [' '] := by simp [IsIndent]
  have hverb (cmd : Command) : InAnyCase cmd.name.toList cmd.name := forall₂_isCaseOf_self _
  obtain ⟨cmd, value⟩ := cell
  cases cmd with
  | push =>
    simpa [plain] using
      Phrases.push hnil (hverb .push) hspace (List.cons_ne_nil _ _) (.decimal 0) hnil
  | pop => simpa [plain] using Phrases.answer (.inl rfl) hnil (hverb .pop) hnil
  | peek => simpa [plain] using Phrases.answer (.inr rfl) hnil (hverb .peek) hnil

/-- Instructions on plain lines, each with a line feed, are in one of the styles. -/
theorem restyles_plain (cells : Tape (Command × UInt32)) :
    Restyles cells (cells.flatMap fun cell => plain cell ++ ['\n']) := by
  induction cells with
  | nil => exact .rest (List.forall_mem_nil _) (.inl rfl)
  | cons cell cells ih =>
    rw [List.flatMap_cons, List.append_assoc]
    exact .instruction (phrases_plain cell) (.inl rfl) (.inl rfl) ih

/-- A line of the listing has the index before the instruction. -/
def numbered (k : Nat) (cell : Command × UInt32) : List Char :=
  Numeral.padded 4 k ++ ": ".toList ++ plain cell

theorem toList_line (inst : Inst) :
    inst.line.toList = numbered inst.index.toNat (inst.cmd, inst.value) := by
  obtain ⟨index, cmd, value⟩ := inst
  have hvalue : (toString value).toList = Numeral.decimal value.toNat := Nat.toList_repr
  unfold numbered Inst.line
  rw [String.toList_append, String.toList_append, String.toList_ofList]
  refine congrArg _ ?_
  cases cmd with
  | push =>
    have hbody : Inst.body ⟨index, .push, value⟩ = "push" ++ " " ++ toString value := rfl
    simp [hbody, plain, Command.name, ← hvalue]
  | pop => rfl
  | peek => rfl

theorem isCode_numbered (k : Nat) (cell : Command × UInt32) : IsCode (numbered k cell) := by
  have hindex : IsCode (Numeral.padded 4 k) :=
    .of_isAlphanum (isAlphanum_zeros_append _ (isAlphanum_decimal k))
  have hcolon : IsCode ": ".toList := by
    intro c hc
    have hcases : c = ':' ∨ c = ' ' := by simpa using hc
    rcases hcases with rfl | rfl <;> decide
  exact (hindex.append hcolon).append (phrases_plain cell).isCode

/-- What is written with a line feed behind each line has these lines. -/
theorem lines_flatMap {shown : List (List Char)} (h : ∀ line ∈ shown, IsCode line) :
    Text.lines (shown.flatMap fun line => line ++ ['\n']) = shown := by
  induction shown with
  | nil => rfl
  | cons line shown ih =>
    obtain ⟨hline, hshown⟩ := List.forall_mem_cons.mp h
    have hreturn : line.getLast? ≠ some '\r' := fun hlast =>
      hline _ (List.mem_of_getLast? hlast) (by decide)
    have hlines := Text.lines_lineFeed (fun hmem => hline _ hmem (by decide)) hreturn
      (shown.flatMap fun line => line ++ ['\n'])
    rw [List.flatMap_cons, List.append_assoc, List.singleton_append, hlines, ih hshown]

theorem toList_listing (p : Program) :
    p.listing.toList = (p.cells.mapIdx numbered).flatMap fun line => line ++ ['\n'] := by
  have hcells : p.insts.map (fun inst => inst.line.toList) = p.cells.mapIdx numbered := by
    refine List.ext_getElem? fun k => ?_
    rw [Program.insts, List.map_map, List.getElem?_map, List.getElem?_zipIdx, List.getElem?_mapIdx,
      Option.map_map]
    cases hcell : p.cells[k]? with
    | none => rfl
    | some cell =>
      obtain ⟨hk, -⟩ := List.getElem?_eq_some_iff.mp hcell
      have hindex : (UInt32.ofNat k).toNat = k :=
        UInt32.toNat_ofNat_of_lt' (Nat.lt_trans hk p.length_lt)
      simp only [Option.map_some, Function.comp_apply, toList_line, Nat.zero_add, hindex]
  rw [← hcells, Program.listing, String.toList_join, List.flatMap_map, List.flatMap_map]
  refine List.flatMap_congr fun inst _ => ?_
  rw [String.toList_append]
  rfl

/-- The listing that is shown has one line for each instruction. -/
theorem lines_listing (p : Program) :
    Text.lines p.listing.toList = p.cells.mapIdx numbered := by
  rw [toList_listing]
  refine lines_flatMap fun line hline => ?_
  obtain ⟨k, _, rfl⟩ := List.mem_mapIdx.mp hline
  exact isCode_numbered _ _

/-! ## 7. From the listing to the program -/

/-- Showing and reading are inverse in every style. The listing of a program has one line for each
    instruction, with its index in at least four digits. Without the indices the lines are a text
    in one of the styles, and a text in any of them is read, under any ceiling that the program
    keeps, as the program with zero for the operands that are not read. -/
theorem listing_restyled (p : Program) (ceiling : UInt32) (h : p.length ≤ ceiling.toNat) :
    Text.lines p.listing.toList =
        p.cells.mapIdx (fun k cell => Numeral.padded 4 k ++ ": ".toList ++ plain cell) ∧
      Restyles p.cells (p.cells.flatMap fun cell => plain cell ++ ['\n']) ∧
      ∀ text, Restyles p.cells text → read text ceiling = .ok p.erased := by
  refine ⟨lines_listing p, restyles_plain p.cells, fun text htext => ?_⟩
  have hlength : (p.cells.map fun cell => (cell.1, cell.1.operand cell.2)).length ≤
      ceiling.toNat := by
    rw [List.length_map]
    exact h
  simp only [read, htext.lists.readLines 1, Program.ofCells, dif_pos hlength]
  rfl

/-- A listing with capitals, a hexadecimal operand, tabs, comments, both line ends, lines that hold
    nothing and a last line without an end. -/
theorem listing_restyled_pushPeekPop :
    let p : Program := ⟨[(.push, 10), (.peek, 0), (.pop, 7)], by decide⟩
    let text := "# tape\r\nPush\t0x00A ; ten\r\n \n\tpEEK;\npop"
    p.length ≤ (3 : UInt32).toNat ∧ Restyles p.cells text.toList ∧
      read text.toList 3 = .ok ⟨[(.push, 10), (.peek, 0), (.pop, 0)], by decide⟩ := by
  intro p text
  have hlength : p.length ≤ (3 : UInt32).toNat := by decide
  have hnil : IsIndent [] := List.forall_mem_nil _
  have hspace : IsIndent [' '] := by simp [IsIndent]
  have htab : IsIndent ['\t'] := by simp [IsIndent]
  have hword : SpellsOperand 10 "0x00A".toList := .hexadecimal 2 (by decide)
  have htape : IsComment "# tape".toList :=
    .inr ⟨'#', " tape".toList, .inr rfl, by decide, rfl⟩
  have hten : IsComment "; ten".toList := .inr ⟨';', " ten".toList, .inl rfl, by decide, rfl⟩
  have hmark : IsComment ";".toList := .inr ⟨';', [], .inl rfl, by decide, rfl⟩
  have hpush : Phrases (.push, 10) "Push\t0x00A ".toList :=
    .push hnil (show InAnyCase "Push".toList _ by decide) htab (by decide) hword hspace
  have hpeek : Phrases (.peek, 0) "\tpEEK".toList :=
    .answer (.inr rfl) htab (show InAnyCase "pEEK".toList _ by decide) hnil
  have hpop : Phrases (.pop, 7) "pop".toList := phrases_plain (.pop, 7)
  have htext : Restyles p.cells text.toList := by
    simpa [p, text] using
      Restyles.idle hnil htape (.inr rfl) <| .instruction hpush hten (.inr rfl) <|
        .idle hspace (.inl rfl) (.inl rfl) <| .instruction hpeek hmark (.inl rfl) <|
          .last hpop (.inl rfl)
  exact ⟨hlength, htext, (listing_restyled p 3 hlength).2.2 _ htext⟩

end CommandTape.Listing
