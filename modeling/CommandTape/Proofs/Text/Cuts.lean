import CommandTape.Text.Line

/-!
# Lines and words as cuts

What it is for a list to be the lines of a text, or the words of a line, is said by how the text
is put together from them. Each text has one such list, and it is the one that is computed.

* `LinesOf`, `linesOf_iff`: lines with their ends are the text.
* `WordsOf`, `wordsOf_iff`: words with the blanks around them are the text.
-/

namespace CommandTape.Text

/-! ## 1. Lines -/

/-- The text is these lines with their ends. A line end is a line feed, with the carriage return
    before it if there is one; only the last line may go without, if it is not empty. -/
inductive LinesOf : List Char → List (List Char) → Prop
  | none : LinesOf [] []
  | unended {line : List Char} (hne : line ≠ []) (hline : '\n' ∉ line) : LinesOf line [line]
  | lineFeed {line text : List Char} {lines : List (List Char)} (hline : '\n' ∉ line)
      (hreturn : line.getLast? ≠ some '\r') (hrest : LinesOf text lines) :
      LinesOf (line ++ '\n' :: text) (line :: lines)
  | carriageReturn {line text : List Char} {lines : List (List Char)} (hline : '\n' ∉ line)
      (hrest : LinesOf text lines) : LinesOf (line ++ '\r' :: '\n' :: text) (line :: lines)

/-- A character that ends no line stands at the beginning of the first one. -/
theorem lines_cons {c : Char} {cs line : List Char} {rest : List (List Char)} (hc : c ≠ '\n')
    (hcs : ∀ text, c = '\r' → cs ≠ '\n' :: text) (h : lines cs = line :: rest) :
    lines (c :: cs) = (c :: line) :: rest := by
  unfold lines
  split
  · next heq => cases heq
  · next heq => exact absurd (List.cons.inj heq).1 hc
  · next heq =>
    obtain ⟨rfl, rfl⟩ := List.cons.inj heq
    exact absurd rfl (hcs _ rfl)
  · next heq =>
    obtain ⟨rfl, rfl⟩ := List.cons.inj heq
    rw [h]

theorem lines_singleton {c : Char} (hc : c ≠ '\n') : lines [c] = [[c]] := by
  unfold lines
  split
  · next heq => cases heq
  · next heq => exact absurd (List.cons.inj heq).1 hc
  · next heq => cases heq
  · next heq =>
    obtain ⟨rfl, rfl⟩ := List.cons.inj heq
    rfl

theorem lines_unended {line : List Char} (hne : line ≠ []) (hline : '\n' ∉ line) :
    lines line = [line] := by
  induction line with
  | nil => exact absurd rfl hne
  | cons c line ih =>
    have hc : '\n' ≠ c := List.ne_of_not_mem_cons hline
    have hline : '\n' ∉ line := List.not_mem_of_not_mem_cons hline
    cases line with
    | nil => exact lines_singleton (Ne.symm hc)
    | cons d line =>
      have hd : '\n' ≠ d := List.ne_of_not_mem_cons hline
      exact lines_cons (Ne.symm hc) (fun _ _ h => hd (List.cons.inj h).1.symm)
        (ih (List.cons_ne_nil _ _) hline)

theorem lines_lineFeed {line : List Char} (hline : '\n' ∉ line)
    (hreturn : line.getLast? ≠ some '\r') (text : List Char) :
    lines (line ++ '\n' :: text) = line :: lines text := by
  induction line with
  | nil => rfl
  | cons c line ih =>
    have hc : '\n' ≠ c := List.ne_of_not_mem_cons hline
    have hline : '\n' ∉ line := List.not_mem_of_not_mem_cons hline
    cases line with
    | nil =>
      -- The carriage return that may not stand here is one right before the line feed.
      have hreturn : c ≠ '\r' := fun h => hreturn (congrArg some h)
      exact lines_cons (Ne.symm hc) (fun _ h => absurd h hreturn) rfl
    | cons d line =>
      have hd : '\n' ≠ d := List.ne_of_not_mem_cons hline
      rw [List.getLast?_cons_cons] at hreturn
      exact lines_cons (Ne.symm hc) (fun _ _ h => hd (List.cons.inj h).1.symm) (ih hline hreturn)

theorem lines_carriageReturn {line : List Char} (hline : '\n' ∉ line) (text : List Char) :
    lines (line ++ '\r' :: '\n' :: text) = line :: lines text := by
  induction line with
  | nil => rfl
  | cons c line ih =>
    have hc : '\n' ≠ c := List.ne_of_not_mem_cons hline
    have hline : '\n' ∉ line := List.not_mem_of_not_mem_cons hline
    refine lines_cons (Ne.symm hc) (fun _ _ h => ?_) (ih hline)
    cases line with
    | nil => cases h
    | cons d line =>
      have hd : '\n' ≠ d := List.ne_of_not_mem_cons hline
      exact hd (List.cons.inj h).1.symm

/-- A character before a text whose first line has an end or is not empty. -/
theorem LinesOf.cons {c : Char} {cs line : List Char} {rest : List (List Char)}
    (h : LinesOf cs (line :: rest)) (hc : c ≠ '\n')
    (hcs : ∀ text, c = '\r' → cs ≠ '\n' :: text) : LinesOf (c :: cs) ((c :: line) :: rest) := by
  have hmem : ∀ {line : List Char}, '\n' ∉ line → '\n' ∉ c :: line :=
    List.not_mem_cons_of_ne_of_not_mem (Ne.symm hc)
  cases h with
  | unended hne hline => exact .unended (List.cons_ne_nil _ _) (hmem hline)
  | @lineFeed _ text _ hline hreturn hrest =>
    refine .lineFeed (hmem hline) ?_ hrest
    cases line with
    | nil =>
      intro h
      exact hcs _ (Option.some.inj h) rfl
    | cons d line => rwa [List.getLast?_cons_cons]
  | carriageReturn hline hrest => exact .carriageReturn (hmem hline) hrest

theorem linesOf_lines (text : List Char) : LinesOf text (lines text) := by
  induction text using lines.induct with
  | case1 => exact .none
  | case2 cs ih => exact .lineFeed List.not_mem_nil (by decide) ih
  | case3 cs ih => exact .carriageReturn List.not_mem_nil ih
  | case4 c cs hc _ hnil ih =>
    rw [hnil] at ih
    cases ih
    rw [lines_singleton hc]
    exact .unended (List.cons_ne_nil _ _) (by simpa using Ne.symm hc)
  | case5 c cs hc hcs line rest hlines ih =>
    rw [lines_cons hc hcs hlines]
    exact (hlines ▸ ih).cons hc hcs

/-- A text has one list of lines. -/
theorem linesOf_iff {text : List Char} {ls : List (List Char)} :
    LinesOf text ls ↔ ls = lines text := by
  constructor
  · intro h
    induction h with
    | none => rfl
    | unended hne hline => exact (lines_unended hne hline).symm
    | lineFeed hline hreturn _ ih => rw [lines_lineFeed hline hreturn, ih]
    | carriageReturn hline _ ih => rw [lines_carriageReturn hline, ih]
  · rintro rfl
    exact linesOf_lines text

example : lines "a\r\n\nb\r".toList = ["a".toList, [], "b\r".toList] := by rfl

/-! ## 2. Words -/

/-- A word has characters, and none of them is blank. -/
def IsWord (word : List Char) : Prop := word ≠ [] ∧ ∀ c ∈ word, isBlank c = false

/-- The line is these words with blanks around them. -/
inductive WordsOf : List Char → List (List Char) → Prop
  | none {gap : List Char} (hgap : ∀ c ∈ gap, isBlank c = true) : WordsOf gap []
  | word {gap word line : List Char} {words : List (List Char)}
      (hgap : ∀ c ∈ gap, isBlank c = true) (hword : IsWord word)
      (hapart : ∀ c ∈ line.head?, isBlank c = true) (hrest : WordsOf line words) :
      WordsOf (gap ++ (word ++ line)) (word :: words)

theorem words_blank {c : Char} (hc : isBlank c = true) (cs : List Char) :
    words (c :: cs) = words cs := by
  unfold words
  rw [wordsAfter, if_pos hc]
  rfl

theorem words_gap {gap : List Char} (hgap : ∀ c ∈ gap, isBlank c = true) (line : List Char) :
    words (gap ++ line) = words line := by
  induction gap with
  | nil => rfl
  | cons c gap ih =>
    rw [List.cons_append, words_blank (hgap c List.mem_cons_self)]
    exact ih fun c hc => hgap c (List.mem_cons_of_mem _ hc)

theorem wordsAfter_append {word : List Char} (hword : ∀ c ∈ word, isBlank c = false)
    (taken line : List Char) :
    wordsAfter taken (word ++ line) = wordsAfter (word.reverse ++ taken) line := by
  induction word generalizing taken with
  | nil => rfl
  | cons c word ih =>
    have hc : ¬ isBlank c = true := by simp [hword c List.mem_cons_self]
    have hword : ∀ c ∈ word, isBlank c = false := fun c hc => hword c (List.mem_cons_of_mem _ hc)
    rw [List.cons_append, wordsAfter, if_neg hc, ih hword, List.reverse_cons, List.append_assoc]
    rfl

/-- What has been taken off is a word as soon as the line is at its end or goes on with a blank. -/
theorem wordsAfter_apart {taken : List Char} (htaken : taken ≠ []) {line : List Char}
    (hapart : ∀ c ∈ line.head?, isBlank c = true) :
    wordsAfter taken line = taken.reverse :: words line := by
  have hempty : ¬ taken.isEmpty = true := by simpa using htaken
  cases line with
  | nil =>
    rw [wordsAfter, if_neg hempty]
    rfl
  | cons c line =>
    have hc : isBlank c = true := hapart c rfl
    rw [words_blank hc, wordsAfter, if_pos hc, if_neg hempty]
    rfl

theorem words_word {word : List Char} (hword : IsWord word) {line : List Char}
    (hapart : ∀ c ∈ line.head?, isBlank c = true) : words (word ++ line) = word :: words line := by
  have htaken : word.reverse ++ [] ≠ [] := by simpa using hword.1
  unfold words
  rw [wordsAfter_append hword.2, wordsAfter_apart htaken hapart]
  simp [words]

theorem WordsOf.blank {c : Char} (hc : isBlank c = true) {line : List Char}
    {ws : List (List Char)} (h : WordsOf line ws) : WordsOf (c :: line) ws := by
  cases h with
  | none hgap => exact .none (List.forall_mem_cons.mpr ⟨hc, hgap⟩)
  | word hgap hword hapart hrest =>
    exact .word (List.forall_mem_cons.mpr ⟨hc, hgap⟩) hword hapart hrest

theorem isWord_reverse {taken : List Char} (htaken : ∀ c ∈ taken, isBlank c = false)
    (hne : taken ≠ []) : IsWord taken.reverse :=
  ⟨by simpa using hne, fun c hc => htaken c (List.mem_reverse.mp hc)⟩

theorem wordsOf_wordsAfter {taken : List Char} (htaken : ∀ c ∈ taken, isBlank c = false)
    (line : List Char) : WordsOf (taken.reverse ++ line) (wordsAfter taken line) := by
  induction line generalizing taken with
  | nil =>
    cases taken with
    | nil => exact .none (List.forall_mem_nil _)
    | cons d taken =>
      exact .word (List.forall_mem_nil _) (isWord_reverse htaken (List.cons_ne_nil _ _))
        (fun _ hc => nomatch hc) (.none (List.forall_mem_nil _))
  | cons c line ih =>
    rw [wordsAfter]
    split
    · next hc =>
      -- A blank ends the word, if there is one.
      have hrest : WordsOf (c :: line) (wordsAfter [] line) :=
        .blank hc (ih (List.forall_mem_nil _))
      cases taken with
      | nil => exact hrest
      | cons d taken =>
        exact .word (List.forall_mem_nil _) (isWord_reverse htaken (List.cons_ne_nil _ _))
          (fun _ h => Option.some.inj h ▸ hc) hrest
    · next hc =>
      have htaken' : ∀ d ∈ c :: taken, isBlank d = false :=
        List.forall_mem_cons.mpr ⟨Bool.not_eq_true _ ▸ hc, htaken⟩
      simpa using ih htaken'

/-- A line has one list of words. -/
theorem wordsOf_iff {line : List Char} {ws : List (List Char)} :
    WordsOf line ws ↔ ws = words line := by
  constructor
  · intro h
    induction h with
    | none hgap =>
      have hnil := words_gap hgap []
      rw [List.append_nil] at hnil
      exact hnil.symm
    | word hgap hword hapart _ ih => rw [words_gap hgap, words_word hword hapart, ih]
  · rintro rfl
    exact wordsOf_wordsAfter (List.forall_mem_nil _) line

example : words " push\t 5\r".toList = ["push".toList, "5".toList] := by rfl

end CommandTape.Text
