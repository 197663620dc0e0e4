import CommandTape.Proofs.RoundTrip

/-!
# Damaged data files

A reading ends in one of two ways: the text is over, or trouble is met. So the text of a data file
that breaks off, at whatever character, is one that has ended too early, and never one of another
content; and what is written behind it is looked at until something stands there that is no white
space.

* `Leads.finish_of_cut`: a text that breaks off within one that leads on has ended too early.
* `foldlM_next_finished`, `foldlM_next_finished_of_mem`: what may stand behind a complete value.
* `DataFile.read_damaged`: the text of a data file that is cut off or written on.
-/

namespace CommandTape

namespace Json.Reading

variable {reading reading' : Reading} {cut rest : List Char}

/-! ## 1. Texts that break off -/

/-- A text that breaks off within one that leads on has ended too early, wherever it breaks off. -/
theorem Leads.finish_of_cut (h : Leads true reading (cut ++ rest) reading') (hrest : rest ≠ []) :
    (cut.foldlM next reading).bind finish = .error .ended := by
  induction cut generalizing reading with
  | nil =>
    -- What is missing begins with a character that was needed here.
    obtain ⟨c, cs, rfl⟩ := List.exists_cons_of_ne_nil hrest
    cases h with
    | cons hcut _ _ => exact hcut rfl
  | cons c cut ih =>
    cases h with
    | cons _ hnext hmore =>
      rw [List.foldlM_cons, hnext]
      exact ih hmore

/-! ## 2. Texts that go on -/

theorem isSpace_iff {c : Char} : isSpace c = true ↔ c ∈ [' ', '\t', '\n', '\r'] := by
  simp [isSpace, or_assoc]

/-- White space behind a complete value changes nothing. -/
theorem foldlM_next_finished (value : Value) (h : IsGap rest) :
    rest.foldlM next (finished value) = .ok (finished value) := by
  induction rest with
  | nil => rfl
  | cons c rest ih =>
    have hspace : (finished value).next c = .ok (finished value) :=
      if_pos (h c List.mem_cons_self)
    rw [List.foldlM_cons, hspace]
    exact ih fun c hc => h c (List.mem_cons_of_mem _ hc)

/-- Anything else behind a complete value is no JSON, whatever stands before or behind it. -/
theorem foldlM_next_finished_of_mem (value : Value) (h : ∃ c ∈ rest, isSpace c = false) :
    rest.foldlM next (finished value) = .error .grammar := by
  induction rest with
  | nil =>
    obtain ⟨c, hc, _⟩ := h
    cases hc
  | cons c rest ih =>
    rw [List.foldlM_cons]
    cases hspace : isSpace c with
    | false =>
      have hbroken : (finished value).next c = .error .grammar := by
        simp [next, nextToken, hspace]
      rw [hbroken]
      rfl
    | true =>
      have hmore : ∃ c ∈ rest, isSpace c = false := by
        obtain ⟨c', hc', hbroken⟩ := h
        rcases List.mem_cons.mp hc' with rfl | hc'
        · rw [hspace] at hbroken
          cases hbroken
        · exact ⟨c', hc', hbroken⟩
      have hgap : (finished value).next c = .ok (finished value) := if_pos hspace
      rw [hgap]
      exact ih hmore

end Json.Reading

open Json Json.Reading

namespace DataFile

/-! ## 3. The text of a data file -/

/-- What stands behind the text of a data file is read as behind its value. -/
theorem foldlM_layout_append (file : DataFile) (rest : List Char) :
    (file.layout ++ rest).foldlM next (start shape) = rest.foldlM next (finished file.value) := by
  have hlayout : Leads false (start shape) file.layout (finished file.value) := file.leads_layout
  rw [List.foldlM_append, hlayout.foldlM_next]
  rfl

/-- A text that leads to the value of a file is read as the file, with white space behind it. -/
theorem read_of_leads {file : DataFile} {value : Value} {text gap : List Char}
    (h : Leads false (start shape) text (finished value)) (hgap : IsGap gap)
    (hvalue : ofValue? value = some file) : read (text ++ gap) = .ok file := by
  have hread : Json.read shape (text ++ gap) = .ok value := by
    rw [Json.read, List.foldlM_append, h.foldlM_next]
    exact congrArg (Except.bind · finish) (foldlM_next_finished value hgap)
  rw [read, hread]
  simp only [Except.bind, hvalue]

/-- The text of a data file with white space behind it is read as the file. -/
theorem read_layout_append (file : DataFile) {gap : List Char} (h : IsGap gap) :
    read (file.layout ++ gap) = .ok file :=
  read_of_leads file.leads_layout h file.ofValue?_value

theorem toList_write (file : DataFile) : file.write.toList = file.layout := String.toList_ofList

/-- A damaged data file is never read as a good one. Cut off before its end, at whatever character,
    it has ended too early: it is not taken for a file of less content, and nothing is said to be
    missing from it. Written on, it is no JSON, unless all that is added is white space. -/
theorem read_damaged (file : DataFile) :
    (∀ cut rest, file.write.toList = cut ++ rest → rest ≠ [] → read cut = .error .ended) ∧
    (∀ rest, (∃ c ∈ rest, c ∉ [' ', '\t', '\n', '\r']) →
      read (file.write.toList ++ rest) = .error .grammar) ∧
    ∀ rest, (∀ c ∈ rest, c ∈ [' ', '\t', '\n', '\r']) →
      read (file.write.toList ++ rest) = .ok file := by
  rw [toList_write]
  refine ⟨fun cut rest hcut hrest => ?_, fun rest h => ?_, fun rest h => ?_⟩
  · have hlayout : Leads true (start shape) (cut ++ rest) (finished file.value) :=
      hcut ▸ file.leads_layout
    rw [read, Json.read, hlayout.finish_of_cut hrest]
    rfl
  · obtain ⟨c, hc, hout⟩ := h
    have hmem : ∃ c ∈ rest, isSpace c = false :=
      ⟨c, hc, Bool.eq_false_iff.mpr (mt isSpace_iff.mp hout)⟩
    rw [read, Json.read, foldlM_layout_append, foldlM_next_finished_of_mem _ hmem]
    rfl
  · exact read_layout_append file fun c hc => isSpace_iff.mpr (h c hc)

/-- Cut off within a number, and within an escape; with a second brace, and with a line end. -/
theorem read_damaged_withinTokens :
    let file : DataFile := ⟨some ⟨[13], ⟨"a\"b", true, 8⟩⟩, none, none⟩
    let toNumber := "\x7b\n  \"commands\": \x7b\n    \"data\": [\n      1".toList
    let toEscape := "3\n    ],\n    \"format\": \x7b\n      \"numeric_type\": \"a\\".toList
    let rest := "\"b\",\n      \"is_signed\": true,\n      \"width\": 8\n".toList ++
      "    \x7d\n  \x7d,\n  \"values\": null\n\x7d".toList
    file.write.toList = toNumber ++ toEscape ++ rest ∧
      read toNumber = .error .ended ∧ read (toNumber ++ toEscape) = .error .ended ∧
      read (file.write.toList ++ ['\n', '\x7d']) = .error .grammar ∧
      read (file.write.toList ++ ['\n']) = .ok file := by
  intro file toNumber toEscape rest
  obtain ⟨hcut, hmore, hgap⟩ := read_damaged file
  have htext : file.write.toList = toNumber ++ toEscape ++ rest := by
    rw [toList_write]
    decide +kernel
  have hnumber : file.write.toList = toNumber ++ (toEscape ++ rest) :=
    htext.trans (List.append_assoc _ _ _)
  exact ⟨htext, hcut _ _ hnumber (List.cons_ne_nil _ _), hcut _ _ htext (List.cons_ne_nil _ _),
    hmore _ ⟨'\x7d', by decide, by decide⟩, hgap _ (by simp)⟩

end DataFile

end CommandTape
