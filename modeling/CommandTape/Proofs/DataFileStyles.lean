import CommandTape.Proofs.Damage
import CommandTape.Proofs.Json.Objects

/-!
# Data files in other styles

A data file that is written by hand may have its members in any order, white space wherever JSON
allows it, members that nothing here knows, and keys and texts with any escapes. What is said of
how a file is written is said part by part, from the format of a memory to the file, and each part
is read as its value, so a file is read as itself in every style.

* `Format.WrittenAs`, `Memory.WrittenAs`, `DataFile.WrittenAs`: the texts of each part.
* `Memory.PartAs.exists_fits`: a memory that is absent is left out or null, which is read alike.
* `DataFile.writtenAs_layout`: what is written for a file is one of its texts.
* `DataFile.read_writtenAs`: whatever text a file is written as, reading gives back the file.
-/

namespace CommandTape

open Json Json.Reading

/-! ## 1. Formats and memories -/

/-- The text is an object of the three members of a format. -/
inductive Format.WrittenAs (format : Format) : List Char → Prop
  | mk {numericType text : List Char} (hnumericType : Spells format.numericType.toList numericType)
      (h : ObjectOf [("numeric_type", some numericType),
        ("is_signed", some (Layout.flag format.isSigned)),
        ("width", some (Layout.natural format.width.toNat))] text) : WrittenAs format text

/-- The text is an object of the words of a memory, as an array, and its format. -/
inductive Memory.WrittenAs (memory : Memory) : List Char → Prop
  | mk {words format text : List Char}
      (hwords : Spread (memory.data.map fun n => Layout.natural n.toNat) words)
      (hformat : memory.format.WrittenAs format)
      (h : ObjectOf [("data", some ('[' :: (words ++ [']']))), ("format", some format)] text) :
      WrittenAs memory text

/-- A memory that is absent is left out or null. -/
inductive Memory.PartAs : Option Memory → Option (List Char) → Prop
  | omitted : PartAs none none
  | null : PartAs none (some Layout.null)
  | memory {memory : Memory} {text : List Char} (h : memory.WrittenAs text) :
      PartAs (some memory) (some text)

theorem Format.writtenAs_layout (format : Format) (level : Nat) :
    format.WrittenAs (format.layout level) :=
  .mk (spells_text _) (objectOf_layout level [("numeric_type", _), ("is_signed", _), ("width", _)])

theorem Memory.writtenAs_layout (memory : Memory) (level : Nat) :
    memory.WrittenAs (memory.layout level) := by
  obtain ⟨words, htext, hwords⟩ := exists_spread '[' ']' (level + 1)
    (memory.data.map fun n => Layout.natural n.toNat)
  refine .mk hwords (memory.format.writtenAs_layout (level + 1)) ?_
  rw [← htext]
  exact objectOf_layout level [("data", _), ("format", _)]

theorem Memory.partAs_memoryLayout (memory? : Option Memory) :
    PartAs memory? (some (DataFile.memoryLayout memory?)) := by
  cases memory? with
  | none => exact .null
  | some memory => exact .memory (memory.writtenAs_layout 1)

theorem Format.WrittenAs.readsWhole {format : Format} {text : List Char}
    (h : format.WrittenAs text) (nullable : Bool) :
    ReadsWhole false (.shape shape nullable) text format.value := by
  cases h with
  | @mk numericType _ hnumericType h =>
    have htext : ReadsWhole false (.shape .text false) numericType (.text format.numericType) :=
      readsWhole_literal hnumericType.readAs false
    let entries : List Entry := [
      ⟨⟨"numeric_type", .required, .text⟩, some numericType, some (.text format.numericType)⟩,
      ⟨⟨"is_signed", .required, .flag⟩, some (Layout.flag format.isSigned),
        some (.flag format.isSigned)⟩,
      ⟨⟨"width", .required, .word⟩, some (Layout.natural format.width.toNat),
        some (.word format.width)⟩]
    have hfits : ∀ e ∈ entries, e.Fits := by
      simp only [entries, List.forall_mem_cons]
      exact ⟨.present htext.reads, .present (readsWhole_flag _ _).reads,
        .present (reads_natural _ _), List.forall_mem_nil _⟩
    have hnodup : List.Nodup ["numeric_type", "is_signed", "width"] := by decide
    exact readsWhole_object nullable hfits hnodup h

theorem Memory.WrittenAs.readsWhole {memory : Memory} {text : List Char}
    (h : memory.WrittenAs text) (nullable : Bool) :
    ReadsWhole false (.shape shape nullable) text memory.value := by
  cases h with
  | @mk words format _ hwords hformat h =>
    have harray : ReadsWhole false (.shape .words false) ('[' :: (words ++ [']']))
        (.words memory.data) :=
      readsWhole_spread '[' rfl (by decide) (fun _ => rfl) hwords (takesAll_words memory.data [])
        rfl (close_words memory.data)
    let entries : List Entry := [
      ⟨⟨"data", .required, .words⟩, some ('[' :: (words ++ [']'])), some (.words memory.data)⟩,
      ⟨⟨"format", .required, Format.shape⟩, some format, some memory.format.value⟩]
    have hfits : ∀ e ∈ entries, e.Fits := by
      simp only [entries, List.forall_mem_cons]
      exact ⟨.present harray.reads, .present (hformat.readsWhole false).reads,
        List.forall_mem_nil _⟩
    have hnodup : List.Nodup ["data", "format"] := by decide
    exact readsWhole_object nullable hfits hnodup h

/-- In each of the ways a memory may be written or not, the part that is read gives it back. -/
theorem Memory.PartAs.exists_fits {memory? : Option Memory} {text? : Option (List Char)}
    (h : PartAs memory? text?) :
    ∃ part?, ofPart? part? = some memory? ∧
      ∀ (name : String) presence, presence ≠ .required →
        Entry.Fits ⟨⟨name, presence, shape⟩, text?, part?⟩ := by
  have hwant (name : String) {presence : Presence} (h : presence ≠ .required) :
      (⟨name, presence, shape⟩ : Json.Field Shape).want = .shape shape true := by
    simp [Json.Field.want, h]
  cases h with
  | omitted => exact ⟨none, rfl, fun _ _ h => .absent (decide_eq_true h)⟩
  | null =>
    refine ⟨some .null, rfl, fun name _ h => .present ?_⟩
    rw [hwant name h]
    exact (readsWhole_null _).reads
  | @memory memory text h =>
    refine ⟨some memory.value, memory.ofPart?_value, fun name _ hpresence => .present ?_⟩
    rw [hwant name hpresence]
    exact (h.readsWhole true).reads

/-! ## 2. Files -/

namespace DataFile

/-- The text is an object of the memories of a file, with white space around it. -/
inductive WrittenAs (file : DataFile) : List Char → Prop
  | mk {before after text : List Char} {commands values answers : Option (List Char)}
      (hbefore : IsGap before) (hafter : IsGap after)
      (hcommands : Memory.PartAs file.commands commands)
      (hvalues : Memory.PartAs file.values values)
      (hanswers : Memory.PartAs file.answers answers)
      (h : ObjectOf [("commands", commands), ("values", values), ("ans_mem", answers)] text) :
      WrittenAs file (before ++ (text ++ after))

/-- What is written is one of the texts. -/
theorem writtenAs_layout (file : DataFile) : file.WrittenAs file.layout := by
  obtain ⟨commands, values, answers⟩ := file
  have hcommands := Memory.partAs_memoryLayout commands
  have hvalues := Memory.partAs_memoryLayout values
  rw [← List.append_nil (layout _), ← List.nil_append (layout _ ++ [])]
  cases answers with
  | none =>
    exact .mk isGap_nil isGap_nil hcommands hvalues .omitted
      (objectOf_layout 0 [("commands", _), ("values", _), ("ans_mem", none)])
  | some memory =>
    exact .mk isGap_nil isGap_nil hcommands hvalues (.memory (memory.writtenAs_layout 1))
      (objectOf_layout 0 [("commands", _), ("values", _), ("ans_mem", some _)])

/-- A data file is read as itself in every style: whatever the order of the members at each level,
    the white space between the tokens and the escapes in texts and keys, be a memory that is
    absent left out or null, and whatever members there are among them that have other names, with
    any documents for values. -/
theorem read_writtenAs {file : DataFile} {text : List Char} (h : file.WrittenAs text) :
    read text = .ok file := by
  cases h with
  | @mk before after text commands values answers hbefore hafter hcommands hvalues hanswers h =>
    obtain ⟨commands', hcommands', hcommandsFits⟩ := hcommands.exists_fits
    obtain ⟨values', hvalues', hvaluesFits⟩ := hvalues.exists_fits
    obtain ⟨answers', hanswers', hanswersFits⟩ := hanswers.exists_fits
    let entries : List Entry := [
      ⟨⟨"commands", .nullable, Memory.shape⟩, commands, commands'⟩,
      ⟨⟨"values", .nullable, Memory.shape⟩, values, values'⟩,
      ⟨⟨"ans_mem", .optional, Memory.shape⟩, answers, answers'⟩]
    have hfits : ∀ e ∈ entries, e.Fits := by
      simp only [entries, List.forall_mem_cons]
      exact ⟨hcommandsFits _ _ (by decide), hvaluesFits _ _ (by decide),
        hanswersFits _ _ (by decide), List.forall_mem_nil _⟩
    have hnodup : List.Nodup ["commands", "values", "ans_mem"] := by decide
    have hwhole : ReadsWhole false (.shape shape false) text
        (.record [commands', values', answers']) := readsWhole_object false hfits hnodup h
    have hleads : Leads false (start shape) (before ++ text)
        (finished (.record [commands', values', answers'])) :=
      (leads_gap hbefore _ _).append (hwhole (.inl rfl) [])
    rw [← List.append_assoc]
    exact read_of_leads hleads hafter (by simp [ofValue?, hcommands', hvalues', hanswers'])

/-- The memories in another order, one of them null and one left out, and members that nothing here
    knows, one of them twice. -/
theorem read_writtenAs_commands :
    let memory : Memory := ⟨[2, 0], .bitnum 2⟩
    let file : DataFile := ⟨some memory, none, none⟩
    let text := "\n\x7b\"x\":[1e999,[]],\"values\" :null,\"x\":\"\\ud800\",\"commands\":".toList ++
      (memory.layout 1 ++ "\x7d\t".toList)
    file.WrittenAs text ∧ read text = .ok file := by
  intro memory file
  have hmemory : memory.WrittenAs _ := memory.writtenAs_layout 1
  -- How the memory itself is written is of no account from here on.
  generalize memory.layout 1 = layout at hmemory ⊢
  intro text
  have hgap : IsGap [' '] ∧ IsGap ['\n'] ∧ IsGap ['\t'] := by simp [IsGap, isSpace]
  have hwhole : IsWhole ['1'] := .digits rfl (by decide) (List.forall_mem_nil _)
  have hexponent : IsExponent ('e' :: ([] ++ ['9', '9', '9'])) :=
    .digits (.inl rfl) List.mem_cons_self (List.cons_ne_nil _ _) (by simp)
  have hnumber : IsNumber ['1', 'e', '9', '9', '9'] := .mk (.inl rfl) hwhole .none hexponent
  have harray : Document "[1e999,[]]".toList := by
    have hitems : Spread ["1e999".toList, "[]".toList] "1e999,[]".toList :=
      .more isGap_nil isGap_nil (.one isGap_nil isGap_nil)
    refine .array hitems (List.forall_mem_cons.mpr ⟨.number hnumber, ?_⟩)
    exact List.forall_mem_singleton.mpr (.array (.none isGap_nil) (List.forall_mem_nil _))
  have hliteral : Document "\"\\ud800\"".toList := by
    have hunit : IsUnit _ "d800".toList := .mk rfl rfl rfl rfl
    exact .literal (.mk (List.forall_mem_singleton.mpr (.unit hunit)))
  let member (name : String) (before value : List Char) : Named :=
    ⟨⟨Layout.text name.toList, before, [], value⟩, name⟩
  let members := [member "x" [] "[1e999,[]]".toList, member "values" [' '] Layout.null,
    member "x" [] "\"\\ud800\"".toList, member "commands" [] layout]
  let given := [("commands", some layout), ("values", some Layout.null),
    ("ans_mem", none)]
  have hspelled : ∀ m ∈ members, m.IsSpelled := by
    have hmember (name : String) {before : List Char} (hbefore : IsGap before)
        (value : List Char) : (member name before value).IsSpelled :=
      ⟨spells_text name.toList, hbefore, isGap_nil⟩
    simp only [members, List.forall_mem_cons]
    exact ⟨hmember _ isGap_nil _, hmember _ hgap.1 _, hmember _ isGap_nil _,
      hmember _ isGap_nil _, List.forall_mem_nil _⟩
  have hcarries : Carries given members := .swap _ _ _
  have hothers : ∀ m ∈ members, m.name ∉ given.map (·.1) → Document m.value := by
    simp only [members, List.forall_mem_cons]
    exact ⟨fun _ => harray, fun h => absurd (.tail _ (.head _)) h, fun _ => hliteral,
      fun h => absurd (.head _) h, List.forall_mem_nil _⟩
  have hobject := @ObjectOf.mk given members _ (.more isGap_nil isGap_nil (.more isGap_nil isGap_nil
    (.more isGap_nil isGap_nil (.one isGap_nil isGap_nil)))) hspelled hcarries hothers
  have hwritten := @WrittenAs.mk file _ _ _ _ _ _ hgap.2.1 hgap.2.2 (.memory hmemory) .null .omitted
    hobject
  have htext : file.WrittenAs text := by
    simpa [text, member, Member.text, Layout.text, Layout.escape, Layout.null] using hwritten
  exact ⟨htext, read_writtenAs htext⟩

end DataFile

end CommandTape
