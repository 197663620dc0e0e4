import CommandTape.Proofs.Text.Cuts
import CommandTape.Proofs.Toml.Integers
import CommandTape.Toml.Reading

/-!
# TOML line by line

Where values do not run over several lines, a TOML text can be read line by line: each line is
blank, a comment or an assignment, and the end of the line shows what it adds. It does not matter
by which line end that is, or whether the text ends there.

* `Adds`: what a line adds to the section that it stands in.
* `adds_blank`, `adds_comment`, `Gives.adds`: what the kinds of lines add.
* `gives_integer`, `gives_text`: what a value is, or that it is refused.
* `read?_eq_some_iff`: the table of a text is what its lines add, if none of them is refused.
-/

namespace CommandTape.Toml

open Text (LinesOf)

namespace Reading

variable {reading : Reading} {ended : Option (List Section)} {xs ys : List Char} {c : Char}

/-! ## 1. Line ends -/

/-- The reading after some characters. -/
def take (reading : Reading) (text : List Char) : Option Reading := text.foldlM next reading

@[simp] theorem take_nil : reading.take [] = some reading := rfl

theorem take_cons : reading.take (c :: xs) = (reading.next c).bind (take · xs) := rfl

theorem take_append : reading.take (xs ++ ys) = (reading.take xs).bind (take · ys) := by
  unfold take
  rw [List.foldlM_append]
  rfl

/-- With the line over here, these are the sections, or the line is refused; which line end it is
    does not matter. -/
structure AtEnd (reading : Reading) (ended : Option (List Section)) : Prop where
  lineFeed : reading.next '\n' = ended.map (⟨·, .lineStart⟩)
  carriageReturn : reading.next '\r' = ended.map (⟨·, .return .lineStart⟩)
  place_ne : ∀ after, reading.place ≠ .return after

theorem AtEnd.finish_eq (h : AtEnd reading ended) : reading.finish = ended.map List.reverse := by
  unfold finish
  split
  · next hplace => exact absurd hplace (h.place_ne _)
  · rw [h.lineFeed]
    cases ended <;> rfl

theorem atEnd_lineStart (sections : List Section) : AtEnd ⟨sections, .lineStart⟩ (some sections) :=
  ⟨rfl, rfl, nofun⟩

theorem atEnd_lineEnd (sections : List Section) : AtEnd ⟨sections, .lineEnd⟩ (some sections) :=
  ⟨rfl, rfl, nofun⟩

theorem atEnd_comment (sections : List Section) :
    AtEnd ⟨sections, .comment .lineStart⟩ (some sections) :=
  ⟨rfl, rfl, nofun⟩

/-! ## 2. Lines -/

/-- An entry of a table as it is assigned below the header of the table. -/
def assignment (entry : String × Node) : Assignment := ⟨[entry.1], entry.2⟩

/-- The sections with further entries in the last of them. -/
def extended (header : Header) (done : List Assignment) (before : List Section)
    (entries : Entries) : List Section :=
  ⟨header, (entries.map assignment).reverse ++ done⟩ :: before

/-- The line adds these entries to the section that it stands in, or is refused as soon as it
    ends. -/
def Adds (line : List Char) (added : Option Entries) : Prop :=
  ∀ header done before, ∃ reading : Reading,
    take ⟨⟨header, done⟩ :: before, .lineStart⟩ line = some reading ∧
      AtEnd reading (added.map (extended header done before))

variable {ι : Type} {write : ι → List Char} {add : ι → Option Entries} {items : List ι}
  {text : List Char}

/-- What is left of a text is read from the beginning of a line. -/
def rest (sections : List Section) (text : List Char) : Option (List Section) :=
  (take ⟨sections, .lineStart⟩ text).bind finish

/-- A line with its end adds to what is left of the text, or refuses it. -/
theorem Adds.rest_append {line : List Char} {added : Option Entries} (h : Adds line added)
    {behind : List Char} (hbehind : behind = '\n' :: text ∨ behind = '\r' :: '\n' :: text)
    (header : Header) (done : List Assignment) (before : List Section) :
    rest (⟨header, done⟩ :: before) (line ++ behind) =
      added.bind fun entries => rest (extended header done before entries) text := by
  obtain ⟨r, htake, hr⟩ := h header done before
  unfold rest
  rw [take_append, htake, Option.bind_some]
  rcases hbehind with rfl | rfl
  · rw [take_cons, hr.lineFeed]
    cases added <;> rfl
  · rw [take_cons, hr.carriageReturn]
    cases added <;> rfl

theorem extended_append (header : Header) (done : List Assignment) (before : List Section)
    (xs ys : Entries) :
    extended header done before (xs ++ ys) =
      extended header ((xs.map assignment).reverse ++ done) before ys := by
  simp [extended]

/-- The lines add these parts of a table, one each, so that none of them is refused. -/
def Parts (add : ι → Option Entries) (items : List ι) (parts : List Entries) : Prop :=
  List.Forall₂ (fun item part => add item = some part) items parts

/-- These are the sections of a text that ends with these lines. -/
def EndsWith (add : ι → Option Entries) (items : List ι) (header : Header)
    (done : List Assignment) (before sections : List Section) : Prop :=
  ∃ parts, Parts add items parts ∧ (extended header done before parts.flatten).reverse = sections

theorem endsWith_nil {header : Header} {done : List Assignment} {before sections : List Section} :
    EndsWith add [] header done before sections ↔
      (⟨header, done⟩ :: before).reverse = sections := by
  simp [EndsWith, Parts, extended]

theorem endsWith_cons {item : ι} {header : Header} {done : List Assignment}
    {before sections : List Section} :
    EndsWith add (item :: items) header done before sections ↔
      ∃ part, add item = some part ∧
        EndsWith add items header ((part.map assignment).reverse ++ done) before sections := by
  unfold EndsWith Parts
  constructor
  · rintro ⟨_, hall, hsections⟩
    obtain ⟨part, parts, hpart, hparts, rfl⟩ := List.forall₂_cons_left_iff.mp hall
    rw [List.flatten_cons, extended_append] at hsections
    exact ⟨part, hpart, parts, hparts, hsections⟩
  · rintro ⟨part, hpart, parts, hparts, hsections⟩
    rw [← extended_append, ← List.flatten_cons] at hsections
    exact ⟨part :: parts, .cons hpart hparts, hsections⟩

/-- A text is read exactly if none of its lines is refused, and adds what they add. -/
theorem rest_eq_some_iff (htext : LinesOf text (items.map write))
    (hadds : ∀ item ∈ items, Adds (write item) (add item)) (header : Header)
    (done : List Assignment) (before sections : List Section) :
    rest (⟨header, done⟩ :: before) text = some sections ↔
      EndsWith add items header done before sections := by
  generalize hlines : items.map write = lines at htext
  -- Each line leaves the rest of the text with more assignments behind it.
  induction htext generalizing items done with
  | none =>
    rw [List.map_eq_nil_iff.mp hlines, endsWith_nil]
    exact Option.some_inj
  | unended hne hline =>
    obtain ⟨item, others, rfl, rfl, hnil⟩ := List.map_eq_cons_iff.mp hlines
    obtain ⟨r, htake, hend⟩ := hadds item List.mem_cons_self header done before
    rw [List.map_eq_nil_iff.mp hnil, endsWith_cons, rest, htake, Option.bind_some, hend.finish_eq]
    simp only [endsWith_nil, Option.map_map, Option.map_eq_some_iff]
    rfl
  | @lineFeed line text lines hline hreturn hrest ih =>
    obtain ⟨item, others, rfl, rfl, rfl⟩ := List.map_eq_cons_iff.mp hlines
    obtain ⟨hitem, hothers⟩ := List.forall_mem_cons.mp hadds
    rw [endsWith_cons, hitem.rest_append (.inl rfl), Option.bind_eq_some_iff]
    exact exists_congr fun part => and_congr_right fun _ => ih hothers _ rfl
  | @carriageReturn line text lines hline hrest ih =>
    obtain ⟨item, others, rfl, rfl, rfl⟩ := List.map_eq_cons_iff.mp hlines
    obtain ⟨hitem, hothers⟩ := List.forall_mem_cons.mp hadds
    rw [endsWith_cons, hitem.rest_append (.inr rfl), Option.bind_eq_some_iff]
    exact exists_congr fun part => and_congr_right fun _ => ih hothers _ rfl

/-- No line begins with a byte order mark. -/
theorem Adds.head?_ne_mark {line : List Char} {added : Option Entries}
    (h : Adds line added) : line.head? ≠ some '\ufeff' := by
  intro hhead
  obtain ⟨line, rfl⟩ := List.head?_eq_some_iff.mp hhead
  obtain ⟨r, htake, -⟩ := h .root [] []
  cases htake

theorem head?_ne_mark (htext : LinesOf text (items.map write))
    (hadds : ∀ item ∈ items, Adds (write item) (add item)) : text.head? ≠ some '\ufeff' := by
  have hline {line : List Char} {lines : List (List Char)}
      (hlines : items.map write = line :: lines) : line.head? ≠ some '\ufeff' := by
    obtain ⟨item, others, rfl, rfl, rfl⟩ := List.map_eq_cons_iff.mp hlines
    exact (hadds item List.mem_cons_self).head?_ne_mark
  generalize hlines : items.map write = lines at htext
  cases htext with
  | none => exact nofun
  | unended => exact hline hlines
  | @lineFeed line =>
    cases line with
    | nil => exact fun h => absurd (Option.some.inj h) (by decide)
    | cons c line => exact fun h => hline hlines h
  | @carriageReturn line =>
    cases line with
    | nil => exact fun h => absurd (Option.some.inj h) (by decide)
    | cons c line => exact fun h => hline hlines h

theorem readSections?_eq_some_iff (htext : LinesOf text (items.map write))
    (hadds : ∀ item ∈ items, Adds (write item) (add item)) (sections : List Section) :
    readSections? text = some sections ↔
      ∃ parts, Parts add items parts ∧
        [⟨.root, (parts.flatten.map assignment).reverse⟩] = sections := by
  have hmark : withoutMark text = text := by
    unfold withoutMark
    split
    · exact absurd rfl (head?_ne_mark htext hadds)
    · rfl
  have hrest := rest_eq_some_iff htext hadds .root [] [] sections
  simp only [EndsWith, extended, List.append_nil, List.reverse_singleton] at hrest
  rw [readSections?, hmark]
  exact hrest

/-! ## 3. Blank lines and comments -/

variable {gap words key word : List Char} {sections : List Section}

theorem take_of_same (h : ∀ c ∈ xs, reading.next c = some reading) :
    reading.take xs = some reading := by
  induction xs with
  | nil => rfl
  | cons c xs ih =>
    rw [take_cons, h c List.mem_cons_self]
    exact ih fun c hc => h c (List.mem_cons_of_mem _ hc)

/-- Characters that a place collects, the last of them first. -/
theorem take_collected (collect : List Char → Place)
    (h : ∀ taken, ∀ c ∈ xs,
      next ⟨sections, collect taken⟩ c = some ⟨sections, collect (c :: taken)⟩)
    (taken : List Char) :
    take ⟨sections, collect taken⟩ xs = some ⟨sections, collect (xs.reverse ++ taken)⟩ := by
  induction xs generalizing taken with
  | nil => rfl
  | cons c xs ih =>
    rw [take_cons, h taken c List.mem_cons_self, Option.bind_some,
      ih fun taken c hc => h taken c (List.mem_cons_of_mem _ hc)]
    simp

theorem take_gap (hgap : ∀ c ∈ gap, isBlank c = true) :
    take ⟨sections, .lineStart⟩ gap = some ⟨sections, .lineStart⟩ :=
  take_of_same fun c hc => if_pos (hgap c hc)

theorem adds_blank (hgap : ∀ c ∈ gap, isBlank c = true) : Adds gap (some []) := by
  intro header done before
  exact ⟨_, take_gap hgap, atEnd_lineStart _⟩

theorem next_comment (hc : isPrintable c = true) :
    next ⟨sections, .comment .lineStart⟩ c = some ⟨sections, .comment .lineStart⟩ := by
  have hne : c ≠ '\n' ∧ c ≠ '\r' := by
    constructor <;>
    · rintro rfl
      cases hc
  unfold next
  simp only [if_neg hne.1, if_neg hne.2, if_pos hc]

theorem adds_comment (hgap : ∀ c ∈ gap, isBlank c = true)
    (hwords : ∀ c ∈ words, isPrintable c = true) : Adds (gap ++ '#' :: words) (some []) := by
  intro header done before
  refine ⟨⟨_, .comment .lineStart⟩, ?_, atEnd_comment _⟩
  rw [take_append, take_gap hgap]
  exact take_of_same fun c hc => next_comment (hwords c hc)

/-! ## 4. Keys -/

/-- A key of one part without quotes. -/
def IsKey (key : List Char) : Prop := key ≠ [] ∧ ∀ c ∈ key, isBareKey c = true

/-- A character of a kind is none of the characters that are not of this kind. -/
theorem ne_of_kind {kind : Char → Bool} {others : List Char}
    (hothers : others.all (!kind ·) = true) (hc : kind c = true) : ∀ d ∈ others, c ≠ d := by
  rintro d hd rfl
  have hother := List.all_eq_true.mp hothers c hd
  simp [hc] at hother

theorem next_key (hc : isBareKey c = true) :
    next ⟨sections, .lineStart⟩ c = some ⟨sections, .bareKey .line [] [c]⟩ := by
  have hne : ∀ d ∈ [' ', '\t', '[', '#', '\n', '\r'], c ≠ d := ne_of_kind rfl hc
  simp [next, openKey, lineBreak?, moveTo, isBlank, hc, hne]

/-- The line that assigns a value to a key. -/
def assigned (key value : List Char) : List Char := key ++ ' ' :: '=' :: ' ' :: value

/-- A key with its equals sign leads to its value. -/
theorem take_assigned (hkey : IsKey key) (value : List Char) :
    take ⟨sections, .lineStart⟩ (assigned key value) =
      take ⟨sections, .valueStart ⟨[String.ofList key], []⟩⟩ value := by
  obtain ⟨hne, hkey⟩ := hkey
  cases key with
  | nil => exact absurd rfl hne
  | cons c cs =>
    obtain ⟨hc, hcs⟩ := List.forall_mem_cons.mp hkey
    have hreverse : (cs.reverse ++ [c]).reverse = c :: cs := by simp
    have hrest : take ⟨sections, .bareKey .line [] [c]⟩ cs =
        some ⟨sections, .bareKey .line [] (cs.reverse ++ [c])⟩ :=
      take_collected (.bareKey .line []) (fun taken c hc => if_pos (hcs c hc)) [c]
    rw [assigned, List.cons_append, take_cons, next_key hc, Option.bind_some, take_append, hrest,
      Option.bind_some, ← hreverse]
    rfl

/-! ## 5. Values -/

/-- The value of an assignment, with its line over, is this node, or is refused. -/
def Gives (value : List Char) (node : Option Node) : Prop :=
  ∀ path header done before, ∃ reading : Reading,
    take ⟨⟨header, done⟩ :: before, .valueStart ⟨path, []⟩⟩ value = some reading ∧
      AtEnd reading (node.map fun node => ⟨header, ⟨path, node⟩ :: done⟩ :: before)

theorem Gives.adds {value : List Char} {node : Option Node} (h : Gives value node)
    (hkey : IsKey key) :
    Adds (assigned key value) (node.map fun node => [(String.ofList key, node)]) := by
  intro header done before
  obtain ⟨r, htake, hend⟩ := h [String.ofList key] header done before
  refine ⟨r, (take_assigned hkey value).trans htake, ?_⟩
  rw [Option.map_map]
  exact hend

variable {path : List String} {n : Int}

theorem next_word (hc : Word.isChar c = true) :
    next ⟨sections, .valueStart ⟨path, []⟩⟩ c = some ⟨sections, .word [c] ⟨path, []⟩⟩ := by
  have hne : ∀ d ∈ [' ', '\t', '[', '{'], c ≠ d := ne_of_kind rfl hc
  simp [next, beforeValue, openValue, Target.allowsBreaks, moveTo, isBlank, hc, hne]

/-- What a word is shows at the character behind it. -/
theorem next_behindWord (hchar : Word.isChar c = false) (hblank : c ≠ ' ') (target : Target) :
    next ⟨sections, .word word.reverse target⟩ c =
      (Word.read? word).bind fun value =>
        (give ⟨sections, .word word.reverse target⟩ (.word value) target).afterValue c := by
  simp only [next, hchar, hblank, endWord, List.reverse_reverse, Bool.false_eq_true, if_false,
    false_and]
  rfl

/-- An integer is refused if it does not fit 64 bits. -/
theorem gives_integer (hword : Word.Writes word n) :
    Gives word (if Word.fits64 n then some (.word (.integer n)) else none) := by
  intro path header done before
  refine ⟨⟨⟨header, done⟩ :: before, .word word.reverse ⟨path, []⟩⟩, ?_, ?_, ?_, nofun⟩
  · have hchars := Word.isChar_of_writes hword
    cases word with
    | nil => cases Word.integer?_of_writes hword
    | cons c cs =>
      obtain ⟨hc, hcs⟩ := List.forall_mem_cons.mp hchars
      rw [take_cons, next_word hc, Option.bind_some, List.reverse_cons]
      exact take_collected (.word · ⟨path, []⟩) (fun taken c hc => if_pos (hcs c hc)) [c]
  · rw [next_behindWord (by decide) (by decide), Word.read?_of_writes hword]
    cases Word.fits64 n <;> rfl
  · rw [next_behindWord (by decide) (by decide), Word.read?_of_writes hword]
    cases Word.fits64 n <;> rfl

/-- A character that may stand between quotation marks as it is. -/
def isPlain (c : Char) : Bool := isPrintable c && c ≠ '"' && c ≠ '\\'

/-- A text without anything that would have to be escaped. -/
def IsPlain (text : List Char) : Prop := text ≠ [] ∧ ∀ c ∈ text, isPlain c = true

/-- A text on one line, with its characters so far. -/
def onLine (taken : List Char) (spot : Spot) : Literal := ⟨.basic, true, false, taken, spot⟩

theorem next_plain (hc : isPlain c = true) {spot : Spot}
    (hspot : spot = .opened ∨ spot = .line) (taken : List Char) (target : Target) :
    next ⟨sections, .literal (onLine taken spot) target⟩ c =
      some ⟨sections, .literal (onLine (c :: taken) .line) target⟩ := by
  have hmark : c ≠ '"' := by
    rintro rfl
    cases hc
  have hescape : c ≠ '\\' := by
    rintro rfl
    cases hc
  have hprintable : isPrintable c = true := by
    simpa [isPlain, hmark, hescape] using hc
  rcases hspot with rfl | rfl <;>
    simp [next, onLine, Literal.next, Literal.nextInside, Literal.push, Literal.inside, Quote.mark,
      moveTo, hprintable, hmark, hescape]

theorem gives_text (htext : IsPlain text) :
    Gives ('"' :: (text ++ ['"'])) (some (.text (String.ofList text))) := by
  intro path header done before
  refine ⟨⟨_, .lineEnd⟩, ?_, atEnd_lineEnd _⟩
  obtain ⟨hne, hplain⟩ := htext
  have hopen : next ⟨⟨header, done⟩ :: before, .valueStart ⟨path, []⟩⟩ '"' =
      some ⟨⟨header, done⟩ :: before, .literal (onLine [] .opened) ⟨path, []⟩⟩ := rfl
  cases text with
  | nil => exact absurd rfl hne
  | cons c cs =>
    obtain ⟨hc, hcs⟩ := List.forall_mem_cons.mp hplain
    have hreverse : (cs.reverse ++ [c]).reverse = c :: cs := by simp
    have hrest : take ⟨⟨header, done⟩ :: before, .literal (onLine [c] .line) ⟨path, []⟩⟩ cs =
        some ⟨⟨header, done⟩ :: before,
          .literal (onLine (cs.reverse ++ [c]) .line) ⟨path, []⟩⟩ :=
      take_collected (fun taken => .literal (onLine taken .line) ⟨path, []⟩)
        (fun taken c hc => next_plain (hcs c hc) (.inr rfl) taken _) [c]
    rw [take_cons, hopen, Option.bind_some, List.cons_append, take_cons,
      next_plain hc (.inl rfl), Option.bind_some, take_append, hrest, Option.bind_some,
      ← hreverse]
    rfl

/-! ## 6. Tables -/

/-- In a table with different keys, to be found is to be there. -/
theorem find?_eq_some_iff {entries : Entries} (hkeys : (entries.map Prod.fst).Nodup) {key : String}
    {value : Node} : entries.find? key = some value ↔ (key, value) ∈ entries := by
  unfold Entries.find?
  induction entries with
  | nil => simp
  | cons entry entries ih =>
    obtain ⟨key', value'⟩ := entry
    rw [List.map_cons, List.nodup_cons] at hkeys
    rw [List.lookup_cons, List.mem_cons, Prod.mk.injEq]
    by_cases heq : key = key'
    · subst heq
      have hfresh : (key, value) ∉ entries := fun hmem =>
        hkeys.1 (List.mem_map.mpr ⟨_, hmem, rfl⟩)
      rw [beq_self_eq_true]
      simp [hfresh, eq_comm]
    · rw [beq_eq_false_iff_ne.mpr heq]
      simp [heq, ih hkeys.2]

/-- Assignments of different keys make a table of their entries. -/
theorem assignAll_of_nodup (done : Entries) {entries : Entries}
    (hkeys : ((done ++ entries).map Prod.fst).Nodup) :
    Entries.assignAll (entries.map assignment).reverse done = some (done ++ entries) := by
  unfold Entries.assignAll
  rw [List.reverse_reverse]
  induction entries generalizing done with
  | nil => simp
  | cons entry entries ih =>
    obtain ⟨key, value⟩ := entry
    have hfresh : Entries.find? key done = none := by
      rw [List.map_append, List.map_cons, List.nodup_append] at hkeys
      refine List.lookup_eq_none_iff.mpr fun entry hentry => bne_iff_ne.mpr fun heq => ?_
      exact hkeys.2.2 _ (List.mem_map_of_mem hentry) _ List.mem_cons_self heq.symm
    have happend : done ++ (key, value) :: entries = (done ++ [(key, value)]) ++ entries := by simp
    have hassign : Entries.assign value [key] done = some (done ++ [(key, value)]) := by
      simp only [Entries.assign, hfresh]
    rw [List.map_cons, List.foldlM_cons, happend]
    rw [happend] at hkeys
    exact (congrArg (· >>= _) hassign).trans (ih _ hkeys)

theorem ofSections?_root {entries : Entries} (hkeys : (entries.map Prod.fst).Nodup) :
    Entries.ofSections? [⟨.root, (entries.map assignment).reverse⟩] = some entries := by
  rw [Entries.ofSections?, List.foldlM_cons]
  exact congrArg (· >>= pure) (assignAll_of_nodup [] hkeys)

variable {keys : ι → List String} {parts : List Entries}

theorem Parts.keys_flatten (hparts : Parts add items parts)
    (hkeys : ∀ item ∈ items, ∀ part, add item = some part → part.map Prod.fst = keys item) :
    parts.flatten.map Prod.fst = items.flatMap keys := by
  induction hparts with
  | nil => rfl
  | cons hpart _ ih =>
    obtain ⟨hitem, hothers⟩ := List.forall_mem_cons.mp hkeys
    rw [List.flatten_cons, List.map_append, List.flatMap_cons, hitem _ hpart, ih hothers]

/-- Lines with different keys make a table of the entries that they add, in their order, if none of
    them is refused. -/
theorem read?_eq_some_iff (htext : LinesOf text (items.map write))
    (hadds : ∀ item ∈ items, Adds (write item) (add item))
    (hkeys : ∀ item ∈ items, ∀ part, add item = some part → part.map Prod.fst = keys item)
    (hnodup : (items.flatMap keys).Nodup) (entries : Entries) :
    read? text = some entries ↔
      ∃ parts, Parts add items parts ∧ parts.flatten = entries := by
  have htable {parts : List Entries} (hparts : Parts add items parts) :
      Entries.ofSections? [⟨.root, (parts.flatten.map assignment).reverse⟩] =
        some parts.flatten :=
    ofSections?_root (hparts.keys_flatten hkeys ▸ hnodup)
  rw [read?, Option.bind_eq_some_iff]
  constructor
  · rintro ⟨sections, hsections, hentries⟩
    obtain ⟨parts, hparts, rfl⟩ := (readSections?_eq_some_iff htext hadds sections).mp hsections
    exact ⟨parts, hparts, Option.some.inj ((htable hparts).symm.trans hentries)⟩
  · rintro ⟨parts, hparts, rfl⟩
    exact ⟨_, (readSections?_eq_some_iff htext hadds _).mpr ⟨parts, hparts, rfl⟩, htable hparts⟩

end Reading

end CommandTape.Toml
