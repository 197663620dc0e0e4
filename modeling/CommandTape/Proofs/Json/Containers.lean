import CommandTape.Proofs.Json.Tokens

/-!
# Reading what has been written: containers

A container is a bracket, items with commas between and white space around them, and the other
bracket. What an item does to the open container is said for each kind of item on its own, and
that a container takes its items in one by one is said once, whatever the white space.

* `Reads`, `ReadsWhole`: a text is read as a value, with what comes behind it or on its own.
* `Takes`: the text of an item brings an open container from one state to another.
* `leads_container`: from the opening bracket to the closing one.
* `readsWhole_words`, `readsWhole_record`: lists of words and records as they are written.
-/

namespace CommandTape.Json

open Reading

variable {needed : Bool} {want : Want} {text : List Char} {value : Value}

/-! ## 1. Values -/

/-- A text that a delimiter begins. -/
def Delimited (text : List Char) : Prop := ∃ c cs, text = c :: cs ∧ Delimits c

theorem Delimited.append {gap rest : List Char} (hgap : IsGap gap) (hrest : Delimited rest) :
    Delimited (gap ++ rest) := by
  cases gap with
  | nil => exact hrest
  | cons c gap => exact ⟨c, gap ++ rest, rfl, .of_isSpace (hgap c List.mem_cons_self)⟩

/-- Wherever a value is due that answers to `want`, the text leads to the value. -/
def ReadsWhole (needed : Bool) (want : Want) (text : List Char) (value : Value) : Prop :=
  ∀ ⦃due⦄, Awaits due want → ∀ frames, Leads needed (between due frames) text (give value frames)

/-- Wherever a value is due in a container, the text counts as the value as soon as a delimiter is
    behind it. A number is read in this way only, for it does not show its own end. -/
def Reads (needed : Bool) (want : Want) (text : List Char) (value : Value) : Prop :=
  ∀ ⦃due⦄, Awaits due want → ∀ frame outer ⦃rest reading'⦄, Delimited rest →
    Leads needed (give value (frame :: outer)) rest reading' →
    Leads needed (between due (frame :: outer)) (text ++ rest) reading'

theorem ReadsWhole.reads (h : ReadsWhole needed want text value) : Reads needed want text value :=
  fun _ hdue frame outer _ _ _ hrest => (h hdue (frame :: outer)).append hrest

/-- A literal of a text is read as the text, however its characters are written. -/
theorem readsWhole_literal {s : String} (hread : Literal.ReadAs true text s.toList)
    (nullable : Bool) : ReadsWhole needed (.shape .text nullable) text (.text s) := by
  intro due hdue frames
  have htake : (Want.shape .text nullable).take (.text (String.ofList s.toList)) =
      .ok (.text s) := by
    rw [String.ofList_toList]
    rfl
  exact leads_text hdue hread htake frames

theorem readsWhole_text (s : String) (nullable : Bool) :
    ReadsWhole needed (.shape .text nullable) (Layout.text s.toList) (.text s) :=
  readsWhole_literal (readAs_text s.toList) nullable

theorem readsWhole_flag (b nullable : Bool) :
    ReadsWhole needed (.shape .flag nullable) (Layout.flag b) (.flag b) :=
  fun _ hdue => leads_flag hdue b rfl

/-- Where a record may be absent, it may be null. -/
theorem readsWhole_null (fields : List (Field Shape)) :
    ReadsWhole needed (.shape (.record fields) true) Layout.null .null :=
  fun _ hdue => leads_null hdue rfl

theorem reads_natural (n : UInt32) (nullable : Bool) :
    Reads needed (.shape .word nullable) (Layout.natural n.toNat) (.word n) := by
  intro due hdue frame outer rest reading' hdelimited hrest
  obtain ⟨c, cs, rfl, hc⟩ := hdelimited
  have htake := take_natural n.toNat_lt nullable
  rw [UInt32.ofNat_toNat] at htake
  refine (leads_natural hdue n.toNat_lt frame outer).append ?_
  -- The delimiter is taken in by the number, with the same outcome as behind the value.
  cases hrest with
  | cons _ hnext hrest =>
    refine .cons (fun _ => finish_natural n.toNat_lt nullable frame outer) ?_ hrest
    rw [next_of_delimits hc (NumberText.isComplete_natural _) htake]
    exact hnext

/-! ## 2. Open containers -/

namespace Frame

/-- What is due right behind the bracket that opens a container. -/
def firstDue : Frame → Due
  | keyed .. | object => .firstKey
  | listed [] _ _ => .closing
  | listed (field :: _) _ _ => .firstValue field.want
  | words _ => .firstValue (.shape .word false)
  | array => .firstValue .anything

/-- The bracket that closes a container. -/
def bracket (frame : Frame) : Char := if frame.isObject then '\x7d' else ']'

theorem delimits_bracket (frame : Frame) : Delimits frame.bracket := by
  unfold bracket
  split <;> decide

theorem closeWith_bracket {frame : Frame} (h : frame.close = .ok value) (outer : List Frame) :
    closeWith frame.bracket (frame :: outer) = .ok (give value outer) := by
  simp only [closeWith, bracket, if_true, h]
  rfl

theorem next_bracket {frame : Frame} (h : frame.close = .ok value) (outer : List Frame) :
    (between .separator (frame :: outer)).next frame.bracket = .ok (give value outer) := by
  rw [← closeWith_bracket h]
  unfold bracket
  split <;> rfl

theorem next_bracket_first {frame : Frame} (h : frame.close = .ok value) (outer : List Frame) :
    (between frame.firstDue (frame :: outer)).next frame.bracket = .ok (give value outer) := by
  rw [← closeWith_bracket h]
  cases frame with
  | listed fields parts place => cases fields <;> rfl
  | _ => rfl

end Frame

/-- The text of an item, behind the opening bracket or a comma, brings an open container from one
    state to another as soon as a delimiter is behind it. -/
def Takes (needed : Bool) (frame : Frame) (item : List Char) (frame' : Frame) : Prop :=
  ∀ ⦃due⦄, due = frame.firstDue ∨ due = frame.afterComma → ∀ outer {rest reading'},
    Delimited rest → Leads needed (between .separator (frame' :: outer)) rest reading' →
    Leads needed (between due (frame :: outer)) (item ++ rest) reading'

/-- The texts of some items, one after the other. -/
inductive TakesAll (needed : Bool) : Frame → List (List Char) → Frame → Prop
  | nil (frame : Frame) : TakesAll needed frame [] frame
  | cons {frame middle frame' : Frame} {item : List Char} {items : List (List Char)}
      (hitem : Takes needed frame item middle) (hitems : TakesAll needed middle items frame') :
      TakesAll needed frame (item :: items) frame'

/-- The texts of items with commas between and white space around them. -/
inductive Spread : List (List Char) → List Char → Prop
  | none {gap : List Char} (hgap : IsGap gap) : Spread [] gap
  | one {gap gap' item : List Char} (hgap : IsGap gap) (hgap' : IsGap gap') :
      Spread [item] (gap ++ (item ++ gap'))
  | more {gap gap' item item' text : List Char} {items : List (List Char)} (hgap : IsGap gap)
      (hgap' : IsGap gap') (hrest : Spread (item' :: items) text) :
      Spread (item :: item' :: items) (gap ++ (item ++ (gap' ++ ',' :: text)))

/-- A comma leads from one item to the next. -/
theorem next_comma (frame : Frame) (outer : List Frame) :
    (between .separator (frame :: outer)).next ',' =
      .ok (between frame.afterComma (frame :: outer)) := rfl

/-- A container takes its items in one by one, whatever the white space between them. -/
theorem Spread.leads {frame frame' : Frame} {due : Due} {items : List (List Char)}
    (hspread : Spread items text) (hitems : items ≠ []) (hall : TakesAll needed frame items frame')
    (hdue : due = frame.firstDue ∨ due = frame.afterComma) (outer : List Frame) {c : Char}
    {reading' : Reading} (hc : Delimits c)
    (hclose : (between .separator (frame' :: outer)).next c = .ok reading') :
    Leads needed (between due (frame :: outer)) (text ++ [c]) reading' := by
  induction hspread generalizing frame due with
  | none => exact absurd rfl hitems
  | @one gap gap' item hgap hgap' =>
    cases hall with
    | cons hitem hnil =>
      cases hnil
      have hdelimited : Delimited (gap' ++ [c]) := .append hgap' ⟨c, [], rfl, hc⟩
      have hrest := hitem hdue outer hdelimited ((leads_gap hgap' _ _).append (.single rfl hclose))
      simpa only [List.append_assoc] using (leads_gap hgap due (frame :: outer)).append hrest
  | @more gap gap' item item' text items hgap hgap' _ ih =>
    cases hall with
    | @cons _ middle _ _ _ hitem hrest =>
      have hcomma : Leads needed (between .separator (middle :: outer)) (',' :: (text ++ [c]))
          reading' :=
        .cons (fun _ => rfl) (next_comma middle outer)
          (ih (List.cons_ne_nil _ _) hrest (.inr rfl))
      have hdelimited : Delimited (gap' ++ ',' :: (text ++ [c])) :=
        .append hgap' ⟨',', text ++ [c], rfl, by decide⟩
      have hmore := hitem hdue outer hdelimited ((leads_gap hgap' _ _).append hcomma)
      simpa only [List.append_assoc, List.cons_append] using
        (leads_gap hgap due (frame :: outer)).append hmore

/-- What stands between the brackets of a container, and the closing bracket. -/
theorem leads_container {frame frame' : Frame} {items : List (List Char)}
    (hspread : Spread items text) (hall : TakesAll needed frame items frame')
    (hkind : frame'.isObject = frame.isObject) (hclose : frame'.close = .ok value)
    (outer : List Frame) :
    Leads needed (between frame.firstDue (frame :: outer)) (text ++ [frame.bracket])
      (give value outer) := by
  cases items with
  | nil =>
    cases hspread with
    | none hgap =>
      cases hall
      exact (leads_gap hgap _ _).append (.single rfl (Frame.next_bracket_first hclose outer))
  | cons item items =>
    have hbracket : frame.bracket = frame'.bracket := by simp only [Frame.bracket, hkind]
    rw [hbracket]
    exact hspread.leads (List.cons_ne_nil _ _) hall (.inl rfl) outer (Frame.delimits_bracket _)
      (Frame.next_bracket hclose outer)

/-- A container of a frame that the opening bracket opens. -/
theorem readsWhole_spread {frame frame' : Frame} (opening : Char) {items : List (List Char)}
    (hspace : isSpace opening = false) (hclosing : opening ≠ ']')
    (hopen : ∀ frames, openValue want frames opening =
      .ok (between frame.firstDue (frame :: frames)))
    (hspread : Spread items text) (hall : TakesAll needed frame items frame')
    (hkind : frame'.isObject = frame.isObject) (hclose : frame'.close = .ok value) :
    ReadsWhole needed want (opening :: (text ++ [frame.bracket])) value := by
  intro due hdue frames
  have hnext := (next_of_awaits hdue frames hspace hclosing).trans (hopen frames)
  exact .cons (fun _ => rfl) hnext (leads_container hspread hall hkind hclose frames)

/-! ## 3. Containers as they are written -/

theorem spread_items (level level' : Nat) (item : List Char) (items : List (List Char)) :
    Spread (item :: items) (Layout.items level (item :: items) ++ Layout.newLine level') := by
  induction items generalizing item with
  | nil =>
    simpa only [Layout.items, List.append_assoc] using
      Spread.one (isGap_newLine level) (isGap_newLine level')
  | cons item' items ih =>
    simpa only [Layout.items, List.append_assoc, List.cons_append, List.nil_append] using
      Spread.more (isGap_newLine level) isGap_nil (ih item')

theorem exists_spread (opening closing : Char) (level : Nat) (items : List (List Char)) :
    ∃ text, Layout.container opening closing level items = opening :: (text ++ [closing]) ∧
      Spread items text := by
  cases items with
  | nil => exact ⟨[], rfl, .none isGap_nil⟩
  | cons item items =>
    exact ⟨Layout.items (level + 1) (item :: items) ++ Layout.newLine level, rfl,
      spread_items (level + 1) level item items⟩

/-- A container as it is written. -/
theorem readsWhole_container {frame frame' : Frame} (opening : Char) (level : Nat)
    {items : List (List Char)} (hspace : isSpace opening = false) (hclosing : opening ≠ ']')
    (hopen : ∀ frames, openValue want frames opening =
      .ok (between frame.firstDue (frame :: frames)))
    (hall : TakesAll needed frame items frame') (hkind : frame'.isObject = frame.isObject)
    (hclose : frame'.close = .ok value) :
    ReadsWhole needed want (Layout.container opening frame.bracket level items) value := by
  obtain ⟨text, htext, hspread⟩ := exists_spread opening frame.bracket level items
  rw [htext]
  exact readsWhole_spread opening hspace hclosing hopen hspread hall hkind hclose

/-! ## 4. Lists of words -/

theorem takesAll_words (cells taken : List UInt32) :
    TakesAll needed (.words taken) (cells.map fun n => Layout.natural n.toNat)
      (.words (cells.reverse ++ taken)) := by
  induction cells generalizing taken with
  | nil => exact .nil _
  | cons n cells ih =>
    rw [List.map_cons, List.reverse_cons, List.append_assoc]
    refine .cons (fun _ hdue outer _ _ hdelimited hrest => ?_) (ih (n :: taken))
    exact reads_natural n false hdue.symm (.words taken) outer hdelimited hrest

theorem close_words (cells : List UInt32) :
    (Frame.words (cells.reverse ++ [])).close = .ok (.words cells) := by
  simp [Frame.close]

theorem readsWhole_words (cells : List UInt32) (nullable : Bool) (level : Nat) :
    ReadsWhole needed (.shape .words nullable)
      (Layout.array level (cells.map fun n => Layout.natural n.toNat)) (.words cells) :=
  readsWhole_container '[' level rfl (by decide) (fun _ => rfl) (takesAll_words cells []) rfl
    (close_words cells)

/-! ## 5. Records -/

section Records

variable {fields : List (Field Shape)} {field : Field Shape} {parts parts' : List (Option Value)}
  {place : Option Nat} {k : Nat} {key : String}

/-- A member whose key is taken in has its value put in, whatever the white space around its
    colon. -/
theorem takes_keyed {frame middle frame' : Frame} {keyText gap gap' : List Char}
    (hobject : frame.isObject = true)
    (hkeyText : Literal.ReadAs frame.isStrict keyText key.toList)
    (hkey : frame.openKey key = .ok (middle, .colon want)) (hgap : IsGap gap) (hgap' : IsGap gap')
    (hvalue : Reads needed want text value) (hput : middle.put value = (frame', .separator)) :
    Takes needed frame (keyText ++ (gap ++ ':' :: (gap' ++ text))) frame' := by
  intro due hdue outer rest reading' hdelimited hrest
  have hdue : due = .key ∨ due = .firstKey := by
    cases frame <;> first | exact hdue.symm | cases hobject
  have hkey : frame.openKey (String.ofList key.toList) = .ok (middle, .colon want) := by
    rw [String.ofList_toList]
    exact hkey
  have hcolon : (between (.colon want) (middle :: outer)).next ':' =
      .ok (between (.value want) (middle :: outer)) := rfl
  have hgive : give value (middle :: outer) = between .separator (frame' :: outer) := by
    simp only [give, hput]
  have hbehind := (leads_gap hgap' (.value want) (middle :: outer)).append
    (hvalue (.inl rfl) middle outer hdelimited (hgive ▸ hrest))
  have hbefore := (leads_key hdue hkeyText hkey outer).append
    ((leads_gap hgap _ _).append (.cons (fun _ => rfl) hcolon hbehind))
  simpa only [List.append_assoc, List.cons_append] using hbefore

/-- A member puts its value in the place of the field it names, if that is still free. -/
theorem takes_field {keyText gap gap' : List Char}
    (hkeyText : Literal.ReadAs true keyText key.toList) (hgap : IsGap gap) (hgap' : IsGap gap')
    (hplace : fields.findIdx? (·.name == key) = some k) (hfield : fields[k]? = some field)
    (hfree : parts[k]?.join = none) (hvalue : Reads needed field.want text value) :
    Takes needed (.keyed fields parts place) (keyText ++ (gap ++ ':' :: (gap' ++ text)))
      (.keyed fields (parts.set k (some value)) none) := by
  have hkey : (Frame.keyed fields parts place).openKey key =
      .ok (.keyed fields parts (some k), .colon field.want) := by
    simp [Frame.openKey, hplace, hfield, hfree]
  exact takes_keyed rfl hkeyText hkey hgap hgap' hvalue rfl

/-- A member as it is written. -/
theorem takes_member (hplace : fields.findIdx? (·.name == key) = some k)
    (hfield : fields[k]? = some field) (hfree : parts[k]?.join = none)
    (hvalue : Reads needed field.want text value) :
    Takes needed (.keyed fields parts place) (Layout.member key text)
      (.keyed fields (parts.set k (some value)) none) := by
  have hblank : IsGap [' '] := fun c hc => by rw [List.mem_singleton.mp hc]; rfl
  have h : Takes needed (.keyed fields parts place)
      (Layout.text key.toList ++ ([] ++ ':' :: ([' '] ++ text))) _ :=
    takes_field (readAs_text _) isGap_nil hblank hplace hfield hfree hvalue
  simpa [Layout.member] using h

/-- A record as it is written, each member with its field and nothing missing. -/
theorem readsWhole_record {members : List (List Char)} (level : Nat) (nullable : Bool)
    (hall : TakesAll needed (.keyed fields (fields.map fun _ => none) none) members
      (.keyed fields parts none))
    (hclose : (Frame.keyed fields parts none).close = .ok (.record parts)) :
    ReadsWhole needed (.shape (.record fields) nullable) (Layout.object level members)
      (.record parts) :=
  readsWhole_container '\x7b' level rfl (by decide) (fun _ => rfl) hall rfl hclose

end Records

end CommandTape.Json
