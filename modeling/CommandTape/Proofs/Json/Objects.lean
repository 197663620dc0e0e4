import CommandTape.Proofs.Json.Documents
import Mathlib.Data.List.Nodup

/-!
# Objects with members in any order

An object is written for a list of names, some with a text and some without. Its members are those
that have a text, in any order, and between them any members with other names. Reading puts each
value in the place of its field, so the order leaves no trace, and passes over the others.

* `ObjectOf`, `objectOf_layout`: the texts of an object for a list of names, and that the object as
  it is written is one of them.
* `takesAll_members`: members fill the record part by part, whatever their order.
* `readsWhole_object`: every text of an object is read as one record.
-/

namespace CommandTape.Json

open Reading

/-! ## 1. Texts of objects -/

/-- A member with the name that its key spells. -/
structure Named extends Member where
  name : String

structure Named.IsSpelled (m : Named) : Prop where
  key : Spells m.name.toList m.key
  before : IsGap m.before
  after : IsGap m.after

section Given

variable {given : List (String × Option (List Char))} {members : List Named} {m : Named}
  {name : String} {text : List Char}

/-- The members with one of the names are those that a text is given for, in any order. -/
def Carries (given : List (String × Option (List Char))) (members : List Named) : Prop :=
  ((members.filter fun m => m.name ∈ given.map (·.1)).map fun m => (m.name, some m.value)).Perm
    (given.filter fun g => g.2.isSome)

/-- The text is an object with a member for each name that a text is given for, in any order and
    with any others among them. What the others hold is a document. -/
inductive ObjectOf (given : List (String × Option (List Char))) : List Char → Prop
  | mk {members : List Named} {text : List Char} (hspread : Spread (members.map (·.text)) text)
      (hspelled : ∀ m ∈ members, m.IsSpelled) (hcarries : Carries given members)
      (hothers : ∀ m ∈ members, m.name ∉ given.map (·.1) → Document m.value) :
      ObjectOf given ('\x7b' :: (text ++ ['\x7d']))

theorem Carries.mem_given (h : Carries given members) (hm : m ∈ members)
    (hname : m.name ∈ given.map (·.1)) : (m.name, some m.value) ∈ given := by
  have hkept : m ∈ members.filter fun m => m.name ∈ given.map (·.1) :=
    List.mem_filter.mpr ⟨hm, decide_eq_true hname⟩
  exact List.mem_of_mem_filter (h.mem_iff.mp (List.mem_map_of_mem hkept))

theorem Carries.exists_member (h : Carries given members) (hgiven : (name, some text) ∈ given) :
    ∃ m ∈ members, m.name = name := by
  have hkept : (name, some text) ∈ given.filter fun g => g.2.isSome :=
    List.mem_filter.mpr ⟨hgiven, rfl⟩
  obtain ⟨m, hm, heq⟩ := List.mem_map.mp (h.mem_iff.mpr hkept)
  exact ⟨m, List.mem_of_mem_filter hm, (Prod.mk.inj heq).1⟩

/-- Only names that are not among the given ones may come again. -/
theorem Carries.pairwise (h : Carries given members) (hnodup : (given.map (·.1)).Nodup) :
    members.Pairwise fun m m' => m.name ∈ given.map (·.1) → m'.name ≠ m.name := by
  have hgiven : ((given.filter fun g => g.2.isSome).map (·.1)).Nodup :=
    hnodup.sublist (List.filter_sublist.map _)
  have hkept := (List.Perm.map (·.1) h).nodup_iff.mpr hgiven
  rw [List.map_map, List.Nodup, List.pairwise_map, List.pairwise_filter] at hkept
  refine hkept.imp fun hne hname heq => ?_
  exact hne (decide_eq_true hname) (decide_eq_true (heq ▸ hname)) heq.symm

/-! ## 2. Objects as they are written -/

/-- A member as it is written. -/
def Named.written (name : String) (value : List Char) : Named :=
  ⟨⟨Layout.text name.toList, [], [' '], value⟩, name⟩

theorem Named.text_written (name : String) (value : List Char) :
    (written name value).text = Layout.member name value := by
  simp [written, Member.text, Layout.member]

theorem Named.isSpelled_written (name : String) (value : List Char) :
    (written name value).IsSpelled where
  key := spells_text name.toList
  before := isGap_nil
  after := by
    intro c hc
    rw [List.mem_singleton.mp hc]
    rfl

theorem exists_of_mem_written
    (hm : m ∈ given.filterMap fun g => g.2.map (Named.written g.1)) :
    ∃ name value, (name, some value) ∈ given ∧ m = Named.written name value := by
  obtain ⟨⟨name, text?⟩, hgiven, hmember⟩ := List.mem_filterMap.mp hm
  obtain ⟨value, rfl, rfl⟩ := Option.map_eq_some_iff.mp hmember
  exact ⟨name, value, hgiven, rfl⟩

theorem carries_written (given : List (String × Option (List Char))) :
    Carries given (given.filterMap fun g => g.2.map (Named.written g.1)) := by
  have hall : ∀ m ∈ given.filterMap fun g => g.2.map (Named.written g.1),
      decide (m.name ∈ given.map (·.1)) = true := by
    intro m hm
    obtain ⟨name, value, hgiven, rfl⟩ := exists_of_mem_written hm
    exact decide_eq_true (List.mem_map_of_mem hgiven)
  have hpair : (fun g : String × Option (List Char) =>
      (g.2.map (Named.written g.1)).map fun m => (m.name, some m.value)) =
      Option.guard fun g => g.2.isSome := by
    funext ⟨name, text?⟩
    cases text? <;> rfl
  rw [Carries, List.filter_eq_self.mpr hall, List.map_filterMap, hpair, List.filterMap_eq_filter]

/-- An object as it is written has its members in the order of the names. -/
theorem objectOf_layout (level : Nat) (given : List (String × Option (List Char))) :
    ObjectOf given
      (Layout.object level (given.filterMap fun g => g.2.map (Layout.member g.1))) := by
  have htexts : (given.filterMap fun g => g.2.map (Layout.member g.1)) =
      (given.filterMap fun g => g.2.map (Named.written g.1)).map (·.text) := by
    simp only [List.map_filterMap, Option.map_map, Function.comp_def, Named.text_written]
  obtain ⟨text, htext, hspread⟩ := exists_spread '\x7b' '\x7d' level
    ((given.filterMap fun g => g.2.map (Named.written g.1)).map (·.text))
  rw [Layout.object, htexts, htext]
  refine .mk hspread (fun m hm => ?_) (carries_written given) fun m hm hname => ?_
  · obtain ⟨name, value, -, rfl⟩ := exists_of_mem_written hm
    exact Named.isSpelled_written name value
  · obtain ⟨name, value, hgiven, rfl⟩ := exists_of_mem_written hm
    exact absurd (List.mem_map_of_mem hgiven) hname

end Given

/-! ## 3. Fields -/

/-- A field of a record, the text of its member, and the part of the record that it is read as. -/
structure Entry where
  field : Field Shape
  text? : Option (List Char)
  part? : Option Value

namespace Entry

def name (e : Entry) : String := e.field.name

/-- A field that may be absent has no text and no part, or its text is read as its part. -/
inductive Fits : Entry → Prop
  | absent {field : Field Shape} (h : field.mayBeAbsent = true) : Fits ⟨field, none, none⟩
  | present {field : Field Shape} {text : List Char} {value : Value}
      (h : Reads false field.want text value) : Fits ⟨field, some text, some value⟩

end Entry

section Members

variable {entries : List Entry} {e : Entry} {j k : Nat} {name : String} {taken : List String}
  {members : List Named}

def fieldsOf (entries : List Entry) : List (Field Shape) := entries.map (·.field)

/-- The parts of a record as far as the names have been taken in. -/
def partsOf (entries : List Entry) (taken : List String) : List (Option Value) :=
  entries.map fun e => if e.name ∈ taken then e.part? else none

theorem eq_of_name_eq (hnodup : (entries.map (·.name)).Nodup) {e' : Entry}
    (he : entries[k]? = some e) (he' : entries[j]? = some e') (hname : e'.name = e.name) :
    j = k := by
  obtain ⟨hk, rfl⟩ := List.getElem?_eq_some_iff.mp he
  obtain ⟨hj, rfl⟩ := List.getElem?_eq_some_iff.mp he'
  have hj' : j < (entries.map (·.name)).length := by simpa using hj
  have hk' : k < (entries.map (·.name)).length := by simpa using hk
  have hget : (entries.map (·.name))[j] = (entries.map (·.name))[k] := by
    rwa [List.getElem_map, List.getElem_map]
  exact (List.Nodup.getElem_inj_iff hnodup).mp hget

theorem findIdx?_name (hnodup : (entries.map (·.name)).Nodup) (he : entries[k]? = some e) :
    (fieldsOf entries).findIdx? (·.name == e.name) = some k := by
  obtain ⟨hk, hget⟩ := List.getElem?_eq_some_iff.mp he
  refine List.findIdx?_eq_some_iff_getElem.mpr ⟨by simpa [fieldsOf] using hk, ?_, ?_⟩
  · simp [fieldsOf, hget, Entry.name]
  · intro j hjk hname
    have hj : j < entries.length := Nat.lt_trans hjk hk
    refine Nat.ne_of_lt hjk (eq_of_name_eq hnodup he (List.getElem?_eq_getElem hj) ?_)
    simpa [fieldsOf, Entry.name] using hname

theorem findIdx?_other (h : name ∉ entries.map (·.name)) :
    (fieldsOf entries).findIdx? (·.name == name) = none := by
  refine List.findIdx?_eq_none_iff.mpr fun field hfield => ?_
  obtain ⟨e, he, rfl⟩ := List.mem_map.mp hfield
  refine beq_eq_false_iff_ne.mpr fun hname => h ?_
  exact hname ▸ List.mem_map_of_mem he

theorem partsOf_set (hnodup : (entries.map (·.name)).Nodup) (he : entries[k]? = some e) :
    (partsOf entries taken).set k e.part? = partsOf entries (e.name :: taken) := by
  unfold partsOf
  refine List.ext_getElem? fun j => ?_
  rw [List.getElem?_set, List.getElem?_map, List.getElem?_map]
  by_cases hkj : k = j
  · subst hkj
    obtain ⟨hk, hget⟩ := List.getElem?_eq_some_iff.mp he
    simp [hk, hget]
  · rw [if_neg hkj]
    cases he' : entries[j]? with
    | none => rfl
    | some e' =>
      have hname : e'.name ≠ e.name := fun h => hkj (eq_of_name_eq hnodup he he' h).symm
      simp [hname]

theorem partsOf_other (h : name ∉ entries.map (·.name)) :
    partsOf entries (name :: taken) = partsOf entries taken := by
  refine List.map_congr_left fun e he => ?_
  have hname : e.name ≠ name := fun hname => h (hname ▸ List.mem_map_of_mem he)
  simp [hname]

/-- Members are taken in one by one, and those in front have given the parts of their names. A name
    of a field comes once, so the place of its part is still free. -/
theorem takesAll_members (hnodup : (entries.map (·.name)).Nodup)
    (hfits : ∀ e ∈ entries, e.Fits) (hspelled : ∀ m ∈ members, m.IsSpelled)
    (hgiven : ∀ m ∈ members, m.name ∈ entries.map (·.name) →
      ∃ e ∈ entries, e.name = m.name ∧ e.text? = some m.value)
    (hothers : ∀ m ∈ members, m.name ∉ entries.map (·.name) → Document m.value)
    (honce : members.Pairwise fun m m' => m.name ∈ entries.map (·.name) → m'.name ≠ m.name)
    (hfresh : ∀ m ∈ members, m.name ∈ entries.map (·.name) → m.name ∉ taken) :
    TakesAll false (.keyed (fieldsOf entries) (partsOf entries taken) none)
      (members.map (·.text))
      (.keyed (fieldsOf entries)
        (partsOf entries ((members.map (·.name)).reverse ++ taken)) none) := by
  induction members generalizing taken with
  | nil => exact .nil _
  | cons m members ih =>
    rw [List.forall_mem_cons] at hspelled hgiven hothers hfresh
    rw [List.pairwise_cons] at honce
    obtain ⟨hkey, hbefore, hafter⟩ := hspelled.1
    have hrest : ∀ m' ∈ members, m'.name ∈ entries.map (·.name) → m'.name ∉ m.name :: taken := by
      intro m' hm' hmem
      refine List.not_mem_cons_of_ne_of_not_mem (fun hname => ?_) (hfresh.2 m' hm' hmem)
      exact honce.1 m' hm' (hname ▸ hmem) hname
    have hmore := ih hspelled.2 hgiven.2 hothers.2 honce.2 hrest
    rw [List.map_cons, List.map_cons, List.reverse_cons, List.append_assoc]
    refine .cons ?_ hmore
    -- A member with a name that no field has leaves the parts as they are.
    by_cases hmem : m.name ∈ entries.map (·.name)
    · obtain ⟨e, he, hname, htext⟩ := hgiven.1 hmem
      obtain ⟨k, hk⟩ := List.mem_iff_getElem?.mp he
      cases hfits e he with
      | absent => cases htext
      | @present field text value hvalue =>
        cases htext
        have hplace := findIdx?_name hnodup hk
        have hfield : (fieldsOf entries)[k]? = some field := by
          rw [fieldsOf, List.getElem?_map, hk]
          rfl
        have hfree : (partsOf entries taken)[k]?.join = none := by
          rw [partsOf, List.getElem?_map, hk, Option.map_some, hname, if_neg (hfresh.1 hmem)]
          rfl
        rw [hname] at hplace
        rw [← hname, ← partsOf_set hnodup hk]
        exact takes_field hkey.readAs hbefore hafter hplace hfield hfree hvalue
    · rw [partsOf_other hmem]
      have hopen : (Frame.keyed (fieldsOf entries) (partsOf entries taken) none).openKey m.name =
          .ok (.keyed (fieldsOf entries) (partsOf entries taken) none, .colon .anything) := by
        simp [Frame.openKey, findIdx?_other hmem]
      exact takes_keyed rfl hkey.readAs hopen hbefore hafter (hothers.1 hmem).reads rfl

/-- A record that is given its parts is complete, since fields without a part may be absent. -/
theorem close_keyed (hfits : ∀ e ∈ entries, e.Fits) :
    (Frame.keyed (fieldsOf entries) (entries.map (·.part?)) none).close =
      .ok (.record (entries.map (·.part?))) := by
  refine if_pos ?_
  rw [fieldsOf, List.zip_map', List.all_map, List.all_eq_true]
  intro e he
  cases hfits e he with
  | absent h => exact h
  | present _ => rfl

theorem partsOf_nil (entries : List Entry) :
    partsOf entries [] = (fieldsOf entries).map fun _ => none := by
  simp [partsOf, fieldsOf, Function.comp_def]

/-- Once every name that has a text is taken in, all the parts are there. -/
theorem partsOf_all (hfits : ∀ e ∈ entries, e.Fits)
    (h : ∀ e ∈ entries, e.text?.isSome → e.name ∈ taken) :
    partsOf entries taken = entries.map (·.part?) := by
  refine List.map_congr_left fun e he => ?_
  have htaken := h e he
  cases hfits e he with
  | absent _ => exact ite_self none
  | present _ => exact if_pos (htaken rfl)

/-- However an object is written, it is read as one record: the parts of its fields in their
    order. -/
theorem readsWhole_object {text : List Char} (nullable : Bool)
    (hfits : ∀ e ∈ entries, e.Fits) (hnodup : (entries.map (·.name)).Nodup)
    (h : ObjectOf (entries.map fun e => (e.name, e.text?)) text) :
    ReadsWhole false (.shape (.record (fieldsOf entries)) nullable) text
      (.record (entries.map (·.part?))) := by
  have hnames : (entries.map fun e => (e.name, e.text?)).map (·.1) = entries.map (·.name) := by
    rw [List.map_map]
    rfl
  cases h with
  | @mk members text hspread hspelled hcarries hothers =>
    have hgiven : ∀ m ∈ members, m.name ∈ entries.map (·.name) →
        ∃ e ∈ entries, e.name = m.name ∧ e.text? = some m.value := by
      intro m hm hname
      obtain ⟨e, he, heq⟩ := List.mem_map.mp (hcarries.mem_given hm (hnames ▸ hname))
      exact ⟨e, he, (Prod.mk.inj heq).1, (Prod.mk.inj heq).2⟩
    have honce := hcarries.pairwise (hnames ▸ hnodup)
    rw [hnames] at honce hothers
    have hall : TakesAll false (.keyed (fieldsOf entries) (partsOf entries []) none) _ _ :=
      takesAll_members hnodup hfits hspelled hgiven hothers honce fun _ _ _ => List.not_mem_nil
    have hparts : partsOf entries ((members.map (·.name)).reverse ++ []) =
        entries.map (·.part?) := by
      refine partsOf_all hfits fun e he htext => ?_
      obtain ⟨text, htext⟩ := Option.isSome_iff_exists.mp htext
      have hmem : (e.name, some text) ∈ entries.map fun e => (e.name, e.text?) :=
        htext ▸ List.mem_map_of_mem he
      obtain ⟨m, hm, hname⟩ := hcarries.exists_member hmem
      rw [List.append_nil, List.mem_reverse, ← hname]
      exact List.mem_map_of_mem hm
    rw [partsOf_nil, hparts] at hall
    exact readsWhole_spread '\x7b' rfl (by decide) (fun _ => rfl) hspread hall rfl
      (close_keyed hfits)

end Members

end CommandTape.Json
