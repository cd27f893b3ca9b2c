import FileServer.Site.Answer

/-!
The header fields of a message as a list. A field whose name is new comes last, fields of different
names stay in the order in which they are given, and a field of one name does not touch the values
of another.
-/

namespace FileServer

variable {name other : String} {new : Field} {fields : List Field}

/-! ### Fields of new names -/

theorem appendField_of_forall_ne (h : ∀ f ∈ fields, f.1 ≠ new.1) :
    appendField new fields = fields ++ [new] := by
  induction fields with
  | nil => rfl
  | cons f rest ih =>
    have hf := h f List.mem_cons_self
    rw [appendField, if_neg fun hc => hf hc.1, ih fun x hx => h x (List.mem_cons_of_mem _ hx)]
    rfl

theorem insertField_of_forall_ne (h : ∀ f ∈ fields, f.1 ≠ new.1) :
    insertField new fields = fields ++ [new] := by
  induction fields with
  | nil => rfl
  | cons f rest ih =>
    rw [insertField, if_neg (h f List.mem_cons_self),
      ih fun x hx => h x (List.mem_cons_of_mem _ hx)]
    rfl

/-! ### Fields of other names -/

/-- Inserting a field leaves those of other names as they are. -/
theorem filter_insertField_of_ne (h : new.1 ≠ name) :
    (insertField new fields).filter (·.1 == name) = fields.filter (·.1 == name) := by
  have hnew : (new.1 == name) = false := beq_false_of_ne h
  induction fields with
  | nil => simp [insertField, hnew]
  | cons f rest ih =>
    unfold insertField
    split
    case isTrue hf =>
      have hrest : (rest.filter (·.1 ≠ new.1)).filter (·.1 == name) =
          rest.filter (·.1 == name) := by
        rw [List.filter_filter]
        refine List.filter_congr fun x _ => ?_
        by_cases hx : x.1 = name
        · simp [hx, Ne.symm h]
        · simp [hx]
      rw [List.filter_cons_of_neg (by simp [hnew]), List.filter_cons_of_neg (by simp [hf, hnew]),
        hrest]
    case isFalse hf => rw [List.filter_cons, List.filter_cons, ih]

namespace Headers

theorem getAll_insert_of_ne (h : Headers) (value : Bytes) (hne : other ≠ name) :
    (h.insert other value).getAll name = h.getAll name := by
  rw [getAll, getAll, insert, filter_insertField_of_ne hne]

/-! ### Fields of the same name -/

theorem lookup_insertField (new : Field) (fields : List Field) :
    (insertField new fields).lookup new.1 = some new.2 := by
  induction fields with
  | nil => rw [insertField, List.lookup_cons, beq_self_eq_true]
  | cons f rest ih =>
    unfold insertField
    split
    case isTrue => rw [List.lookup_cons, beq_self_eq_true]
    case isFalse hf => rw [List.lookup_cons, beq_false_of_ne (Ne.symm hf), ih]

/-- A field that is inserted is found. -/
theorem get?_insert (h : Headers) (name : String) (value : Bytes) :
    (h.insert name value).get? name = some value := lookup_insertField (name, value) h.fields

/-- The fields without those of one name. -/
def without (h : Headers) (name : String) : Headers :=
  ⟨h.fields.filter (·.1 ≠ name), h.grouped.filter⟩

theorem get?_without (h : Headers) (name : String) : (h.without name).get? name = none := by
  rw [get?, List.lookup_eq_none_iff]
  intro f hf
  have hname : f.1 ≠ name := by simpa using (List.mem_filter.1 hf).2
  simpa using hname.symm

/-- The first value of a name is the first of all values of that name. -/
theorem get?_eq_head? (h : Headers) (name : String) : h.get? name = (h.getAll name).head? := by
  unfold Headers.get? Headers.getAll
  induction h.fields with
  | nil => rfl
  | cons f rest ih =>
    by_cases hname : f.1 = name
    · rw [List.lookup_cons, beq_iff_eq.2 hname.symm,
        List.filter_cons_of_pos (by exact beq_iff_eq.2 hname)]
      rfl
    · rw [List.lookup_cons, beq_false_of_ne (Ne.symm hname),
        List.filter_cons_of_neg (by exact fun hc => hname (beq_iff_eq.1 hc))]
      exact ih

/-! ### Fields from texts -/

/-- The field of a name and a text. -/
def fieldOf (f : String × String) : Field := (f.1, Utf8.ofString f.2)

/-- Fields of different names stand in the order in which they are given. -/
theorem ofTexts_fields {texts : List (String × String)} (h : (texts.map (·.1)).Nodup) :
    (ofTexts texts).fields = texts.map fieldOf := by
  suffices hgo : ∀ (texts : List (String × String)) (start : Headers),
      (texts.map (·.1)).Nodup → (∀ f ∈ start.fields, ∀ t ∈ texts, f.1 ≠ t.1) →
      (texts.foldl (fun h f => h.append f.1 (Utf8.ofString f.2)) start).fields =
        start.fields ++ texts.map fieldOf by
    have := hgo texts {} h (by simp)
    rwa [List.nil_append] at this
  intro texts
  induction texts with
  | nil => intro start _ _; simp
  | cons t rest ih =>
    intro start hnodup hstart
    rw [List.map_cons, List.nodup_cons] at hnodup
    have happend : (start.append t.1 (Utf8.ofString t.2)).fields = start.fields ++ [fieldOf t] :=
      appendField_of_forall_ne fun f hf => hstart f hf t List.mem_cons_self
    rw [List.foldl_cons, ih _ hnodup.2, happend, List.append_assoc, List.singleton_append,
      List.map_cons]
    intro f hf x hx
    rw [happend, List.mem_append, List.mem_singleton] at hf
    rcases hf with hf | rfl
    · exact hstart f hf x (List.mem_cons_of_mem _ hx)
    · exact fun heq => hnodup.1 (heq ▸ List.mem_map_of_mem hx)

/-- The values of a name among fields of different names. -/
theorem getAll_ofTexts {texts : List (String × String)} (h : (texts.map (·.1)).Nodup) :
    (ofTexts texts).getAll name =
      (texts.filter (·.1 == name)).map fun t => Utf8.ofString t.2 := by
  rw [getAll, ofTexts_fields h, List.filter_map, List.map_map]
  rfl

end Headers

end FileServer
