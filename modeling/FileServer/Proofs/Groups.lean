import FileServer.Proofs.Refusals
import FileServer.Proofs.Trees
import FileServer.Settings.Decode

/-!
Groups of settings. Each setting has its own slot in its group, so a group that is read from a table
holds in every slot what the entry of its name stands for, and the default where there is no such
entry. Entries of other names do not count.
-/

namespace FileServer.Value

variable {σ α : Type} {v : Value} {entries : List (String × Value)}

/-! ### Names that are there once -/

theorem lookup_eq_none_of_notMem {name : String} {entries : List (String × α)}
    (h : name ∉ entries.map (·.1)) : entries.lookup name = none := by
  induction entries with
  | nil => rfl
  | cons e rest ih =>
    rw [List.map_cons, List.mem_cons, not_or] at h
    rw [List.lookup_cons, beq_false_of_ne h.1]
    exact ih h.2

theorem lookup_eq_some_of_mem {name : String} {a : α} {entries : List (String × α)}
    (hnodup : (entries.map (·.1)).Nodup) (h : (name, a) ∈ entries) :
    entries.lookup name = some a := by
  induction entries with
  | nil => cases h
  | cons e rest ih =>
    rw [List.map_cons, List.nodup_cons] at hnodup
    rcases List.mem_cons.1 h with rfl | hrest
    · simp
    · have hne : name ≠ e.1 := fun heq =>
        hnodup.1 (heq ▸ List.mem_map_of_mem (f := Prod.fst) hrest)
      rw [List.lookup_cons, beq_false_of_ne hne]
      exact ih hnodup.2 hrest

/-! ### Slots -/

/-- A setting of a group: its name, how its value is read, and where it is kept. -/
structure Slot (σ : Type) where
  name : String
  {kind : Type}
  read : Value → Decoded kind
  get : σ → kind
  set : kind → σ → σ
  get_set : ∀ b a, get (set b a) = b

namespace Slot

/-- The setter that fills a slot. -/
def setter (slot : Slot σ) : Setter σ := Value.setter slot.name slot.read slot.set

/-- The slot holds what the value stands for; where there is no value, what it held before. -/
def Holds (slot : Slot σ) (before after : σ) : Option Value → Prop
  | some v => slot.read v = .ok (slot.get after)
  | none => slot.get after = slot.get before

/-- The slot of a slot. -/
def within (outer : Slot σ) (slot : Slot outer.kind) : Slot σ where
  name := slot.name
  read := slot.read
  get a := slot.get (outer.get a)
  set b a := outer.set (slot.set b (outer.get a)) a
  get_set b a := by rw [outer.get_set, slot.get_set]

end Slot

/-- The slots have different names, and filling one of them keeps the others. -/
structure Apart (slots : List (Slot σ)) : Prop where
  nodup : (slots.map (·.name)).Nodup
  keeps : ∀ slot ∈ slots, ∀ other ∈ slots, slot.name ≠ other.name →
    ∀ b a, slot.get (other.set b a) = slot.get a

namespace Slot

variable {slots : List (Slot σ)} {slot : Slot σ} {a b c : σ} {first second : Option Value}

theorem setter_eq_ok_iff : slot.setter.2 v a = .ok b ↔
    ∃ x, slot.read v = .ok x ∧ slot.set x a = b := by
  rw [setter, Value.setter, bind_eq_ok_iff]
  refine exists_congr fun x => and_congr_right fun _ => ?_
  exact iff_of_eq (Except.ok.injEq _ _)

/-- A name leads to the slot that has it. -/
theorem lookup_setter (h : Apart slots) (hslot : slot ∈ slots) :
    (slots.map setter).lookup slot.name = some slot.setter.2 := by
  refine lookup_eq_some_of_mem ?_ (List.mem_map_of_mem hslot)
  rw [List.map_map]
  exact h.nodup

theorem lookup_setter_none {name : String} (h : ∀ slot ∈ slots, slot.name ≠ name) :
    (slots.map setter).lookup name = none := by
  refine lookup_eq_none_of_notMem ?_
  simpa [setter, Value.setter] using h

/-- The later value counts. -/
theorem Holds.trans (hfirst : slot.Holds a b first) (hsecond : slot.Holds b c second) :
    slot.Holds a c (second.or first) := by
  cases second with
  | some v => exact hsecond
  | none =>
    cases first with
    | some v => exact hfirst.trans (congrArg Except.ok (Eq.symm hsecond))
    | none => exact Eq.trans hsecond hfirst

end Slot

/-! ### Groups -/

variable {slots : List (Slot σ)} {slot : Slot σ} {a a' start : σ} {e : String × Value}

/-- One entry put into a group. -/
def put (setters : List (Setter σ)) (a : σ) (e : String × Value) : Decoded σ :=
  match setters.lookup e.1 with
  | some set => (set e.2 a).mapError (·.under e.1)
  | none => pure a

/-- The entries of a table are put into a group one after another. -/
theorem toGroup_table (kind : String) (setters : List (Setter σ)) (start : σ)
    (origin : Option String) (entries : List (String × Value)) :
    toGroup kind setters start (table origin entries) = entries.foldlM (put setters) start := rfl

theorem put_known (h : Apart slots) (hslot : slot ∈ slots) (hname : slot.name = e.1) :
    put (slots.map Slot.setter) a e = .ok a' ↔ ∃ b, slot.read e.2 = .ok b ∧ slot.set b a = a' := by
  rw [put, ← hname, Slot.lookup_setter h hslot]
  exact mapError_eq_ok_iff.trans Slot.setter_eq_ok_iff

theorem put_unknown (h : ∀ slot ∈ slots, slot.name ≠ e.1) :
    put (slots.map Slot.setter) a e = .ok a := by
  rw [put, Slot.lookup_setter_none h]
  rfl

/-- An entry can be put into a group if the slot of its name can read its value. -/
theorem exists_put (h : Apart slots)
    (hread : ∀ slot ∈ slots, slot.name = e.1 → ∃ b, slot.read e.2 = .ok b) (a : σ) :
    ∃ a', put (slots.map Slot.setter) a e = .ok a' := by
  by_cases hknown : ∃ slot ∈ slots, slot.name = e.1
  · obtain ⟨slot, hslot, hname⟩ := hknown
    obtain ⟨b, hb⟩ := hread slot hslot hname
    exact ⟨slot.set b a, (put_known h hslot hname).2 ⟨b, hb, rfl⟩⟩
  · exact ⟨a, put_unknown fun slot hslot hname => hknown ⟨slot, hslot, hname⟩⟩

/-- Putting an entry into a group fills the slot of its name, and keeps the others. -/
theorem holds_put (h : Apart slots) (hput : put (slots.map Slot.setter) a e = .ok a')
    (hslot : slot ∈ slots) : slot.Holds a a' (if slot.name = e.1 then some e.2 else none) := by
  by_cases hname : slot.name = e.1
  · obtain ⟨b, hb, rfl⟩ := (put_known h hslot hname).1 hput
    rw [if_pos hname]
    exact hb.trans (congrArg Except.ok (slot.get_set b a).symm)
  · rw [if_neg hname]
    by_cases hknown : ∃ other ∈ slots, other.name = e.1
    · obtain ⟨other, hother, hother_name⟩ := hknown
      obtain ⟨b, -, rfl⟩ := (put_known h hother hother_name).1 hput
      exact h.keeps slot hslot other hother (fun heq => hname (heq.trans hother_name)) b a
    · have hsame := put_unknown (a := a) fun other hother hname => hknown ⟨other, hother, hname⟩
      exact congrArg slot.get (Except.ok.inj (hput.symm.trans hsame))

/-- A group can be read from a table if the values under the names of its slots can be read. Every
slot then holds what is found under its name. -/
theorem toGroup_filled (kind : String) (hslots : Apart slots) (htable : v.isTable = true)
    (hnodup : v.names.Nodup)
    (hread : ∀ slot ∈ slots, ∀ w, v.at? [slot.name] = some w → ∃ b, slot.read w = .ok b)
    (start : σ) : ∃ a, toGroup kind (slots.map Slot.setter) start v = .ok a ∧
      ∀ slot ∈ slots, slot.Holds start a (v.at? [slot.name]) := by
  simp only [at?_singleton] at hread ⊢
  obtain ⟨origin, entries, rfl⟩ := exists_eq_table htable
  rw [toGroup_table]
  -- what is said of the table is said of its entries, on which the induction is
  change (entries.map (·.1)).Nodup at hnodup
  change ∀ slot ∈ slots, ∀ w, entries.lookup slot.name = some w → _ at hread
  change ∃ a, _ ∧ ∀ slot ∈ slots, slot.Holds start a (entries.lookup slot.name)
  clear htable
  induction entries generalizing start with
  | nil => exact ⟨start, rfl, fun slot _ => rfl⟩
  | cons e rest ih =>
    rw [List.map_cons, List.nodup_cons] at hnodup
    -- a name is looked up in the rest first, since no name is there twice
    have hlookup : ∀ name, (e :: rest).lookup name =
        (rest.lookup name).or (if name = e.1 then some e.2 else none) := fun name => by
      rw [List.lookup_cons]
      by_cases hname : name = e.1
      · rw [hname, lookup_eq_none_of_notMem hnodup.1]
        simp
      · simp [hname, beq_false_of_ne hname]
    obtain ⟨a, hput⟩ := exists_put (e := e) hslots (fun slot hslot hname =>
      hread slot hslot e.2 (by rw [hname, List.lookup_cons_self])) start
    obtain ⟨b, hb, hrest⟩ := ih a hnodup.2 fun slot hslot w hw =>
      hread slot hslot w (by rw [hlookup, hw]; rfl)
    refine ⟨b, by rw [List.foldlM_cons, hput]; exact hb, fun slot hslot => ?_⟩
    rw [hlookup]
    exact (holds_put hslots hput hslot).trans (hrest slot hslot)

/-- A group that has been read from a table has read what is found under the names of its slots. -/
theorem readable_of_toGroup {kind : String} (hslots : Apart slots) (htable : v.isTable = true)
    (h : toGroup kind (slots.map Slot.setter) start v = .ok a) :
    ∀ slot ∈ slots, ∀ w, v.at? [slot.name] = some w → ∃ b, slot.read w = .ok b := by
  intro slot hslot w hw
  rw [at?_singleton] at hw
  obtain ⟨origin, entries, rfl⟩ := exists_eq_table htable
  rw [toGroup_table] at h
  change entries.lookup slot.name = some w at hw
  clear htable
  induction entries generalizing start with
  | nil => cases hw
  | cons e rest ih =>
    rw [List.foldlM_cons] at h
    obtain ⟨next, hput, hrest⟩ := bind_eq_ok_iff.1 h
    by_cases hname : slot.name = e.1
    · rw [hname, List.lookup_cons_self] at hw
      cases hw
      obtain ⟨b, hb, -⟩ := (put_known hslots hslot hname).1 hput
      exact ⟨b, hb⟩
    · rw [List.lookup_cons, beq_false_of_ne hname] at hw
      exact ih hrest hw

/-! ### Groups within groups -/

/-- What the outer slot holds, its slots hold in turn, whether it is there or not. -/
theorem Slot.holds_within {outer : Slot σ} {slot : Slot outer.kind} {v? : Option Value}
    (h : outer.Holds start a v?)
    (hslot : ∀ v, v? = some v → ∀ b, outer.read v = .ok b →
      slot.Holds (outer.get start) b (v.at? [slot.name])) :
    (outer.within slot).Holds start a (v?.bind (at? [slot.name])) := by
  cases v? with
  | none => exact congrArg slot.get h
  | some v =>
    have hv := hslot v rfl _ h
    show (outer.within slot).Holds start a (v.at? [slot.name])
    cases hat : v.at? [slot.name] with
    | none => rw [hat] at hv; exact hv
    | some w => rw [hat] at hv; exact hv

/-! ### Entries under any names -/

/-- Entries can be read from a table if their values can be read, and are found under the same
names. -/
theorem toEntries_filled {read : Value → Decoded α} (htable : v.isTable = true)
    (hread : ∀ e ∈ v.entries, ∃ a, read e.2 = .ok a) :
    ∃ taken, toEntries read v = .ok taken ∧ taken.map (·.1) = v.names ∧
      ∀ name, (v.entries.lookup name).map read = (taken.lookup name).map .ok := by
  obtain ⟨origin, entries, rfl⟩ := exists_eq_table htable
  change ∀ e ∈ entries, _ at hread
  clear htable
  induction entries with
  | nil => exact ⟨[], rfl, rfl, fun _ => rfl⟩
  | cons e rest ih =>
    obtain ⟨a, ha⟩ := hread e List.mem_cons_self
    obtain ⟨taken, htaken, hnames, hlookup⟩ := ih fun e he => hread e (List.mem_cons_of_mem _ he)
    refine ⟨(e.1, a) :: taken, ?_, ?_, fun name => ?_⟩
    · rw [toEntries] at htaken ⊢
      rw [List.mapM_cons, htaken]
      dsimp only
      rw [mapError_eq_ok_iff.2 ha]
      rfl
    · exact congrArg (e.1 :: ·) hnames
    · show ((e :: rest).lookup name).map read = _
      rw [List.lookup_cons, List.lookup_cons]
      cases name == e.1 with
      | true => exact congrArg some ha
      | false => exact hlookup name

end FileServer.Value
