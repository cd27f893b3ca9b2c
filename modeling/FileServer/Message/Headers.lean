import FileServer.Text.Utf8

/-!
Header fields of a message. Names are compared in small letters; values are bytes. Fields of one
name stand together, at the place where the name first came.
-/

namespace FileServer

/-- Characters of a token: a method or the name of a header. -/
def isTokenChar (c : Char) : Bool :=
  c.isAlphanum || "!#$%&'*+-.^_|~".toList.contains c || c.toNat == 0x60

/-- A name and a value. -/
abbrev Field := String × Bytes

/-- The name of a header in small letters, if the bytes spell a token of acceptable length. -/
def headerName? (bs : Bytes) : Option String :=
  let cs := bs.map fun b => Char.ofNat b.toNat
  if cs.isEmpty || 65535 < cs.length || !cs.all isTokenChar then none
  else some (String.ofList (cs.map Char.toLower))

/-- Whether bytes may stand in the value of a header: no control byte but the tab. -/
def isHeaderValue (bs : Bytes) : Bool := bs.all fun b => b == 9 || (32 ≤ b && b != 127)

/-- The text of a value that holds only tabs and visible ASCII. -/
def visibleText? (bs : Bytes) : Option String :=
  if bs.all fun b => b == 9 || (32 ≤ b && b < 127)
  then some (String.ofList (bs.map fun b => Char.ofNat b.toNat)) else none

/-- Fields of one name stand together. -/
def Grouped : List Field → Prop
  | [] => True
  | [_] => True
  | f :: g :: rest => (f.1 = g.1 ∨ ∀ x ∈ g :: rest, x.1 ≠ f.1) ∧ Grouped (g :: rest)

/-- Adds a field behind the last one of its name, or at the end. -/
def appendField (new : Field) : List Field → List Field
  | [] => [new]
  | f :: rest =>
    if f.1 = new.1 ∧ ∀ x ∈ rest, x.1 ≠ new.1 then f :: new :: rest
    else f :: appendField new rest

/-- Puts one field in the place of all those of its name, or at the end. -/
def insertField (new : Field) : List Field → List Field
  | [] => [new]
  | f :: rest =>
    if f.1 = new.1 then new :: rest.filter (·.1 ≠ new.1) else f :: insertField new rest

/-- Adding a field adds that field and no other. -/
theorem mem_appendField {new x : Field} {fields : List Field} :
    x ∈ appendField new fields ↔ x = new ∨ x ∈ fields := by
  induction fields with
  | nil => simp [appendField]
  | cons f rest ih =>
    unfold appendField
    split
    · simp only [List.mem_cons, or_left_comm]
    · simp only [List.mem_cons, ih, or_left_comm]

/-- Fields after an insertion are the new one and old ones. -/
theorem mem_insertField {new x : Field} {fields : List Field} (h : x ∈ insertField new fields) :
    x = new ∨ x ∈ fields := by
  induction fields with
  | nil => simpa [insertField] using h
  | cons f rest ih =>
    unfold insertField at h
    split at h
    · rcases List.mem_cons.1 h with h | h
      · exact .inl h
      · exact .inr (List.mem_cons_of_mem _ (List.mem_filter.1 h).1)
    · rcases List.mem_cons.1 h with rfl | h
      · exact .inr List.mem_cons_self
      · exact (ih h).imp_right (List.mem_cons_of_mem _)

/-- A field comes in front of grouped ones if it continues the first group or starts a new one. -/
theorem Grouped.cons {f : Field} {fields : List Field} (h : Grouped fields)
    (hf : (∃ g rest, fields = g :: rest ∧ f.1 = g.1) ∨ ∀ x ∈ fields, x.1 ≠ f.1) :
    Grouped (f :: fields) := by
  cases fields with
  | nil => trivial
  | cons g rest =>
    refine ⟨?_, h⟩
    rcases hf with ⟨_, _, heq, hname⟩ | hf
    · exact .inl (by cases heq; exact hname)
    · exact .inr hf

/-- Grouped fields stay grouped without the first. -/
theorem Grouped.tail {f : Field} {fields : List Field} (h : Grouped (f :: fields)) :
    Grouped fields := by
  cases fields with
  | nil => trivial
  | cons g rest => exact h.2

/-- Adding a field keeps groups together. -/
theorem Grouped.appendField {new : Field} {fields : List Field} (h : Grouped fields) :
    Grouped (appendField new fields) := by
  induction fields with
  | nil => trivial
  | cons f rest ih =>
    unfold FileServer.appendField
    split
    case isTrue hc =>
      exact (h.tail.cons (.inr hc.2)).cons (.inl ⟨new, rest, rfl, hc.1⟩)
    case isFalse hc =>
      refine (ih h.tail).cons ?_
      cases rest with
      | nil =>
        exact .inr fun x hx heq =>
          hc ⟨(List.mem_singleton.1 hx ▸ heq).symm, fun _ h => by simp at h⟩
      | cons g rest =>
        rcases h.1 with hname | hnew
        · refine .inl ⟨g, (FileServer.appendField new (g :: rest)).tail, ?_, hname⟩
          unfold FileServer.appendField
          split <;> rfl
        · refine .inr fun x hx => ?_
          rcases mem_appendField.1 hx with rfl | hx
          · intro heq
            exact hc ⟨heq.symm, fun y hy => heq ▸ hnew y hy⟩
          · exact hnew x hx

/-- Leaving out all fields of one name keeps groups together. -/
theorem Grouped.filter {name : String} {fields : List Field} (h : Grouped fields) :
    Grouped (fields.filter (·.1 ≠ name)) := by
  induction fields with
  | nil => trivial
  | cons f rest ih =>
    rw [List.filter_cons]
    split
    case isFalse => exact ih h.tail
    case isTrue hf =>
      refine (ih h.tail).cons ?_
      cases rest with
      | nil => exact .inr fun x hx => by simp at hx
      | cons g rest =>
        rcases h.1 with hname | hnew
        · refine .inl ⟨g, rest.filter (·.1 ≠ name), ?_, hname⟩
          rw [List.filter_cons_of_pos (hname ▸ hf)]
        · exact .inr fun x hx => hnew x (List.mem_filter.1 hx).1

/-- Putting a field in the place of others keeps groups together. -/
theorem Grouped.insertField {new : Field} {fields : List Field} (h : Grouped fields) :
    Grouped (insertField new fields) := by
  induction fields with
  | nil => trivial
  | cons f rest ih =>
    unfold FileServer.insertField
    split
    case isTrue hc =>
      exact h.tail.filter.cons (.inr fun x hx => by simpa using (List.mem_filter.1 hx).2)
    case isFalse hc =>
      refine (ih h.tail).cons ?_
      cases rest with
      | nil => exact .inr fun x hx heq => hc (List.mem_singleton.1 hx ▸ heq).symm
      | cons g rest =>
        rcases h.1 with hname | hnew
        · refine .inl ⟨g, (FileServer.insertField new (g :: rest)).tail, ?_, hname⟩
          unfold FileServer.insertField
          rw [if_neg (hname ▸ hc)]
          rfl
        · refine .inr fun x hx => ?_
          rcases mem_insertField hx with rfl | hx
          · exact fun heq => hc heq.symm
          · exact hnew x hx

/-- The header fields of a message in order. -/
structure Headers where
  fields : List Field := []
  grouped : Grouped fields := by trivial
  deriving Repr, DecidableEq

namespace Headers

/-- Adds a value to those of the name. -/
def append (h : Headers) (name : String) (value : Bytes) : Headers :=
  ⟨appendField (name, value) h.fields, h.grouped.appendField⟩

/-- Makes the value the only one of the name. -/
def insert (h : Headers) (name : String) (value : Bytes) : Headers :=
  ⟨insertField (name, value) h.fields, h.grouped.insertField⟩

/-- The first value of a name. -/
def get? (h : Headers) (name : String) : Option Bytes := h.fields.lookup name

/-- All values of a name. -/
def getAll (h : Headers) (name : String) : List Bytes :=
  (h.fields.filter (·.1 == name)).map (·.2)

end Headers

end FileServer
