import FileServer.Disk.Path

/-!
Paths as lists of names. Cutting at slashes leaves none in a part and treats both sides of a slash
apart, and a path that goes on from an absolute one is absolute.
-/

namespace FileServer

/-! ### Cutting at slashes -/

theorem splitSlashes_ne_nil : ∀ bs : Bytes, splitSlashes bs ≠ []
  | [] => by simp [splitSlashes]
  | b :: rest => by
    unfold splitSlashes
    split
    · simp
    · split <;> simp

/-- A byte in front of a cut text starts a new part or lengthens the first one. -/
theorem splitSlashes_cons {b : UInt8} {rest part : Bytes} {parts : List Bytes}
    (h : splitSlashes rest = part :: parts) :
    splitSlashes (b :: rest) =
      if b = slash then [] :: part :: parts else (b :: part) :: parts := by
  rw [splitSlashes, h]

/-- No part holds a slash. -/
theorem slash_notMem_of_mem_splitSlashes {part : Bytes} :
    ∀ {bs : Bytes}, part ∈ splitSlashes bs → slash ∉ part
  | [], h => by
    rw [splitSlashes, List.mem_singleton] at h
    simp [h]
  | b :: rest, h => by
    obtain ⟨first, parts, hrest⟩ := List.exists_cons_of_ne_nil (splitSlashes_ne_nil rest)
    have ih : ∀ p ∈ first :: parts, slash ∉ p := fun p hp =>
      slash_notMem_of_mem_splitSlashes (hrest ▸ hp)
    rw [splitSlashes_cons hrest] at h
    split at h
    case isTrue =>
      rcases List.mem_cons.1 h with rfl | h
      · simp
      · exact ih part h
    case isFalse hb =>
      rcases List.mem_cons.1 h with rfl | h
      · have hfirst := ih first List.mem_cons_self
        simp only [List.mem_cons, not_or]
        exact ⟨fun heq => hb heq.symm, hfirst⟩
      · exact ih part (List.mem_cons_of_mem _ h)

/-- A text without slashes is one part. -/
theorem splitSlashes_of_notMem : ∀ {bs : Bytes}, slash ∉ bs → splitSlashes bs = [bs]
  | [], _ => rfl
  | b :: rest, h => by
    rw [List.mem_cons, not_or] at h
    rw [splitSlashes_cons (splitSlashes_of_notMem h.2), if_neg fun heq => h.1 heq.symm]

/-- Both sides of a slash are cut on their own. -/
theorem splitSlashes_append_slash (after : Bytes) : ∀ before : Bytes,
    splitSlashes (before ++ slash :: after) = splitSlashes before ++ splitSlashes after
  | [] => by
    obtain ⟨part, parts, h⟩ := List.exists_cons_of_ne_nil (splitSlashes_ne_nil after)
    rw [List.nil_append, splitSlashes_cons h, if_pos rfl, h]
    rfl
  | b :: rest => by
    obtain ⟨part, parts, h⟩ := List.exists_cons_of_ne_nil (splitSlashes_ne_nil rest)
    have ih := splitSlashes_append_slash after rest
    rw [h, List.cons_append] at ih
    rw [List.cons_append, splitSlashes_cons ih, splitSlashes_cons h]
    split <;> rfl

/-- Every byte of a text is a slash or stands in a part. -/
theorem exists_part_of_mem {b : UInt8} : ∀ {bs : Bytes}, b ∈ bs → b ≠ slash →
    ∃ part ∈ splitSlashes bs, b ∈ part
  | x :: rest, h, hb => by
    obtain ⟨part, parts, hrest⟩ := List.exists_cons_of_ne_nil (splitSlashes_ne_nil rest)
    rw [splitSlashes_cons hrest]
    rcases List.mem_cons.1 h with rfl | h
    · rw [if_neg hb]
      exact ⟨_, List.mem_cons_self, List.mem_cons_self⟩
    · obtain ⟨found, hfound, hmem⟩ := exists_part_of_mem h hb
      rw [hrest] at hfound
      split
      · exact ⟨found, List.mem_cons_of_mem _ hfound, hmem⟩
      · rcases List.mem_cons.1 hfound with rfl | hfound
        · exact ⟨_, List.mem_cons_self, List.mem_cons_of_mem _ hmem⟩
        · exact ⟨found, List.mem_cons_of_mem _ hfound, hmem⟩

/-! ### Names -/

/-- A name that a directory can give to an entry: it is not empty, holds no slash and is not made of
one or two dots. -/
structure Name.IsProper (name : Name) : Prop where
  ne_nil : name ≠ []
  no_slash : slash ∉ name
  ne_here : name ≠ Name.here
  ne_parent : name ≠ Name.parent

/-- The names of a path are neither empty nor hold a slash. -/
theorem Path.mem_names {p : Path} {name : Name} (h : name ∈ p.names) :
    name ≠ [] ∧ slash ∉ name := by
  rw [Path.names, List.mem_filter] at h
  refine ⟨?_, slash_notMem_of_mem_splitSlashes h.1⟩
  rintro rfl
  simp at h

/-- Every byte of a path is a slash or stands in a name. -/
theorem Path.exists_name_of_mem {p : Path} {b : UInt8} (h : b ∈ p.bytes) (hb : b ≠ slash) :
    ∃ name ∈ p.names, b ∈ name := by
  obtain ⟨part, hpart, hmem⟩ := exists_part_of_mem h hb
  refine ⟨part, List.mem_filter.2 ⟨hpart, ?_⟩, hmem⟩
  cases part with
  | nil => cases hmem
  | cons => rfl

/-! ### Absolute paths -/

@[simp]
theorem Path.isAbsolute_absolute (names : List Name) : (Path.absolute names).isAbsolute = true := by
  simp [Path.absolute, Path.isAbsolute]

/-- Nothing but slashes comes between names. -/
theorem Path.exists_name_of_mem_joinNames {b : UInt8} : ∀ {names : List Name},
    b ∈ joinNames names → b ≠ slash → ∃ name ∈ names, b ∈ name
  | [], h, _ => nomatch h
  | [name], h, _ => ⟨name, List.mem_cons_self, h⟩
  | name :: next :: rest, h, hb => by
    rcases List.mem_append.1 h with h | h
    · exact ⟨name, List.mem_cons_self, h⟩
    · obtain ⟨found, hfound, hmem⟩ :=
        exists_name_of_mem_joinNames ((List.mem_cons.1 h).resolve_left hb) hb
      exact ⟨found, List.mem_cons_of_mem _ hfound, hmem⟩

/-- Every byte of an absolute path is a slash or stands in one of its names. -/
theorem Path.exists_name_of_mem_absolute {names : List Name} {b : UInt8}
    (h : b ∈ (absolute names).bytes) (hb : b ≠ slash) : ∃ name ∈ names, b ∈ name :=
  exists_name_of_mem_joinNames ((List.mem_cons.1 h).resolve_left hb) hb

theorem Path.bytes_ne_nil {p : Path} (h : p.isAbsolute = true) : p.bytes ≠ [] := by
  intro heq
  simp [Path.isAbsolute, heq] at h

/-- Going on from an absolute path gives an absolute path. -/
theorem Path.isAbsolute_join {p : Path} (h : p.isAbsolute = true) (q : Path) :
    (p.join q).isAbsolute = true := by
  have hhead : ∀ tail, (p.bytes ++ tail).head? = p.bytes.head? := fun tail => by
    rw [List.head?_append, List.head?_eq_some_head (Path.bytes_ne_nil h), Option.some_or]
  unfold Path.join
  split
  · assumption
  · split <;> · rw [Path.isAbsolute, hhead]; exact h

/-- Going on by names from an absolute path gives an absolute path. -/
theorem Path.isAbsolute_foldl_child : ∀ (names : List Name) {p : Path}, p.isAbsolute = true →
    (names.foldl Path.child p).isAbsolute = true
  | [], _, h => h
  | name :: rest, _, h => isAbsolute_foldl_child rest (Path.isAbsolute_join h ⟨name⟩)

/-! ### Names of paths that go on -/

/-- A name that holds no slash does not start at the top. -/
theorem Path.isAbsolute_of_notMem {name : Name} (h : slash ∉ name) :
    Path.isAbsolute ⟨name⟩ = false := by
  cases name with
  | nil => rfl
  | cons b rest =>
    have hb : b ≠ slash := fun heq => h (heq ▸ List.mem_cons_self)
    simpa [Path.isAbsolute] using hb

/-- A path that goes on by a name has that name behind its own. -/
theorem Path.names_child {name : Name} (hne : name ≠ []) (hslash : slash ∉ name) (p : Path) :
    (p.child name).names = p.names ++ [name] := by
  have hkept : (splitSlashes name).filter (!·.isEmpty) = [name] := by
    rw [splitSlashes_of_notMem hslash]
    simp [hne]
  have hbehind : ∀ before : Bytes, (splitSlashes (before ++ slash :: name)).filter (!·.isEmpty) =
      (splitSlashes before).filter (!·.isEmpty) ++ [name] := fun before => by
    rw [splitSlashes_append_slash, List.filter_append, hkept]
  rw [Path.child, Path.join, Path.isAbsolute_of_notMem hslash, if_neg Bool.false_ne_true]
  split
  case isTrue hend =>
    -- the path is empty, or its last slash is the one in front of the name
    rcases Bool.or_eq_true _ _ ▸ hend with hempty | hend
    · have hbytes : p.bytes = [] := List.isEmpty_iff.1 hempty
      rw [Path.names, Path.names, hbytes, List.nil_append, hkept]
      rfl
    · obtain ⟨before, hbytes⟩ := List.getLast?_eq_some_iff.1 (beq_iff_eq.1 hend)
      rw [Path.names, Path.names, hbytes, List.append_assoc, List.singleton_append, hbehind,
        splitSlashes_append_slash, List.filter_append]
      simp [splitSlashes]
  case isFalse =>
    exact hbehind p.bytes

/-- Going on by names adds them behind those of the path. -/
theorem Path.names_foldl_child : ∀ {names : List Name}, (∀ name ∈ names, name ≠ [] ∧ slash ∉ name) →
    ∀ p : Path, (names.foldl Path.child p).names = p.names ++ names
  | [], _, p => (List.append_nil p.names).symm
  | name :: rest, h, p => by
    obtain ⟨⟨hne, hslash⟩, hrest⟩ := List.forall_mem_cons.1 h
    rw [List.foldl_cons, names_foldl_child hrest, names_child hne hslash, List.append_assoc]
    rfl

end FileServer
