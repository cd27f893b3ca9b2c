import FileServer.Proofs.Paths
import FileServer.Proofs.Percent
import FileServer.Site.Serve

/-!
From the path of a request to names. Parts are settled one after the other, so what stands in front
of a slash is settled first, and a proper name behind it is added.
-/

namespace FileServer.Site

variable {u : String} {part : Bytes} {name : Name}

/-! ### Settling -/

theorem settle_nil (taken : List Name) : settle taken [] = some taken.reverse := by
  rw [settle.eq_def]

theorem settle_cons (taken : List Name) (part : Bytes) (rest : List Bytes) :
    settle taken (part :: rest) =
      if part.isEmpty || part = Name.here then settle taken rest
      else if part = Name.parent then
        match taken with
        | [] => none
        | _ :: before => settle before rest
      else if part.contains 0 then none
      else settle (part :: taken) rest := by
  cases taken <;> rfl

/-- The parts at the end are settled on top of what remains of those before them. -/
theorem settle_append (ys : List Bytes) : ∀ (xs : List Bytes) (taken : List Name),
    settle taken (xs ++ ys) = (settle taken xs).bind fun names => settle names.reverse ys
  | [], taken => by rw [List.nil_append, settle_nil, Option.bind_some, List.reverse_reverse]
  | x :: xs, taken => by
    rw [List.cons_append, settle_cons, settle_cons]
    split
    · exact settle_append ys xs taken
    · split
      · cases taken with
        | nil => rfl
        | cons _ before => exact settle_append ys xs before
      · split
        · rfl
        · exact settle_append ys xs (x :: taken)

/-- An empty part leaves no name. -/
theorem settle_empty (taken : List Name) (parts : List Bytes) :
    settle taken ([] :: parts) = settle taken parts := by
  rw [settle_cons, if_pos (by simp)]

/-- An empty part at the end changes nothing. -/
theorem settle_concat_empty (xs : List Bytes) (taken : List Name) :
    settle taken (xs ++ [[]]) = settle taken xs := by
  rw [settle_append]
  cases settle taken xs with
  | none => rfl
  | some names => rw [Option.bind_some, settle_empty, settle_nil, List.reverse_reverse]

/-- A proper name is added. -/
theorem settle_name (h : Name.IsProper name) (hnul : 0 ∉ name) (taken : List Name)
    (parts : List Bytes) : settle taken (name :: parts) = settle (name :: taken) parts := by
  rw [settle_cons, if_neg, if_neg h.ne_parent, if_neg]
  · simpa using hnul
  · simp [h.ne_nil, h.ne_here]

/-- A proper name at the end is added to what remains of the parts before it. -/
theorem settle_concat_name {xs : List Bytes} {names : List Name} (h : settle [] xs = some names)
    (hname : Name.IsProper name) (hnul : 0 ∉ name) :
    settle [] (xs ++ [name]) = some (names ++ [name]) := by
  rw [settle_append, h, Option.bind_some, settle_name hname hnul, settle_nil, List.reverse_cons,
    List.reverse_reverse]

/-! ### Paths that end in a slash -/

theorem endsInSlash_iff : endsInSlash u = true ↔ ∃ cs, u.toList = cs ++ ['/'] := by
  rw [endsInSlash, beq_iff_eq, List.getLast?_eq_some_iff]

/-- What is decoded of a path that ends in a slash stays as it is when the path goes on. -/
theorem decode_of_endsInSlash (h : endsInSlash u = true) : ∃ before : Bytes,
    Percent.decode u = before ++ [slash] ∧
      ∀ s : String, Percent.decode (u ++ s) = before ++ slash :: Percent.decode s := by
  obtain ⟨cs, hu⟩ := endsInSlash_iff.1 h
  have hbytes : Utf8.ofString u = Utf8.encode cs ++ [slash] := by
    rw [Utf8.ofString, hu, Utf8.encode_append]
    rfl
  refine ⟨Percent.decodeBytes (Utf8.encode cs), ?_, fun s => ?_⟩
  · rw [Percent.decode, hbytes, Percent.decodeBytes_append_slash]
    rfl
  · rw [Percent.decode, Utf8.ofString_append, hbytes, List.append_assoc, List.singleton_append,
      Percent.decodeBytes_append_slash]
    rfl

/-- Names remain of a text that is well formed and whose parts settle. -/
theorem namesOf_eq_some_iff {names : List Name} : namesOf u = some names ↔
    (∃ cs, Utf8.decode? (Percent.decode u) = some cs) ∧
      settle [] (splitSlashes (Percent.decode u)) = some names := by
  rw [namesOf, ← Option.isSome_iff_exists]
  split
  case isTrue h => simp [h]
  case isFalse h => simp [h]

/-- The text of a name, with a slash behind it if it is that of a directory. -/
def linkBytes (name : Name) (asDirectory : Bool) : Bytes :=
  name ++ if asDirectory then [slash] else []

/-- The parts of a link settle to the names before it and its own. -/
theorem settle_linkBytes {before : Bytes} {names : List Name}
    (h : settle [] (splitSlashes before) = some names) (hname : Name.IsProper name)
    (hnul : 0 ∉ name) (asDirectory : Bool) :
    settle [] (splitSlashes (before ++ slash :: linkBytes name asDirectory)) =
      some (names ++ [name]) := by
  have hsplit := splitSlashes_of_notMem hname.no_slash
  rw [splitSlashes_append_slash, linkBytes]
  cases asDirectory with
  | true =>
    rw [if_pos rfl, splitSlashes_append_slash, hsplit, ← List.append_assoc]
    exact (settle_concat_empty _ _).trans (settle_concat_name h hname hnul)
  | false =>
    rw [if_neg Bool.false_ne_true, List.append_nil, hsplit]
    exact settle_concat_name h hname hnul

/-- A path that ends in a slash and goes on by an encoded name stands for the names that it stood
for and that name. -/
theorem namesOf_append_link {names : List Name} {text : String} {asDirectory : Bool}
    (hslash : endsInSlash u = true) (h : namesOf u = some names) (hname : Name.IsProper name)
    (hnul : 0 ∉ name) (htext : Utf8.ofString text = linkBytes name asDirectory) :
    namesOf (u ++ Percent.encode text) = some (names ++ [name]) := by
  obtain ⟨before, hu, hlonger⟩ := decode_of_endsInSlash hslash
  rw [namesOf_eq_some_iff, hu, splitSlashes_append_slash] at h
  obtain ⟨⟨cs, hvalid⟩, hsettle⟩ := h
  rw [show splitSlashes [] = [[]] from rfl, settle_concat_empty] at hsettle
  rw [namesOf_eq_some_iff, hlonger, Percent.decode_encode]
  constructor
  · have := Utf8.decode?_append hvalid (Utf8.decode?_ofString text)
    rw [List.append_assoc, List.singleton_append] at this
    exact ⟨_, this⟩
  · rw [htext]
    exact settle_linkBytes hsettle hname hnul asDirectory

/-- The same for paths on disk: the link leads to the entry of that name. -/
theorem translate_append_link {root directory : Path} {text : String} {asDirectory : Bool}
    (hslash : endsInSlash u = true) (h : translate root u = some directory)
    (hname : Name.IsProper name) (hnul : 0 ∉ name)
    (htext : Utf8.ofString text = linkBytes name asDirectory) :
    translate root (u ++ Percent.encode text) = some (directory.child name) := by
  obtain ⟨names, hnames, rfl⟩ := Option.map_eq_some_iff.1 h
  rw [translate, namesOf_append_link hslash hnames hname hnul htext, Option.map_some,
    List.foldl_append]
  rfl

end FileServer.Site
