import FileServer.MediaType.Resolve
import FileServer.Proofs.Enumerations
import Mathlib.Data.List.TakeWhile

/-!
Which type a file is sent with. The extension of its name is described here from the front of the
name, and a table with extra types by where a type is looked for: among the extra types and then
among the standard ones, first as the extension is written and then in small letters. In which order
the extra types were added does not matter.
-/

namespace FileServer

/-! ### Extensions -/

/-- A name has an extension if a dot comes after its first character that is no dot: from the last
dot on, all of it. Otherwise the extension is empty. -/
inductive IsExtension (name : String) : String → Prop
  | empty (h : '.' ∉ name.toList.dropWhile (· == '.')) : IsExtension name ""
  | fromDot {stem tail : List Char} (hname : name.toList = stem ++ '.' :: tail)
      (hstem : ∃ c ∈ stem, c ≠ '.') (htail : '.' ∉ tail) :
      IsExtension name (String.ofList ('.' :: tail))

variable {name e : String} {stem tail : List Char}

/-- A text with a dot splits at the last one. -/
theorem exists_last_dot {cs : List Char} (h : '.' ∈ cs) :
    ∃ stem tail, cs = stem ++ '.' :: tail ∧ '.' ∉ tail := by
  obtain ⟨behind, front, hsplit, hbehind⟩ :=
    List.eq_append_cons_of_mem (List.mem_reverse.2 h)
  refine ⟨front.reverse, behind.reverse, ?_, by simpa using hbehind⟩
  rw [List.reverse_eq_iff] at hsplit
  simpa using hsplit

/-- Behind the dots in front another dot follows if something else comes before it. -/
theorem dot_mem_dropWhile (htail : '.' ∉ tail) :
    '.' ∈ (stem ++ '.' :: tail).dropWhile (· == '.') ↔ ∃ c ∈ stem, c ≠ '.' := by
  by_cases hstem : ∃ c ∈ stem, c ≠ '.'
  · have hne : stem.dropWhile (· == '.') ≠ [] := by
      simpa [List.dropWhile_eq_nil_iff] using hstem
    simp [List.dropWhile_append, hne, hstem]
  · have hdots : ∀ c ∈ stem, (c == '.') = true := by simpa using hstem
    rw [List.dropWhile_append_of_pos hdots, List.dropWhile_cons_of_pos (by rfl)]
    have hnone : '.' ∉ tail.dropWhile (· == '.') := fun hmem =>
      htail ((List.dropWhile_sublist _).subset hmem)
    simp only [hnone, hstem]

/-- Read from its end, a text is cut at its last dot. -/
theorem span_reverse (stem : List Char) (htail : '.' ∉ tail) :
    (stem ++ '.' :: tail).reverse.takeWhile (· != '.') = tail.reverse ∧
      (stem ++ '.' :: tail).reverse.dropWhile (· != '.') = '.' :: stem.reverse := by
  have hplain : ∀ c ∈ tail.reverse, (c != '.') = true := by
    intro c hc
    rw [List.mem_reverse] at hc
    exact bne_iff_ne.2 (ne_of_mem_of_not_mem hc htail)
  have hreverse : (stem ++ '.' :: tail).reverse = tail.reverse ++ '.' :: stem.reverse := by simp
  rw [hreverse, List.takeWhile_append_of_pos hplain, List.dropWhile_append_of_pos hplain]
  simp

theorem extensionOf_of_stem (hname : name.toList = stem ++ '.' :: tail)
    (hstem : ∃ c ∈ stem, c ≠ '.') (htail : '.' ∉ tail) :
    extensionOf name = String.ofList ('.' :: tail) := by
  obtain ⟨hafter, hupTo⟩ := span_reverse stem htail
  rw [extensionOf, hname, hafter, hupTo, List.reverse_reverse, if_neg]
  simpa using hstem

/-- Without a dot behind the first other character there is no extension. -/
theorem extensionOf_eq_empty (h : '.' ∉ name.toList.dropWhile (· == '.')) :
    extensionOf name = "" := by
  have hall : (name.toList.reverse.dropWhile (· != '.')).all (· == '.') = true := by
    by_cases hdot : '.' ∈ name.toList
    · obtain ⟨stem, tail, hname, htail⟩ := exists_last_dot hdot
      rw [hname, dot_mem_dropWhile htail] at h
      rw [hname, (span_reverse stem htail).2]
      simpa using h
    · have hnil : name.toList.reverse.dropWhile (· != '.') = [] := by
        rw [List.dropWhile_eq_nil_iff]
        intro c hc
        exact bne_iff_ne.2 (ne_of_mem_of_not_mem (List.mem_reverse.1 hc) hdot)
      rw [hnil, List.all_nil]
  rw [extensionOf, if_pos hall]

/-- A name has one extension, which is found from its end. -/
theorem isExtension_iff : IsExtension name e ↔ e = extensionOf name := by
  constructor
  · intro h
    cases h with
    | empty h => exact (extensionOf_eq_empty h).symm
    | fromDot hname hstem htail => exact (extensionOf_of_stem hname hstem htail).symm
  · rintro rfl
    by_cases hdot : '.' ∈ name.toList.dropWhile (· == '.')
    · obtain ⟨stem, tail, hname, htail⟩ :=
        exists_last_dot ((List.dropWhile_sublist _).subset hdot)
      rw [hname, dot_mem_dropWhile htail] at hdot
      rw [extensionOf_of_stem hname hdot htail]
      exact .fromDot hname hdot htail
    · rw [extensionOf_eq_empty hdot]
      exact .empty hdot

/-! ### Tables -/

namespace MediaTypes

variable {extras : List (String × String)} {extra : String → Option String}

/-- The type that an extension has without extra types, as it is written. -/
def builtIn? (e : String) : Option String :=
  if e = ".wasm" then some "application/wasm" else MediaType.registry.lookup e

/-- The type of an extension where `extra` tells the types beside the ones built in: among the extra
types, among those built in, and then the same in small letters. -/
def typeWith (extra : String → Option String) (e : String) : String :=
  (((extra e).or (builtIn? e)).or
    ((extra (Text.lower e)).or (builtIn? (Text.lower e)))).getD MediaType.unknown

theorem asWritten?_standard (e : String) : standard.asWritten? e = builtIn? e := by
  rw [builtIn?, standard, baseline, add, asWritten?, List.lookup_cons]
  split <;> simp_all

/-- Extra types stand in front, the last that was added first. -/
theorem entries_withExtras (extras : List (String × String)) :
    (withExtras extras).entries = extras.reverse ++ standard.entries := by
  rw [withExtras]
  generalize standard = m
  induction extras generalizing m with
  | nil => rfl
  | cons e rest ih =>
    rw [List.foldl_cons, ih, List.reverse_cons, List.append_assoc]
    rfl

/-- An extension as it is written is looked for among the extra types and then among the others. -/
theorem asWritten?_withExtras (h : Enumerates extras extra) (e : String) :
    (withExtras extras).asWritten? e = (extra e).or (builtIn? e) := by
  rw [asWritten?, entries_withExtras, List.lookup_append, (h.perm (List.reverse_perm _)).lookup,
    ← asWritten?_standard, asWritten?]

theorem resolve_withExtras (h : Enumerates extras extra) (e : String) :
    (withExtras extras).resolve e = typeWith extra e := by
  rw [resolve, asWritten?_withExtras h, asWritten?_withExtras h, typeWith]
  cases (extra e).or (builtIn? e) <;> simp

/-- Added to a table, a type changes only what is looked up under its own extension. -/
theorem resolve_add_of_ne (m : MediaTypes) {key : String} (type : String) (he : e ≠ key)
    (hlower : Text.lower e ≠ key) : (m.add key type).resolve e = m.resolve e := by
  simp [resolve, asWritten?, add, List.lookup_cons, beq_false_of_ne he, beq_false_of_ne hlower]

/-- In whatever order extra types are added, the type of a file depends on the extension of its name
alone and is found among the extra types and those built in; a further type changes nothing for
extensions that differ from its own as they are written and in small letters. -/
theorem resolvePath_withExtras (h : Enumerates extras extra) (path : Path) :
    (∃! e, IsExtension (Utf8.toStringLossy (path.fileName?.getD [])) e) ∧
      (∀ e, IsExtension (Utf8.toStringLossy (path.fileName?.getD [])) e →
        (withExtras extras).resolvePath path = typeWith extra e) ∧
      ∀ (m : MediaTypes) (key type e : String), e ≠ key → Text.lower e ≠ key →
        (m.add key type).resolve e = m.resolve e := by
  refine ⟨⟨_, isExtension_iff.2 rfl, fun e he => isExtension_iff.1 he⟩, ?_, ?_⟩
  · intro e he
    rw [isExtension_iff] at he
    rw [resolvePath, ← he, resolve_withExtras h]
  · intro m key type e he hlower
    exact m.resolve_add_of_ne type he hlower

/-- A type of one's own is found in small letters, and added in the other order as well. -/
theorem resolvePath_withExtras_small :
    let extras := [(".html", "text/x-page"), (".GZ", "application/x-own")]
    let extra := fun e => extras.lookup e
    let path := Path.ofString "/c.d/.a.b.HTML"
    Enumerates extras extra ∧ Enumerates extras.reverse extra ∧
      IsExtension (Utf8.toStringLossy (path.fileName?.getD [])) ".HTML" ∧
      (withExtras extras).resolvePath path = "text/x-page" ∧
      (withExtras extras.reverse).resolvePath path = "text/x-page" := by
  intro extras extra path
  have h : Enumerates extras extra := enumerates_lookup (by decide +kernel)
  have hreverse : Enumerates extras.reverse extra := h.perm (List.reverse_perm extras)
  have he : IsExtension (Utf8.toStringLossy (path.fileName?.getD [])) ".HTML" :=
    isExtension_iff.2 (by decide +kernel)
  have htype : typeWith extra ".HTML" = "text/x-page" := by decide +kernel
  obtain ⟨-, hresolve, -⟩ := resolvePath_withExtras h path
  obtain ⟨-, hresolve', -⟩ := resolvePath_withExtras hreverse path
  exact ⟨h, hreverse, he, (hresolve _ he).trans htype, (hresolve' _ he).trans htype⟩

end MediaTypes

end FileServer
