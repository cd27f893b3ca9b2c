import FileServer.Proofs.Translation

/-!
What remains of the path of a request. Its parts are names, ups (`..`), and parts that do not count.
Read from the left, an up takes back the last name that is left, and the path is refused where there
is none:

    a   ..   .   b   c   ..   d      b and d remain, a and c are taken back
    1    0   0   1   2    1   2      names that are left behind each part

    a   ..   ..   b                  refused: the second up finds no name
    1    0   -1

Both can be told without a stack. The path is refused exactly if some front of it has more ups than
names, and a name remains exactly if this is so of no front of what follows it.
-/

namespace FileServer.Site

variable {u : String} {part : Bytes} {parts rest : List Bytes} {taken names : List Name} {n : Nat}

/-! ### Names and ups -/

/-- A part that is a name: it is not empty and not made of one or two dots. -/
def IsOrdinary (part : Bytes) : Prop := part ≠ [] ∧ part ≠ Name.here ∧ part ≠ Name.parent

instance (part : Bytes) : Decidable (IsOrdinary part) := inferInstanceAs (Decidable (_ ∧ _))

/-- Some front of the parts has more ups than names. -/
def Climbs (parts : List Bytes) : Prop :=
  ∃ front, front <+: parts ∧ front.countP (IsOrdinary ·) < front.count Name.parent

/-- How far the parts lead above the place where they begin. -/
def climb : List Bytes → Nat
  | [] => 0
  | part :: rest =>
    if IsOrdinary part then climb rest - 1
    else if part = Name.parent then climb rest + 1
    else climb rest

/-- The kinds of parts: those that do not count, ups, and names. -/
theorem part_cases (part : Bytes) :
    (part = [] ∨ part = Name.here) ∨ part = Name.parent ∨ IsOrdinary part := by
  by_cases hskip : part = [] ∨ part = Name.here
  · exact .inl hskip
  · by_cases hup : part = Name.parent
    · exact .inr (.inl hup)
    · rw [not_or] at hskip
      exact .inr (.inr ⟨hskip.1, hskip.2, hup⟩)

theorem not_isOrdinary_parent : ¬IsOrdinary Name.parent := by decide

theorem not_isOrdinary_of_skip (h : part = [] ∨ part = Name.here) : ¬IsOrdinary part := by
  rcases h with rfl | rfl <;> decide

theorem ne_parent_of_skip (h : part = [] ∨ part = Name.here) : part ≠ Name.parent := by
  rcases h with rfl | rfl <;> decide

theorem climb_skip (h : part = [] ∨ part = Name.here) : climb (part :: rest) = climb rest := by
  rw [climb, if_neg (not_isOrdinary_of_skip h), if_neg (ne_parent_of_skip h)]

theorem climb_up : climb (Name.parent :: rest) = climb rest + 1 := by
  rw [climb, if_neg not_isOrdinary_parent, if_pos rfl]

theorem climb_name (h : IsOrdinary part) : climb (part :: rest) = climb rest - 1 := by
  rw [climb, if_pos h]

/-- A front that is not empty begins with the first part. -/
theorem exists_front_cons {P : List Bytes → Prop} (hnil : ¬P []) :
    (∃ front, front <+: part :: rest ∧ P front) ↔
      ∃ front, front <+: rest ∧ P (part :: front) := by
  constructor
  · rintro ⟨front, hfront, hP⟩
    rcases List.prefix_cons_iff.1 hfront with rfl | ⟨more, rfl, hmore⟩
    · exact absurd hP hnil
    · exact ⟨more, hmore, hP⟩
  · rintro ⟨front, hfront, hP⟩
    exact ⟨part :: front, List.cons_prefix_cons.2 ⟨rfl, hfront⟩, hP⟩

/-- The parts lead above a height exactly if some front of them has that many more ups than
names. -/
theorem lt_climb_iff : n < climb parts ↔
    ∃ front, front <+: parts ∧ n + front.countP (IsOrdinary ·) < front.count Name.parent := by
  induction parts generalizing n with
  | nil => simp [climb]
  | cons part rest ih =>
    rw [exists_front_cons (P := fun front => n + front.countP (IsOrdinary ·) <
      front.count Name.parent) (by simp)]
    rcases part_cases part with hskip | rfl | hname
    · rw [climb_skip hskip, ih]
      simp [not_isOrdinary_of_skip hskip, ne_parent_of_skip hskip]
    · rw [climb_up]
      cases n with
      | zero =>
        -- the up alone is such a front
        refine iff_of_true (Nat.succ_pos _) ⟨[], List.nil_prefix, ?_⟩
        simp [not_isOrdinary_parent]
      | succ n =>
        rw [Nat.add_lt_add_iff_right, ih]
        simp only [List.countP_cons, List.count_cons_self, not_isOrdinary_parent]
        refine exists_congr fun front => and_congr_right fun _ => ?_
        simp only [decide_false, Bool.false_eq_true, if_false]
        omega
    · have hne : part ≠ Name.parent := hname.2.2
      rw [climb_name hname, Nat.lt_sub_iff_add_lt, ih]
      refine exists_congr fun front => and_congr_right fun _ => ?_
      rw [List.countP_cons_of_pos (by simpa using hname), List.count_cons_of_ne hne]
      omega

/-- The parts climb if they lead above the place where they begin. -/
theorem climbs_iff : Climbs parts ↔ 0 < climb parts := by
  rw [lt_climb_iff, Climbs]
  simp only [Nat.zero_add]

instance (parts : List Bytes) : Decidable (Climbs parts) := decidable_of_iff _ climbs_iff.symm

/-- The names that no later up takes back. -/
def lasting : List Bytes → List Name
  | [] => []
  | part :: rest =>
    if IsOrdinary part ∧ ¬Climbs rest then part :: lasting rest else lasting rest

theorem lasting_of_not (h : ¬(IsOrdinary part ∧ ¬Climbs rest)) :
    lasting (part :: rest) = lasting rest := by
  rw [lasting, if_neg h]

/-- What remains are some of the parts, in their order. -/
theorem lasting_sublist : ∀ parts : List Bytes, (lasting parts).Sublist parts
  | [] => .slnil
  | part :: rest => by
    rw [lasting]
    split
    · exact (lasting_sublist rest).cons_cons part
    · exact (lasting_sublist rest).cons part

/-- Only names remain. -/
theorem isOrdinary_of_mem_lasting : ∀ {parts : List Bytes}, part ∈ lasting parts → IsOrdinary part
  | first :: rest, h => by
    rw [lasting] at h
    split at h
    case isTrue hfirst =>
      rcases List.mem_cons.1 h with rfl | h
      · exact hfirst.1
      · exact isOrdinary_of_mem_lasting h
    case isFalse => exact isOrdinary_of_mem_lasting h

/-! ### Settling without a stack -/

theorem settle_skip (h : part = [] ∨ part = Name.here) :
    settle taken (part :: rest) = settle taken rest := by
  rw [settle_cons, if_pos]
  rcases h with rfl | rfl <;> rfl

theorem settle_up_nil : settle [] (Name.parent :: rest) = none := rfl

theorem settle_up_cons (last : Name) :
    settle (last :: taken) (Name.parent :: rest) = settle taken rest := rfl

theorem settle_ordinary (h : IsOrdinary part) : settle taken (part :: rest) =
    if 0 ∈ part then none else settle (part :: taken) rest := by
  rw [settle_cons, if_neg (by simp [h.1, h.2.1]), if_neg h.2.2]
  simp

theorem zero_notMem_of_skip (h : part = [] ∨ part = Name.here) : (0 : UInt8) ∉ part := by
  rcases h with rfl | rfl <;> decide

theorem zero_notMem_parent : (0 : UInt8) ∉ Name.parent := by decide

/-- Nothing remains of parts of which one holds a NUL, or which lead up further than there are names
to take back. -/
theorem settle_eq_none_iff : settle taken parts = none ↔
    (∃ part ∈ parts, 0 ∈ part) ∨ taken.length < climb parts := by
  induction parts generalizing taken with
  | nil => simp [settle_nil, climb]
  | cons part rest ih =>
    simp only [List.mem_cons, exists_eq_or_imp]
    rcases part_cases part with hskip | rfl | hname
    · rw [settle_skip hskip, climb_skip hskip, ih]
      simp [zero_notMem_of_skip hskip]
    · rw [climb_up]
      cases taken with
      | nil => simp [settle_up_nil]
      | cons last taken =>
        rw [settle_up_cons, ih, List.length_cons, Nat.add_lt_add_iff_right]
        simp [zero_notMem_parent]
    · rw [settle_ordinary hname, climb_name hname, Nat.lt_sub_iff_add_lt]
      split
      case isTrue hnul => simp [hnul]
      case isFalse hnul =>
        rw [ih, List.length_cons]
        simp [hnul]

/-- From where they begin, nothing remains of parts that climb. -/
theorem settle_nil_eq_none_iff :
    settle [] parts = none ↔ (∃ part ∈ parts, 0 ∈ part) ∨ Climbs parts := by
  rw [climbs_iff]
  exact settle_eq_none_iff

/-- What remains of the names so far and of the parts: as many names as the parts lead up are taken
back, and the lasting ones are added. -/
theorem eq_of_settle (h : settle taken parts = some names) :
    names = (taken.drop (climb parts)).reverse ++ lasting parts := by
  induction parts generalizing taken with
  | nil =>
    rw [settle_nil, Option.some.injEq] at h
    simp [← h, climb, lasting]
  | cons part rest ih =>
    rcases part_cases part with hskip | rfl | hname
    · rw [settle_skip hskip] at h
      rw [climb_skip hskip, lasting_of_not fun hp => not_isOrdinary_of_skip hskip hp.1, ih h]
    · cases taken with
      | nil => cases h
      | cons last taken =>
        rw [settle_up_cons] at h
        rw [climb_up, List.drop_succ_cons, lasting_of_not fun hp => not_isOrdinary_parent hp.1,
          ih h]
    · rw [settle_ordinary hname] at h
      split at h
      case isTrue => cases h
      case isFalse =>
        rw [ih h, climb_name hname, lasting]
        by_cases hclimbs : Climbs rest
        · -- the name is the first that is taken back
          obtain ⟨k, hk⟩ := Nat.exists_eq_add_one.2 (climbs_iff.1 hclimbs)
          rw [hk, if_neg fun hp => hp.2 hclimbs, List.drop_succ_cons, Nat.add_sub_cancel]
        · have hzero : climb rest = 0 := Nat.eq_zero_of_not_pos (mt climbs_iff.2 hclimbs)
          rw [hzero, if_pos ⟨hname, hclimbs⟩]
          simp

/-! ### The path of a request -/

/-- Bytes that are no path: they are no text, a part of them holds a NUL, or their parts climb. -/
def IsRefused (bytes : Bytes) : Prop :=
  (¬∃ s : String, Utf8.ofString s = bytes) ∨ (∃ part ∈ splitSlashes bytes, 0 ∈ part) ∨
    Climbs (splitSlashes bytes)

theorem namesOf_eq_none_iff : namesOf u = none ↔ IsRefused (Percent.decode u) := by
  rw [IsRefused, ← Utf8.exists_decode?_iff, ← Option.isSome_iff_exists, ← settle_nil_eq_none_iff,
    namesOf]
  split
  case isTrue htext => simp [htext]
  case isFalse htext => simp [htext]

theorem eq_lasting_of_namesOf (h : namesOf u = some names) :
    names = lasting (splitSlashes (Percent.decode u)) := by
  have hnames := eq_of_settle (namesOf_eq_some_iff.1 h).2
  rwa [List.drop_nil, List.reverse_nil, List.nil_append] at hnames

/-- The names for which a path stands can all be given to an entry, and hold no NUL. -/
theorem isProper_of_namesOf (h : namesOf u = some names) :
    ∀ name ∈ names, Name.IsProper name ∧ 0 ∉ name := by
  intro name hname
  rw [eq_lasting_of_namesOf h] at hname
  have hpart := (lasting_sublist _).subset hname
  obtain ⟨hne, hhere, hparent⟩ := isOrdinary_of_mem_lasting hname
  refine ⟨⟨hne, slash_notMem_of_mem_splitSlashes hpart, hhere, hparent⟩, fun hnul => ?_⟩
  have hrefused : namesOf u = none := namesOf_eq_none_iff.2 (.inr (.inl ⟨name, hpart, hnul⟩))
  rw [hrefused] at h
  cases h

theorem decode_append_slash (u v : String) :
    Percent.decode (u ++ "/" ++ v) = Percent.decode u ++ slash :: Percent.decode v := by
  have hslash : Utf8.ofString "/" = [slash] := by decide
  rw [Percent.decode, Utf8.ofString_append, Utf8.ofString_append, hslash, List.append_assoc,
    List.singleton_append, Percent.decodeBytes_append_slash]
  rfl

/-- Behind a slash a path goes on by the names for which the rest stands by itself. -/
theorem namesOf_append_slash {v : String} {more : List Name} (hu : namesOf u = some names)
    (hv : namesOf v = some more) : namesOf (u ++ "/" ++ v) = some (names ++ more) := by
  obtain ⟨⟨cs, hcs⟩, hsettle⟩ := namesOf_eq_some_iff.1 hu
  obtain ⟨⟨ds, hds⟩, hmore⟩ := namesOf_eq_some_iff.1 hv
  rw [namesOf_eq_some_iff, decode_append_slash, splitSlashes_append_slash, settle_append, hsettle,
    Option.bind_some]
  refine ⟨⟨cs ++ '/' :: ds, ?_⟩, ?_⟩
  · have hslash : Utf8.decode? [slash] = some ['/'] := by decide
    exact Utf8.decode?_append hcs (Utf8.decode?_append hslash hds)
  · have hsome : settle [] (splitSlashes (Percent.decode v)) ≠ none := by simp [hmore]
    rw [Ne, settle_nil_eq_none_iff, not_or] at hsome
    -- the rest does not climb by itself, so it takes back no name of what stands in front
    have hlevel : climb (splitSlashes (Percent.decode v)) = 0 :=
      Nat.eq_zero_of_not_pos (mt climbs_iff.2 hsome.2)
    cases hboth : settle names.reverse (splitSlashes (Percent.decode v)) with
    | none =>
      rcases settle_eq_none_iff.1 hboth with hnul | hclimb
      · exact absurd hnul hsome.1
      · omega
    | some all =>
      rw [eq_of_settle hboth, hlevel, List.drop_zero, List.reverse_reverse,
        eq_lasting_of_namesOf hv]

/-- The path of a request is decoded once, escape by escape; it is refused exactly if what is
decoded is no text, holds a NUL in a part, or climbs above where it begins. Otherwise it leads from
the root on by the names that no later up takes back, each of which can be given to an entry, and a
path that goes on from there behind a slash leads to where its rest leads from there. -/
theorem translate_normalises (root : Path) (u : String) :
    (∀ bytes, Percent.Decodes (Utf8.ofString u) bytes ↔ bytes = Percent.decode u) ∧
    (translate root u = none ↔ IsRefused (Percent.decode u)) ∧
    ∀ path, translate root u = some path →
      let names := lasting (splitSlashes (Percent.decode u))
      path = names.foldl Path.child root ∧ path.names = root.names ++ names ∧
        (∀ name ∈ names, Name.IsProper name ∧ 0 ∉ name) ∧
        ∀ v q, translate path v = some q → translate root (u ++ "/" ++ v) = some q := by
  refine ⟨fun bytes => Percent.decodes_iff, ?_, fun path hpath => ?_⟩
  · rw [translate, Option.map_eq_none_iff, namesOf_eq_none_iff]
  · obtain ⟨names, hnames, rfl⟩ := Option.map_eq_some_iff.1 hpath
    have hproper := isProper_of_namesOf hnames
    rw [← eq_lasting_of_namesOf hnames]
    refine ⟨rfl, ?_, hproper, fun v q hq => ?_⟩
    · exact Path.names_foldl_child (fun name hname => ⟨(hproper name hname).1.ne_nil,
        (hproper name hname).1.no_slash⟩) root
    · obtain ⟨more, hmore, rfl⟩ := Option.map_eq_some_iff.1 hq
      rw [translate, namesOf_append_slash hnames hmore, Option.map_some, List.foldl_append]

/-- Escaped slashes and dots count, a second decoding is not made, and a climb that is undone later
is refused all the same. -/
theorem translate_normalises_escapes :
    let root := Path.ofString "/srv/www"
    let directory := Path.ofString "/srv/www/b/c"
    translate root "/a/%2e%2e/b%2Fc//./x/.." = some directory ∧
      translate directory "d%2525" = some (.ofString "/srv/www/b/c/d%25") ∧
      translate root ("/a/%2e%2e/b%2Fc//./x/.." ++ "/" ++ "d%2525") =
        some (.ofString "/srv/www/b/c/d%25") ∧
      translate root "/a/..%2f../b" = none := by
  intro root directory
  have hfirst : translate root "/a/%2e%2e/b%2Fc//./x/.." = some directory := by decide +kernel
  have hsecond : translate directory "d%2525" = some (.ofString "/srv/www/b/c/d%25") := by
    decide +kernel
  obtain ⟨-, -, hpath⟩ := translate_normalises root "/a/%2e%2e/b%2Fc//./x/.."
  obtain ⟨-, -, -, hcomposed⟩ := hpath directory hfirst
  obtain ⟨-, hrefused, -⟩ := translate_normalises root "/a/..%2f../b"
  exact ⟨hfirst, hsecond, hcomposed _ _ hsecond, hrefused.2 (.inr (.inr (by decide +kernel)))⟩

end FileServer.Site
