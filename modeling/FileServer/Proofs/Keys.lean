import FileServer.Proofs.Letters
import FileServer.Proofs.Trees
import FileServer.Settings.Environment

/-!
Keys as paths. A key of names alone leads through tables, so setting a value at it is merging the
value, wrapped in a table for every name. Values that are set one after another come to one table,
which is merged as a whole.
-/

namespace FileServer

namespace Key

/-- The names behind the first one. -/
def below (k : Key) : List String :=
  k.steps.filterMap fun
    | .name s => some s
    | .index _ => none

/-- The path that a key leads along, in small letters. -/
def path (k : Key) : List String := (k.head :: k.below).map Text.lower

/-- No step of the key is a place in a sequence. -/
def IsNamed (k : Key) : Prop := k.steps = k.below.map .name

instance (k : Key) : Decidable k.IsNamed := inferInstanceAs (Decidable (_ = _))

end Key

namespace Value

variable {v w root : Value} {head s : String} {names path : List String}

/-- A value wrapped in a table for every name. -/
def inside : List String → Value → Value
  | [], v => v
  | name :: names, v => table none [(name, inside names v)]

/-- The keys and values that are given, as one table. -/
def nest (given : List (String × Value)) : Value :=
  table none (given.map fun e => ((Key.ofText e.1).head, inside (Key.ofText e.1).below e.2))

/-- Changes the value at the end of a path; tables are made on the way. -/
def edit (f : Value → Value) : List String → Value → Value
  | [], v => f v
  | name :: names, v => table v.tableOrigin (putEntry (Text.lower name)
      (edit f names ((v.entries.lookup (Text.lower name)).getD nothing)) v.entries)

/-! ### Setting is merging -/

theorem edit_append (f : Value → Value) (first second : List String) (v : Value) :
    edit f (first ++ second) v = edit (edit f second) first v := by
  induction first generalizing v with
  | nil => rfl
  | cons name first ih => rw [List.cons_append, edit, edit, ih]

/-- The steps of a change come with the last one first. -/
theorem update_eq (head : String) (before : List String) (f : Value → Value) (root : Value) :
    update head (fun v => some (f v)) (before.map .name) root =
      some (edit f (head :: before.reverse) root) := by
  induction before generalizing f with
  | nil => rfl
  | cons s before ih =>
    rw [List.reverse_cons, ← List.cons_append, edit_append]
    exact ih (edit f [s])

/-- What is not there counts as an empty table when something is merged into it. -/
theorem merge_getD (there : Option Value) (s : String) (v : Value) :
    (there.getD nothing).merge s v = (there.getD emptyTable).merge s v := by
  cases there with
  | none => rw [merge_eq, merge_eq]; rfl
  | some w => rfl

theorem edit_merge (names : List String) (head s : String) (v root : Value) :
    edit (·.merge s v) (head :: names) root = root.merge head (inside (names ++ [s]) v) := by
  induction names generalizing head root with
  | nil =>
    rw [merge_eq, edit, edit, merge_getD]
    rfl
  | cons name names ih =>
    rw [merge_eq, edit, ih, merge_getD]
    rfl

/-- Setting a value at a key of names merges it, wrapped in a table for every name. -/
theorem setAt_eq {k : Key} (h : k.IsNamed) (root v : Value) :
    root.setAt k v = some (root.merge k.head (inside k.below v)) := by
  rw [setAt, h, ← List.map_reverse]
  rcases List.eq_nil_or_concat k.below with hnil | ⟨names, s, hconcat⟩
  · rw [hnil]
    rfl
  · rw [List.concat_eq_append] at hconcat
    rw [hconcat, List.reverse_concat, ← edit_merge]
    have hupdate := update_eq k.head names.reverse (·.merge s v) root
    rw [List.reverse_reverse] at hupdate
    exact hupdate

/-- Setting values one after another merges the table of all of them. -/
theorem setAll_eq {given : List (String × Value)} (h : ∀ e ∈ given, (Key.ofText e.1).IsNamed)
    (root : Value) : root.setAll given = some (root.overlay (nest given)) := by
  induction given generalizing root with
  | nil => rfl
  | cons e rest ih =>
    rw [setAll, List.foldlM_cons, setAt_eq (h e List.mem_cons_self)]
    exact ih (fun e he => h e (List.mem_cons_of_mem _ he)) _

/-! ### What is given along paths -/

theorem given_nest_append (first second : List (String × Value)) (name : String)
    (path : List String) : (nest (first ++ second)).given (name :: path) =
      (nest first).given (name :: path) ++ (nest second).given (name :: path) := by
  have hentries : ∀ given : List (String × Value), (nest given).entries =
      given.map fun e => ((Key.ofText e.1).head, inside (Key.ofText e.1).below e.2) := fun _ => rfl
  rw [given, given, given, hentries, hentries, hentries, List.map_append, List.flatMap_append]

theorem nest_singleton (key : String) (v : Value) :
    nest [(key, v)] = inside ((Key.ofText key).head :: (Key.ofText key).below) v := rfl

theorem mem_given_nest {given : List (String × Value)} {name : String} :
    v ∈ (nest given).given (name :: path) ↔
      ∃ e ∈ given, v ∈ (nest [e]).given (name :: path) := by
  induction given with
  | nil => simp [nest, Value.given, Value.entries]
  | cons e rest ih =>
    have hcons : (nest (e :: rest)).given (name :: path) =
        (nest [e]).given (name :: path) ++ (nest rest).given (name :: path) :=
      given_nest_append [e] rest name path
    rw [hcons, List.mem_append, ih]
    simp

/-- A value that is wrapped in tables is given at the end of its names, and no other but the tables
is given on the way. -/
theorem mem_given_inside (hw : w.isTable = false) (hv : v.isTable = false) :
    v ∈ (inside names w).given path ↔ names.map Text.lower = path ∧ v = w := by
  induction names generalizing path with
  | nil =>
    cases path with
    | nil => simp [inside, Value.given]
    | cons name path => simp [inside, Value.given, entries_of_not_isTable hw]
  | cons name names ih =>
    cases path with
    | nil =>
      refine iff_of_false (fun hmem => ?_) (by simp)
      rw [List.mem_singleton.1 hmem] at hv
      cases hv
    | cons key path =>
      rw [inside, given_cons, List.mem_append, List.map_cons, List.cons.injEq]
      have hnone : v ∉ (table none []).given (key :: path) := fun h => by cases h
      by_cases hname : Text.lower name = key
      · rw [if_pos hname, ih]
        simp [hname, hnone]
      · rw [if_neg hname]
        simp [hname, hnone]

/-- Along a path that is no longer than its names, a wrapped value is given as a whole or not. -/
theorem given_inside (more : List String) (w : Value) : ∀ {names path : List String},
    path.length = names.length → (inside (names ++ more) w).given path =
      if names.map Text.lower = path then [inside more w] else []
  | [], [], _ => rfl
  | name :: names, key :: path, h => by
    have hbelow := given_inside more w (Nat.succ.inj h)
    rw [List.cons_append, inside, given_cons, hbelow, List.map_cons]
    by_cases hname : Text.lower name = key
    · by_cases hrest : names.map Text.lower = path
      · simp [hname, hrest, given, entries]
      · simp [hname, hrest, given, entries]
    · simp [hname, given, entries]

end Value

namespace Environment

/-- The path that the name of a variable spells, if the variable counts. -/
def path? (name : String) : Option (List String) := (key? name).map fun key => (Key.ofText key).path

/-- The key of a name of plain letters. -/
theorem key?_plain {name : String} (h : Text.IsPlain name.toList) :
    key? name = (Text.word front (name.toList.map Char.toLower)).map fun rest =>
      String.ofList (withPoints rest) := by
  rw [key?, Text.lower_plain h, String.toList_ofList]

/-- The value that the text of a variable stands for. -/
def value (text : String) : Value := .scalar (some origin) (scalarOf text)

/-- What the environment gives along a path are the values of the variables that spell it. -/
theorem mem_given_iff {environment : List (String × String)} {head : String} {path : List String}
    {v : Value} (hv : v.isTable = false) :
    v ∈ (Value.nest (given environment)).given (head :: path) ↔
      ∃ name text, (name, text) ∈ environment ∧ path? name = some (head :: path) ∧
        v = value text := by
  have hone : ∀ key text, v ∈ (Value.nest [(key, value text)]).given (head :: path) ↔
      (Key.ofText key).path = head :: path ∧ v = value text := fun key text => by
    rw [Value.nest_singleton, Value.mem_given_inside rfl hv, ← Key.path]
  rw [Value.mem_given_nest]
  constructor
  · rintro ⟨e, he, hmem⟩
    obtain ⟨⟨name, text⟩, hin, hentry⟩ := List.mem_filterMap.1 he
    obtain ⟨key, hkey, rfl⟩ := Option.map_eq_some_iff.1 hentry
    obtain ⟨hpath, hvalue⟩ := (hone key text).1 hmem
    exact ⟨name, text, hin, by rw [path?, hkey, Option.map_some, hpath], hvalue⟩
  · rintro ⟨name, text, hin, hspells, hvalue⟩
    obtain ⟨key, hkey, hpath⟩ := Option.map_eq_some_iff.1 hspells
    refine ⟨(key, value text), List.mem_filterMap.2 ⟨(name, text), hin, ?_⟩, ?_⟩
    · dsimp only
      rw [hkey]
      rfl
    · exact (hone key text).2 ⟨hpath, hvalue⟩

end Environment

end FileServer
