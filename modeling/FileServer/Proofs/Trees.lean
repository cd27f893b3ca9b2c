import FileServer.Settings.Key

/-!
Tables inside tables. What is merged into a value stands where its names lead, in the place of what
stood there before, and all that stands elsewhere stays: of the values given at the end of a path
the last one counts.
-/

namespace FileServer.Value

variable {v old root : Value} {entries : List (String × Value)} {name key : String}
  {path : List String}

/-- Whether a value is a table. -/
def isTable : Value → Bool
  | table .. => true
  | _ => false

/-- What stands at the end of a path of names. -/
def at? : List String → Value → Option Value
  | [], v => some v
  | name :: path, v => (v.entries.lookup name).bind (at? path)

/-- The values that are given at the end of a path of names in small letters. -/
def given : List String → Value → List Value
  | [], v => [v]
  | name :: path, v =>
    v.entries.flatMap fun e => if Text.lower e.1 = name then given path e.2 else []

/-- A path leads through tables, to values that are none. -/
def Leads : List String → Value → Prop
  | [], v => v.isTable = false
  | name :: path, v => v.isTable = true ∧ ∀ e ∈ v.entries, Text.lower e.1 = name → Leads path e.2

/-- A value over another: a table is merged into it, and any other value takes its place. -/
def overlay (old : Value) : Value → Value
  | table _ entries => old.mergeAll entries
  | v => v

/-! ### Entries -/

theorem exists_eq_table (h : v.isTable = true) : ∃ origin entries, v = table origin entries := by
  cases v with
  | table origin entries => exact ⟨origin, entries, rfl⟩
  | _ => cases h

theorem entries_of_not_isTable (h : v.isTable = false) : v.entries = [] := by
  cases v with
  | table => cases h
  | _ => rfl

theorem at?_singleton (v : Value) (name : String) : v.at? [name] = v.entries.lookup name := by
  rw [at?]
  cases v.entries.lookup name <;> rfl

theorem at?_append (v : Value) (first second : List String) :
    v.at? (first ++ second) = (v.at? first).bind (at? second) := by
  induction first generalizing v with
  | nil => rfl
  | cons name first ih =>
    rw [List.cons_append, at?, at?]
    cases v.entries.lookup name with
    | none => rfl
    | some w => exact ih w

theorem at?_cons (v : Value) (name : String) (path : List String) :
    v.at? (name :: path) = (v.at? [name]).bind (at? path) :=
  at?_append v [name] path

theorem overlay_of_not_isTable (h : v.isTable = false) : old.overlay v = v := by
  cases v with
  | table => cases h
  | _ => rfl

theorem overlay_of_isTable (h : v.isTable = true) : old.overlay v = old.mergeAll v.entries := by
  cases v with
  | table => rfl
  | _ => cases h

/-- Nothing stands below an empty table, as nothing does where there is none. -/
theorem at?_getD_emptyTable (root : Value) (name key : String) (path : List String) :
    ((root.entries.lookup name).getD emptyTable).at? (key :: path) =
      root.at? (name :: key :: path) := by
  rw [at?.eq_2 root]
  cases root.entries.lookup name with
  | none => rfl
  | some v => rfl

theorem lookup_putEntry (key name : String) (v : Value) (entries : List (String × Value)) :
    (putEntry key v entries).lookup name = if key = name then some v else entries.lookup name := by
  induction entries with
  | nil =>
    by_cases h : key = name
    · simp [putEntry, h]
    · simp [putEntry, h, Ne.symm h]
  | cons e rest ih =>
    obtain ⟨k, w⟩ := e
    by_cases hk : k = key
    · subst hk
      by_cases h : k = name
      · simp [putEntry, h]
      · simp [putEntry, h, List.lookup_cons, beq_false_of_ne (Ne.symm h)]
    · have hput : putEntry key v ((k, w) :: rest) = (k, w) :: putEntry key v rest := if_neg hk
      rw [hput, List.lookup_cons, List.lookup_cons, ih]
      by_cases hname : name = k
      · subst hname
        simp [Ne.symm hk]
      · simp [beq_false_of_ne hname]

/-- The value under a name is put over the one that stood there. -/
theorem merge_eq (root : Value) (name : String) (v : Value) :
    root.merge name v = table root.tableOrigin (putEntry (Text.lower name)
      (((root.entries.lookup (Text.lower name)).getD emptyTable).overlay v) root.entries) := by
  cases v with
  | table => rw [merge]; rfl
  | scalar => exact merge.eq_2 root name _ (by simp)
  | sequence => exact merge.eq_2 root name _ (by simp)

/-- Merging changes what stands under the name, and nothing else. -/
theorem at?_merge (root : Value) (name key : String) (v : Value) (path : List String) :
    (root.merge name v).at? (key :: path) =
      if Text.lower name = key then (((root.entries.lookup key).getD emptyTable).overlay v).at? path
      else root.at? (key :: path) := by
  have hentries : ∀ origin entries, (table origin entries).entries = entries := fun _ _ => rfl
  rw [merge_eq, at?, hentries, lookup_putEntry]
  split
  case isTrue h => rw [h]; rfl
  case isFalse => rfl

theorem given_cons (origin : Option String) (e : String × Value) :
    (table origin (e :: entries)).given (name :: path) =
      (if Text.lower e.1 = name then e.2.given path else []) ++
        (table origin entries).given (name :: path) := rfl

theorem mem_given {w : Value} : w ∈ v.given (name :: path) ↔
    ∃ e ∈ v.entries, Text.lower e.1 = name ∧ w ∈ e.2.given path := by
  rw [given, List.mem_flatMap]
  refine exists_congr fun e => and_congr_right fun _ => ?_
  by_cases hname : Text.lower e.1 = name
  · rw [if_pos hname, and_iff_right hname]
  · rw [if_neg hname]
    exact iff_of_false (fun h => by cases h) fun h => hname h.1

theorem mem_given_singleton {w : Value} : w ∈ v.given [name] ↔
    ∃ e ∈ v.entries, Text.lower e.1 = name ∧ w = e.2 := by
  rw [mem_given]
  simp only [given, List.mem_singleton]

/-- What is given at the end of a path is given at the end of its second part, by what is given at
the end of its first part. -/
theorem given_append (first second : List String) (v : Value) :
    v.given (first ++ second) = (v.given first).flatMap (given second) := by
  induction first generalizing v with
  | nil => simp [given]
  | cons name first ih =>
    rw [List.cons_append, given, given, List.flatMap_assoc]
    congr 1
    funext e
    by_cases hname : Text.lower e.1 = name
    · rw [if_pos hname, if_pos hname, ih]
    · rw [if_neg hname, if_neg hname, List.flatMap_nil]

theorem mem_given_cons {w : Value} : w ∈ v.given (name :: path) ↔
    ∃ x ∈ v.given [name], w ∈ x.given path := by
  rw [← List.singleton_append, given_append, List.mem_flatMap]

/-- As many values are given below a path as there are entries of the name in what is given at its
end. -/
theorem length_given_concat (path : List String) (name : String) (v : Value) :
    (v.given (path ++ [name])).length =
      ((v.given path).flatMap fun w => w.entries.map fun e => Text.lower e.1).count name := by
  rw [given_append, List.length_flatMap, List.count_flatMap]
  congr 1
  refine List.map_congr_left fun w _ => ?_
  rw [given, Function.comp_apply]
  induction w.entries with
  | nil => rfl
  | cons e rest ih =>
    rw [List.flatMap_cons, List.length_append, ih, List.map_cons, List.count_cons]
    by_cases hname : Text.lower e.1 = name
    · simp [hname, given, Nat.add_comm]
    · simp [hname]

theorem leads_cons_iff : Leads (name :: path) v ↔
    v.isTable = true ∧ ∀ w ∈ v.given [name], Leads path w := by
  rw [Leads]
  refine and_congr_right fun _ => ⟨fun h w hw => ?_, fun h e he hname => ?_⟩
  · obtain ⟨e, he, hname, rfl⟩ := mem_given_singleton.1 hw
    exact h e he hname
  · exact h e.2 (mem_given_singleton.2 ⟨e, he, hname, rfl⟩)

/-- What is given at the end of a path that leads through tables is no table. -/
theorem Leads.isTable_eq_false {w : Value} : ∀ {path : List String} {v : Value}, Leads path v →
    w ∈ v.given path → w.isTable = false
  | [], _, h, hw => List.mem_singleton.1 hw ▸ h
  | _ :: _, _, h, hw => by
    obtain ⟨e, he, hname, hbelow⟩ := mem_given.1 hw
    exact (h.2 e he hname).isTable_eq_false hbelow

/-! ### Merging -/

/-- What stands at the end of a path after a value has been put over another: the last of the
values that the upper one gives there, and if it gives none, what stood there. -/
theorem at?_overlay : ∀ (path : List String) {v : Value} (old : Value), Leads path v →
    (old.overlay v).at? path = ((v.given path).getLast?).or (old.at? path)
  | [], v, old, h => by rw [overlay_of_not_isTable h]; rfl
  | name :: path, v, old, h => by
    obtain ⟨htable, hbelow⟩ := h
    obtain ⟨origin, entries, rfl⟩ := exists_eq_table htable
    -- entry by entry, each merged into what the ones before it have made of the lower value
    show (old.mergeAll entries).at? (name :: path) = _
    clear htable
    induction entries generalizing old with
    | nil => rfl
    | cons e rest ih =>
      obtain ⟨n, x⟩ := e
      have hrest : ∀ e ∈ rest, Text.lower e.1 = name → Leads path e.2 :=
        fun e he => hbelow e (List.mem_cons_of_mem _ he)
      have hstep : (old.merge n x).at? (name :: path) =
          (if Text.lower n = name then x.given path else []).getLast?.or
            (old.at? (name :: path)) := by
        rw [at?_merge]
        split
        case isFalse => rfl
        case isTrue hn =>
          have hx : Leads path x := hbelow (n, x) List.mem_cons_self hn
          rw [at?_overlay path _ hx]
          cases path with
          | nil => rfl
          | cons key path => rw [at?_getD_emptyTable]
      rw [mergeAll, ih _ hrest, hstep, given_cons, List.getLast?_append, Option.or_assoc]

/-- A property of what stands at the end of a path is kept when a value is put over another, if an
empty table has it, merging keeps it, and the values given there have it that are no tables. -/
theorem forall_at?_overlay {P : Value → Prop} (hempty : P emptyTable)
    (hmerge : ∀ (old : Value) (name : String) (v : Value), P old → P (old.merge name v)) :
    ∀ (path : List String) (v old : Value), (∀ w ∈ v.given path, w.isTable = false → P w) →
      (∀ w, old.at? path = some w → P w) → ∀ w, (old.overlay v).at? path = some w → P w
  | [], v, old, hgiven, hold, w, hw => by
    cases Option.some.inj hw
    have hall : ∀ (entries : List (String × Value)) (old : Value), P old →
        P (old.mergeAll entries) := by
      intro entries
      induction entries with
      | nil => exact fun old h => h
      | cons e rest ih => exact fun old h => ih _ (hmerge old e.1 e.2 h)
    cases hv : v.isTable with
    | true => rw [overlay_of_isTable hv]; exact hall v.entries old (hold old rfl)
    | false => rw [overlay_of_not_isTable hv]; exact hgiven v (List.mem_singleton.2 rfl) hv
  | name :: path, v, old, hgiven, hold, w, hw => by
    cases hv : v.isTable with
    | false =>
      rw [overlay_of_not_isTable hv, at?, entries_of_not_isTable hv] at hw
      cases hw
    | true =>
      rw [overlay_of_isTable hv] at hw
      have hentries : ∀ e ∈ v.entries, Text.lower e.1 = name →
          ∀ w ∈ e.2.given path, w.isTable = false → P w := fun e he hname w hw =>
        hgiven w (mem_given.2 ⟨e, he, hname, hw⟩)
      clear hgiven
      generalize v.entries = entries at hw hentries
      induction entries generalizing old with
      | nil => exact hold w hw
      | cons e rest ih =>
        refine ih (old.merge e.1 e.2) (fun w hw => ?_) hw
          fun e he => hentries e (List.mem_cons_of_mem _ he)
        rw [at?_merge] at hw
        split at hw
        case isFalse => exact hold w hw
        case isTrue hname =>
          refine forall_at?_overlay hempty hmerge path e.2 _ (hentries e List.mem_cons_self hname)
            (fun w hw => ?_) w hw
          cases hlookup : old.entries.lookup name with
          | some x =>
            rw [hlookup] at hw
            exact hold w (by rw [at?, hlookup]; exact hw)
          | none =>
            rw [hlookup] at hw
            cases path with
            | nil => cases Option.some.inj hw; exact hempty
            | cons => cases hw

/-! ### Names -/

/-- The names of entries. -/
def names (v : Value) : List String := v.entries.map (·.1)

theorem mem_names_putEntry {w : String} (h : w ∈ (putEntry key v entries).map (·.1)) :
    w = key ∨ w ∈ entries.map (·.1) := by
  induction entries with
  | nil => exact .inl (List.mem_singleton.1 h)
  | cons e rest ih =>
    unfold putEntry at h
    split at h
    case isTrue he =>
      rw [List.map_cons, List.mem_cons] at h ⊢
      exact h.imp_right .inr
    case isFalse =>
      rw [List.map_cons, List.mem_cons] at h ⊢
      rcases h with h | h
      · exact .inr (.inl h)
      · exact (ih h).imp_right .inr

/-- A name that is put in is not put in twice. -/
theorem nodup_putEntry (h : (entries.map (·.1)).Nodup) :
    ((putEntry key v entries).map (·.1)).Nodup := by
  induction entries with
  | nil => simp [putEntry]
  | cons e rest ih =>
    rw [List.map_cons, List.nodup_cons] at h
    unfold putEntry
    split
    case isTrue he =>
      rw [List.map_cons, List.nodup_cons]
      exact ⟨he ▸ h.1, h.2⟩
    case isFalse he =>
      rw [List.map_cons, List.nodup_cons]
      refine ⟨fun hmem => ?_, ih h.2⟩
      rcases mem_names_putEntry hmem with hkey | hrest
      · exact he hkey
      · exact h.1 hrest

/-- No table that is put together from several values has a name twice. -/
theorem nodup_names_mergeAll (entries : List (String × Value)) (path : List String) {w : Value}
    (hw : (emptyTable.mergeAll entries).at? path = some w) : w.names.Nodup := by
  refine forall_at?_overlay (P := fun w => w.names.Nodup) List.nodup_nil (fun old name v h => ?_) path
    (table none entries) emptyTable (fun w _ hw => ?_) (fun w hw => ?_) w hw
  · rw [merge_eq]
    exact nodup_putEntry h
  · rw [names, entries_of_not_isTable hw]
    exact List.nodup_nil
  · cases path with
    | nil => cases Option.some.inj hw; exact List.nodup_nil
    | cons => cases hw

/-- Where only tables are given there is a table, if there is anything. -/
theorem isTable_mergeAll (entries : List (String × Value)) {path : List String}
    (h : ∀ w ∈ (table none entries).given path, w.isTable = true) {w : Value}
    (hw : (emptyTable.mergeAll entries).at? path = some w) : w.isTable = true := by
  refine forall_at?_overlay (P := fun w => w.isTable = true) rfl (fun old name v _ => ?_) path
    (table none entries) emptyTable (fun w hmem hno => ?_) (fun w hw => ?_) w hw
  · rw [merge_eq]
    rfl
  · exact absurd ((h w hmem).symm.trans hno) (by decide)
  · cases path with
    | nil => cases Option.some.inj hw; rfl
    | cons => cases hw

end FileServer.Value
