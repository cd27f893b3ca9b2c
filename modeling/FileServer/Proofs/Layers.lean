import FileServer.Proofs.Sections
import FileServer.Settings.Load

/-!
How the settings are layered. A setting is what the variable stands for that spells its path, or
else what the file gives there, or else its default:

    environment  >  file  >  default

Nothing else counts. What is given for one setting does not touch another one, and names that belong
to no setting change nothing.
-/

namespace FileServer.Settings

open Value

variable {d : Disk} {name : String} {environment : List (String × String)}
  {file given more : List (String × Value)}

/-! ### Layers -/

/-- What is given fits the settings: keys are made of names, tables stand for the sections and for
the media types, and all that is given for a setting can be read. -/
structure Fits (given : List (String × Value)) : Prop where
  named : ∀ e ∈ given, (Key.ofText e.1).IsNamed
  tables : ∀ s ∈ sections, ∀ v ∈ (nest given).given [s.name], v.isTable = true
  readable : ∀ f ∈ fields, ∀ v ∈ (nest given).given f.path, ∃ b, f.slot.read v = .ok b
  mediaTable : ∀ v ∈ (nest given).given mediaPath, v.isTable = true
  mediaReadable : ∀ v ∈ (nest given).given mediaPath, ∀ e ∈ v.entries, ∃ t, toText e.2 = .ok t

/-- What is given has the shape of the settings: keys are made of names, tables stand for the
sections and for the media types and for no other setting, and the media types can be read. -/
structure Shaped (given : List (String × Value)) : Prop where
  named : ∀ e ∈ given, (Key.ofText e.1).IsNamed
  tables : ∀ s ∈ sections, ∀ v ∈ (nest given).given [s.name], v.isTable = true
  plain : ∀ f ∈ fields, ∀ v ∈ (nest given).given f.path, v.isTable = false
  mediaTable : ∀ v ∈ (nest given).given mediaPath, v.isTable = true
  mediaReadable : ∀ v ∈ (nest given).given mediaPath, ∀ e ∈ v.entries, ∃ t, toText e.2 = .ok t

/-- No setting is given twice, and no media type, also in other letters. -/
structure Once (given : List (String × Value)) : Prop where
  plain : ∀ f ∈ fields, ((nest given).given f.path).length ≤ 1
  media : (((nest given).given mediaPath).flatMap fun v =>
    v.entries.map fun e => Text.lower e.1).Nodup

instance {α : Type} (x : Decoded α) : Decidable (∃ a, x = .ok a) :=
  match x with
  | .ok a => .isTrue ⟨a, rfl⟩
  | .error _ => .isFalse fun ⟨_, h⟩ => nomatch h

instance {α : Type} (x : Decoded α) (p : α → Prop) [DecidablePred p] :
    Decidable (∃ a, x = .ok a ∧ p a) :=
  match x with
  | .ok a => decidable_of_iff (p a) ⟨fun h => ⟨a, rfl, h⟩, fun ⟨_, h, hp⟩ => Except.ok.inj h ▸ hp⟩
  | .error _ => .isFalse fun ⟨_, h, _⟩ => nomatch h

instance (given : List (String × Value)) : Decidable (Fits given) :=
  decidable_of_iff (_ ∧ _ ∧ _ ∧ _ ∧ _)
    ⟨fun ⟨named, tables, readable, mediaTable, mediaReadable⟩ =>
      { named, tables, readable, mediaTable, mediaReadable },
    fun h => ⟨h.named, h.tables, h.readable, h.mediaTable, h.mediaReadable⟩⟩

instance (given : List (String × Value)) : Decidable (Shaped given) :=
  decidable_of_iff (_ ∧ _ ∧ _ ∧ _ ∧ _)
    ⟨fun ⟨named, tables, plain, mediaTable, mediaReadable⟩ =>
      { named, tables, plain, mediaTable, mediaReadable },
    fun h => ⟨h.named, h.tables, h.plain, h.mediaTable, h.mediaReadable⟩⟩

instance (given : List (String × Value)) : Decidable (Once given) :=
  decidable_of_iff (_ ∧ _) ⟨fun ⟨plain, media⟩ => { plain, media }, fun h => ⟨h.plain, h.media⟩⟩

/-- A setting is what the variable stands for that spells its path, or else what the file gives
there. `holds` tells what the setting is for the value that counts, if there is one. -/
structure Layered (file : List (String × Value)) (environment : List (String × String))
    (path : List String) (holds : Option Value → Prop) : Prop where
  fromEnvironment : ∀ name text, (name, text) ∈ environment →
    Environment.path? name = some path → holds (some (Environment.value text))
  fromFile : (∀ e ∈ environment, Environment.path? e.1 ≠ some path) →
    ∀ v ∈ (nest file).given path, holds (some v)
  byDefault : (∀ e ∈ environment, Environment.path? e.1 ≠ some path) →
    (nest file).given path = [] → holds none

theorem Fits.shaped (h : Fits given) : Shaped given where
  named := h.named
  tables := h.tables
  plain f hf v hv := by
    obtain ⟨b, hb⟩ := h.readable f hf v hv
    exact isTable_of_read hf hb
  mediaTable := h.mediaTable
  mediaReadable := h.mediaReadable

theorem Fits.append (h : Fits given) (hmore : Fits more) : Fits (given ++ more) := by
  have hmem : ∀ {head path v}, v ∈ (nest (given ++ more)).given (head :: path) →
      v ∈ (nest given).given (head :: path) ∨ v ∈ (nest more).given (head :: path) := fun hv => by
    rw [given_nest_append] at hv
    exact List.mem_append.1 hv
  exact {
    named := fun e he => (List.mem_append.1 he).elim (h.named e) (hmore.named e)
    tables := fun s hs v hv => (hmem hv).elim (h.tables s hs v) (hmore.tables s hs v)
    readable := fun f hf v hv => (hmem hv).elim (h.readable f hf v) (hmore.readable f hf v)
    mediaTable := fun v hv => (hmem hv).elim (h.mediaTable v) (hmore.mediaTable v)
    mediaReadable := fun v hv => (hmem hv).elim (h.mediaReadable v) (hmore.mediaReadable v) }

/-- A value that can be read for a setting fits the settings by itself. -/
theorem fits_singleton {f : Field} {key : String} {v : Value} (hf : f ∈ fields)
    (hkey : Key.ofText key = ⟨f.group, [.name f.slot.name]⟩) (hread : ∃ b, f.slot.read v = .ok b) :
    Fits [(key, v)] ∧ Once [(key, v)] := by
  have hnest : nest [(key, v)] = inside [f.group, f.slot.name] v := by
    rw [nest_singleton, hkey]
    rfl
  have hpath : [f.group, f.slot.name].map Text.lower = f.path := by
    obtain ⟨hgroup, hname⟩ := lower_path f hf
    simp [Field.path, hgroup, hname]
  have hsection : ∀ name, (nest [(key, v)]).given [name] =
      if [f.group].map Text.lower = [name] then [inside [f.slot.name] v] else [] := fun name => by
    have hlength : [name].length = [f.group].length := rfl
    rw [hnest]
    exact given_inside [f.slot.name] v hlength
  have hgiven : ∀ path, path.length = 2 →
      (nest [(key, v)]).given path = if f.path = path then [v] else [] := fun path hlength => by
    have hsame : path.length = [f.group, f.slot.name].length := hlength
    rw [hnest, ← hpath]
    exact given_inside [] v hsame
  have hmedia : (nest [(key, v)]).given mediaPath = [] := by
    rw [hgiven mediaPath rfl, if_neg (path_ne_mediaPath f hf)]
  refine ⟨⟨?named, fun s hs w hw => ?tables, fun other hother w hw => ?readable, ?_, ?_⟩,
    fun other hother => ?plain, ?_⟩
  case named => simp [Key.IsNamed, hkey, Key.below]
  case tables =>
    rw [hsection] at hw
    split at hw
    · rw [List.mem_singleton.1 hw]
      rfl
    · cases hw
  case readable =>
    rw [hgiven other.path rfl] at hw
    split at hw
    case isTrue hpath =>
      rw [List.mem_singleton.1 hw, ← eq_of_path_eq hf hother hpath]
      exact hread
    case isFalse => cases hw
  case plain =>
    rw [hgiven other.path rfl]
    split <;> simp
  all_goals simp [hmedia]

/-! ### Paths of settings -/

/-- The path to a setting leads through the tables that are given. -/
theorem Shaped.leads (h : Shaped given) {f : Field} (hf : f ∈ fields) :
    Leads f.path (nest given) := by
  obtain ⟨s, hs, hname⟩ := exists_section hf
  refine leads_cons_iff.2 ⟨rfl, fun w hw => leads_cons_iff.2 ⟨?_, fun v hv => ?_⟩⟩
  · exact h.tables s hs w (hname ▸ hw)
  · exact h.plain f hf v (mem_given_cons.2 ⟨w, hw, hv⟩)

theorem Shaped.leads_media (h : Shaped given) (extension : String) :
    Leads (mediaPath ++ [extension]) (nest given) := by
  refine leads_cons_iff.2 ⟨rfl, fun w hw => leads_cons_iff.2 ⟨?_, fun x hx =>
    leads_cons_iff.2 ⟨?_, fun v hv => ?_⟩⟩⟩
  · exact h.tables mediaSection (by simp [sections]) w hw
  · exact h.mediaTable x (mem_given_cons.2 ⟨w, hw, hx⟩)
  · obtain ⟨e, he, -, rfl⟩ := mem_given_singleton.1 hv
    obtain ⟨t, ht⟩ := h.mediaReadable x (mem_given_cons.2 ⟨w, hw, hx⟩) e he
    exact isTable_of_toText ht

theorem Once.length_media (h : Once given) (extension : String) :
    ((nest given).given (mediaPath ++ [extension])).length ≤ 1 := by
  rw [length_given_concat]
  exact List.nodup_iff_count.1 h.media extension

/-! ### The table of what is given -/

/-- The table that all that is given is put together to. -/
def merged (given : List (String × Value)) : Value := emptyTable.overlay (nest given)

/-- Of the values that are given at the end of a path the last one counts. -/
theorem at?_merged {head : String} {path : List String} (h : Leads (head :: path) (nest given)) :
    (merged given).at? (head :: path) = ((nest given).given (head :: path)).getLast? := by
  have hempty : emptyTable.at? (head :: path) = none := rfl
  rw [merged, at?_overlay _ _ h, hempty, Option.or_none]

theorem mem_given_of_at? {head : String} {path : List String} {w : Value}
    (h : Leads (head :: path) (nest given)) (hw : (merged given).at? (head :: path) = some w) :
    w ∈ (nest given).given (head :: path) :=
  List.mem_of_getLast? ((at?_merged h).symm.trans hw)

theorem nodup_names_merged {path : List String} {w : Value}
    (hw : (merged given).at? path = some w) : w.names.Nodup :=
  nodup_names_mergeAll _ path hw

theorem isTable_merged {path : List String} {w : Value}
    (h : ∀ v ∈ (nest given).given path, v.isTable = true)
    (hw : (merged given).at? path = some w) : w.isTable = true :=
  isTable_mergeAll _ h hw

/-- The media types can be read from what stands in their place. -/
theorem Shaped.readable_media (h : Shaped given) {w : Value}
    (hw : (merged given).at? mediaPath = some w) :
    ∃ taken, toEntries toText w = .ok taken ∧ (taken.map (·.1)).Nodup ∧
      ∀ name, (w.at? [name]).map toText = (taken.lookup name).map .ok := by
  have hnodup := nodup_names_merged hw
  obtain ⟨taken, hok, hnames, hlookup⟩ := toEntries_filled (isTable_merged h.mediaTable hw)
    fun e he => by
      have hat : (merged given).at? (mediaPath ++ [e.1]) = some e.2 := by
        rw [at?_append, hw, Option.bind_some, at?_singleton]
        exact lookup_eq_some_of_mem hnodup he
      have hgiven : e.2 ∈ (nest given).given (mediaPath ++ [e.1]) :=
        mem_given_of_at? (h.leads_media e.1) hat
      rw [given_append] at hgiven
      obtain ⟨x, hx, hmem⟩ := List.mem_flatMap.1 hgiven
      obtain ⟨e', he', -, hsame⟩ := mem_given_singleton.1 hmem
      exact hsame ▸ h.mediaReadable x hx e' he'
  refine ⟨taken, hok, hnames ▸ hnodup, fun name => ?_⟩
  rw [at?_singleton]
  exact hlookup name

theorem mem_all_fields {f : Field} : f ∈ sections.flatMap Section.fields ↔
    f ∈ fields ∨ f ∈ mediaSection.fields := by
  rw [sections, List.flatMap_append, List.mem_append, List.flatMap_singleton]
  rfl

theorem isTable_merged_root (given : List (String × Value)) : (merged given).isTable = true :=
  @isTable_merged given [] _ (fun v hv => by rw [List.mem_singleton.1 hv]; rfl) rfl

/-- Settings can be read from what has their shape, if for each of them what counts can be read.
Each one is what stands at its path. -/
theorem Shaped.ofValue_merged (h : Shaped given) (hread : ∀ f ∈ fields, ∀ v,
    ((nest given).given f.path).getLast? = some v → ∃ b, f.slot.read v = .ok b) :
    ∃ settings, ofValue (merged given) = .ok settings ∧
    (∀ f ∈ fields, f.slot.Holds {} settings ((merged given).at? f.path)) ∧
    (settings.mediaTypes.map (·.1)).Nodup ∧
    ∀ extension, ((merged given).at? (mediaPath ++ [extension])).map toText =
      (settings.mediaTypes.lookup extension).map .ok := by
  obtain ⟨settings, hok, hholds⟩ := ofValue_filled
    (isTable_merged_root given)
    (fun path w hw => nodup_names_merged hw)
    (fun s hs w hw => isTable_merged (h.tables s hs) hw)
    (fun f hf w hw => by
      rcases mem_all_fields.1 hf with hf | hf
      · exact hread f hf w ((at?_merged (h.leads hf)).symm.trans hw)
      · obtain rfl := List.mem_singleton.1 hf
        obtain ⟨taken, htaken, -⟩ := h.readable_media hw
        exact ⟨taken, htaken⟩)
  refine ⟨settings, hok, fun f hf => hholds f (mem_all_fields.2 (.inl hf)), ?_⟩
  -- the media types are one field of a section of their own, which is a table in turn
  have htypes := hholds _ (mem_all_fields.2 (.inr (List.mem_singleton.2 rfl)))
  change Slot.Holds _ _ _ ((merged given).at? mediaPath) at htypes
  cases hw : (merged given).at? mediaPath with
  | none =>
    have hnone : settings.mediaTypes = [] := by
      rw [hw] at htypes
      exact htypes
    refine ⟨hnone ▸ List.nodup_nil, fun extension => ?_⟩
    rw [hnone, at?_append, hw]
    rfl
  | some w =>
    obtain ⟨taken, htaken, hnodup, hlookup⟩ := h.readable_media hw
    have hsome : settings.mediaTypes = taken := by
      rw [hw] at htypes
      exact Except.ok.inj (Eq.trans (Eq.symm htypes) htaken)
    refine ⟨hsome ▸ hnodup, fun extension => ?_⟩
    rw [hsome, at?_append, hw]
    exact hlookup extension

/-- Settings can be read from what fits them. -/
theorem ofValue_merged (h : Fits given) : ∃ settings, ofValue (merged given) = .ok settings ∧
    (∀ f ∈ fields, f.slot.Holds {} settings ((merged given).at? f.path)) ∧
    (settings.mediaTypes.map (·.1)).Nodup ∧
    ∀ extension, ((merged given).at? (mediaPath ++ [extension])).map toText =
      (settings.mediaTypes.lookup extension).map .ok :=
  h.shaped.ofValue_merged fun f hf v hv => h.readable f hf v (List.mem_of_getLast? hv)

/-- Where settings have been read, what counts for each of them has been read. -/
theorem Shaped.readable_of_ofValue {settings : Settings} (h : Shaped given)
    (hok : ofValue (merged given) = .ok settings) {f : Field} (hf : f ∈ fields) {v : Value}
    (hv : ((nest given).given f.path).getLast? = some v) : ∃ b, f.slot.read v = .ok b :=
  Settings.readable_of_ofValue (isTable_merged_root given)
    (fun s hs _ hw => isTable_merged (h.tables s hs) hw) hok f (mem_all_fields.2 (.inl hf)) v
    ((at?_merged (h.leads hf)).trans hv)

theorem getLast?_of_mem {α : Type} {a : α} {l : List α} (hl : l.length ≤ 1) (ha : a ∈ l) :
    l.getLast? = some a := by
  match l, hl with
  | [b], _ => rw [List.mem_singleton.1 ha]; rfl

/-- A setting is what is given for it. -/
theorem read_of_given {f : Field} {v : Value} (hf : f ∈ fields) (hfits : Fits given)
    (honce : Once given) (hv : v ∈ (nest given).given f.path) :
    ∃ settings, ofValue (merged given) = .ok settings ∧
      f.slot.read v = .ok (f.slot.get settings) := by
  obtain ⟨settings, hok, hfields, -⟩ := ofValue_merged hfits
  have hat : (merged given).at? f.path = some v :=
    (at?_merged (hfits.shaped.leads hf)).trans (getLast?_of_mem (honce.plain f hf) hv)
  have hholds := hfields f hf
  rw [hat] at hholds
  exact ⟨settings, hok, hholds⟩

/-! ### The value that counts -/

/-- Without a variable for a setting what counts is what the file gives. -/
theorem given_environment_of_unset {head : String} {path : List String}
    (hleads : Leads (head :: path) (nest (file ++ Environment.given environment)))
    (hunset : ∀ e ∈ environment, Environment.path? e.1 ≠ some (head :: path)) :
    (nest (Environment.given environment)).given (head :: path) = [] := by
  refine List.eq_nil_iff_forall_not_mem.2 fun v hv => ?_
  have hleaf : v.isTable = false := hleads.isTable_eq_false (by
    rw [given_nest_append]
    exact List.mem_append_right _ hv)
  obtain ⟨name, text, hin, hspells, -⟩ := (Environment.mem_given_iff hleaf).1 hv
  exact hunset (name, text) hin hspells

theorem getLast?_given_of_unset {head : String} {path : List String}
    (hleads : Leads (head :: path) (nest (file ++ Environment.given environment)))
    (hunset : ∀ e ∈ environment, Environment.path? e.1 ≠ some (head :: path)) :
    ((nest (file ++ Environment.given environment)).given (head :: path)).getLast? =
      ((nest file).given (head :: path)).getLast? := by
  rw [given_nest_append, given_environment_of_unset hleads hunset, List.append_nil]

/-- Where all variables for a setting hold the same text, what counts is what it stands for. -/
theorem getLast?_given_of_set {head text : String} {path : List String}
    (hleads : Leads (head :: path) (nest (file ++ Environment.given environment)))
    (hset : ∃ name, (name, text) ∈ environment ∧ Environment.path? name = some (head :: path))
    (hagree : ∀ e ∈ environment, Environment.path? e.1 = some (head :: path) → e.2 = text) :
    ((nest (file ++ Environment.given environment)).given (head :: path)).getLast? =
      some (Environment.value text) := by
  obtain ⟨name, hin, hspells⟩ := hset
  have hmem : Environment.value text ∈
      (nest (Environment.given environment)).given (head :: path) :=
    (Environment.mem_given_iff rfl).2 ⟨name, text, hin, hspells, rfl⟩
  obtain ⟨w, hw⟩ : ∃ w,
      ((nest (Environment.given environment)).given (head :: path)).getLast? = some w :=
    ⟨_, List.getLast?_eq_some_getLast (List.ne_nil_of_mem hmem)⟩
  have hleaf : w.isTable = false := hleads.isTable_eq_false (by
    rw [given_nest_append]
    exact List.mem_append_right _ (List.mem_of_getLast? hw))
  obtain ⟨other, text', hin', hspells', rfl⟩ :=
    (Environment.mem_given_iff hleaf).1 (List.mem_of_getLast? hw)
  obtain rfl : text' = text := hagree (other, text') hin' hspells'
  rw [given_nest_append, List.getLast?_append, hw, Option.some_or]

/-- What is said of the value in the table of both layers is said of the value that counts. -/
theorem layered_merged {head : String} {path : List String} {holds : Option Value → Prop}
    (hleads : Leads (head :: path) (nest (file ++ Environment.given environment)))
    (hfile : ((nest file).given (head :: path)).length ≤ 1)
    (henvironment : ((nest (Environment.given environment)).given (head :: path)).length ≤ 1)
    (h : holds ((merged (file ++ Environment.given environment)).at? (head :: path))) :
    Layered file environment (head :: path) holds := by
  -- the environment comes last, so what it gives is what counts
  rw [at?_merged hleads, given_nest_append, List.getLast?_append] at h
  constructor
  case fromEnvironment =>
    intro name text hin hspells
    have hmem : Environment.value text ∈
        (nest (Environment.given environment)).given (head :: path) :=
      (Environment.mem_given_iff rfl).2 ⟨name, text, hin, hspells, rfl⟩
    rw [getLast?_of_mem henvironment hmem] at h
    exact h
  case fromFile =>
    intro hnone v hv
    rw [given_environment_of_unset hleads hnone, getLast?_of_mem hfile hv] at h
    exact h
  case byDefault =>
    intro hnone hfile
    rw [given_environment_of_unset hleads hnone, hfile] at h
    exact h

/-- In whatever order the variables come, the value that counts for a setting is the same. -/
theorem Layered.both {path : List String} {holds holds' : Option Value → Prop}
    {again : List (String × String)} (hsame : ∀ e, e ∈ environment ↔ e ∈ again)
    (h : Layered file environment path holds) (h' : Layered file again path holds') :
    ∃ v?, holds v? ∧ holds' v? := by
  by_cases hset : ∃ e ∈ environment, Environment.path? e.1 = some path
  · obtain ⟨⟨name, text⟩, hin, hspells⟩ := hset
    exact ⟨_, h.fromEnvironment name text hin hspells,
      h'.fromEnvironment name text ((hsame _).1 hin) hspells⟩
  · have hunset : ∀ e ∈ environment, Environment.path? e.1 ≠ some path := fun e he heq =>
      hset ⟨e, he, heq⟩
    have hunset' : ∀ e ∈ again, Environment.path? e.1 ≠ some path := fun e he =>
      hunset e ((hsame e).2 he)
    cases hgiven : (nest file).given path with
    | nil => exact ⟨none, h.byDefault hunset hgiven, h'.byDefault hunset' hgiven⟩
    | cons v rest =>
      have hv : v ∈ (nest file).given path := hgiven ▸ List.mem_cons_self
      exact ⟨some v, h.fromFile hunset v hv, h'.fromFile hunset' v hv⟩

/-- Of all settings with the same media types only one is layered from a file and from variables, in
whatever order these come. -/
theorem eq_of_layered {settings other : Settings} {again : List (String × String)}
    (hsame : ∀ e, e ∈ environment ↔ e ∈ again)
    (h : ∀ f ∈ fields, Layered file environment f.path (f.slot.Holds {} settings))
    (h' : ∀ f ∈ fields, Layered file again f.path (f.slot.Holds {} other))
    (hmedia : settings.mediaTypes = other.mediaTypes) : settings = other := by
  refine eq_of_fields (fun f hf => ?_) hmedia
  obtain ⟨v?, hholds, hholds'⟩ := (h f hf).both hsame (h' f hf)
  cases v? with
  | none => exact Eq.trans hholds (Eq.symm hholds')
  | some v => exact Except.ok.inj (Eq.trans (Eq.symm hholds) hholds')

/-! ### Loading -/

theorem load_eq (hfile : givenByFile d name = .ok file)
    (h : Shaped (file ++ Environment.given environment)) :
    load d name environment = ofValue (merged (file ++ Environment.given environment)) := by
  rw [load, hfile, ok_bind, setAll_eq h.named]
  rfl

/-- Where one variable is all that is given, its setting is what it stands for. -/
theorem load_variable {f : Field} {text : String} (hf : f ∈ fields)
    (hfile : givenByFile d name = .ok [])
    (hread : ∃ b, f.slot.read (Environment.value text) = .ok b) :
    ∃ settings, load d name [(f.variableName, text)] = .ok settings ∧
      f.slot.read (Environment.value text) = .ok (f.slot.get settings) := by
  obtain ⟨key, hkey, hsteps⟩ := key?_variableName f hf
  have hgiven : Environment.given [(f.variableName, text)] = [(key, Environment.value text)] := by
    simp [Environment.given, hkey, Environment.value]
  obtain ⟨hfits, honce⟩ := fits_singleton hf hsteps hread
  rw [← hgiven] at hfits honce
  have hmem : Environment.value text ∈
      (nest (Environment.given [(f.variableName, text)])).given f.path :=
    (Environment.mem_given_iff rfl).2
      ⟨_, text, List.mem_singleton.2 rfl, path?_variableName hf, rfl⟩
  obtain ⟨settings, hok, htaken⟩ := read_of_given hf hfits honce hmem
  have hboth : Fits ([] ++ Environment.given [(f.variableName, text)]) := by
    rw [List.nil_append]
    exact hfits
  refine ⟨settings, ?_, htaken⟩
  rw [load_eq hfile hboth.shaped, List.nil_append]
  exact hok

/-- Settings are loaded from a file and an environment that fit them. Each one is what its variable
stands for, or else what the file gives for it, or else its default. The media types are those of
both, under each name that of the environment before that of the file. Without a file and without
variables all settings are the defaults. -/
theorem load_layered (hfile : givenByFile d name = .ok file) (hfits : Fits file) (honce : Once file)
    (hfits' : Fits (Environment.given environment))
    (honce' : Once (Environment.given environment)) :
    ∃ settings, load d name environment = .ok settings ∧
      (∀ f ∈ fields, Environment.path? f.variableName = some f.path ∧
        Layered file environment f.path (f.slot.Holds {} settings)) ∧
      (∀ extension, Layered file environment (mediaPath ++ [extension]) fun v? =>
        v?.map toText = (settings.mediaTypes.lookup extension).map .ok) ∧
      (settings.mediaTypes.map (·.1)).Nodup ∧
      (fileOf d name = none → environment = [] → settings = {}) := by
  have hboth := hfits.append hfits'
  obtain ⟨settings, hok, hfields, hnodup, hmedia⟩ := ofValue_merged hboth
  refine ⟨settings, (load_eq hfile hboth.shaped).trans hok, fun f hf => ⟨path?_variableName hf, ?_⟩,
    fun extension => ?_, hnodup, fun hnofile hempty => ?_⟩
  · exact layered_merged (hboth.shaped.leads hf) (honce.plain f hf) (honce'.plain f hf)
      (hfields f hf)
  · exact layered_merged (hboth.shaped.leads_media extension) (honce.length_media extension)
      (honce'.length_media extension) (hmedia extension)
  · have hnothing : file = [] := by
      rw [givenByFile, hnofile] at hfile
      exact (Except.ok.inj hfile).symm
    subst hnothing hempty
    exact (Except.ok.inj hok).symm

/-- A directory with a file of settings of the given name. -/
def sampleDisk (fileName text : String) : Disk :=
  ({} : Disk).put [Utf8.ofString fileName] (.file (Utf8.ofString text) ⟨0, 0⟩ {})

/-- A port from the environment is taken before that of the file, and beside it the media type of
the file. -/
theorem load_layered_sampleFile :
    let d := sampleDisk "config.toml" "[server]\nport = 80\n\n[mime.types]\n\".A\" = \"b/c\"\n"
    let environment := [("DEVSERVE_SERVER__PORT", "9000")]
    ∃ file settings, (givenByFile d "config" = .ok file ∧ Fits file ∧ Once file ∧
        Fits (Environment.given environment) ∧ Once (Environment.given environment)) ∧
      load d "config" environment = .ok settings ∧ settings.server.port = 9000 ∧
      settings.mediaTypes = [(".a", "b/c")] ∧
      ∀ f ∈ fields, Layered file environment f.path (f.slot.Holds {} settings) := by
  intro d environment
  obtain ⟨file, hfile, hfits, honce⟩ : ∃ file, givenByFile d "config" = .ok file ∧
      Fits file ∧ Once file := by decide +kernel
  have hfits' : Fits (Environment.given environment) := by decide +kernel
  have honce' : Once (Environment.given environment) := by decide +kernel
  obtain ⟨settings, hok, hfields, -⟩ := load_layered hfile hfits honce hfits' honce'
  obtain ⟨settings', hok', hport, hmedia⟩ : ∃ settings, load d "config" environment = .ok settings ∧
      settings.server.port = 9000 ∧ settings.mediaTypes = [(".a", "b/c")] := by decide +kernel
  cases hok.symm.trans hok'
  exact ⟨file, settings, ⟨hfile, hfits, honce, hfits', honce'⟩, hok, hport, hmedia,
    fun f hf => (hfields f hf).2⟩

/-- A key with a place in a sequence is none of the settings, and yet displaces an item that the
file gives. Where the file gives a section as a sequence, a variable for one setting of the section
resets the others. -/
theorem load_not_layered :
    let items := sampleDisk "config.toml" "[http]\nindex_files = [\"a\", \"b\"]\n"
    let places := sampleDisk "config.toml" "server = [\"::1\", 80]\n"
    ("DEVSERVE_HTTP__INDEX_FILES[0]" ∉ fields.map Field.variableName ∧
      (∃ s, load items "config" [] = .ok s ∧ s.http.indexFiles = ["a", "b"]) ∧
      ∃ s, load items "config" [("DEVSERVE_HTTP__INDEX_FILES[0]", "z")] = .ok s ∧
        s.http.indexFiles = ["z", "b"]) ∧
    (∃ s, load places "config" [] = .ok s ∧ s.server.host = "::1" ∧ s.server.port = 80) ∧
      ∃ s, load places "config" [("DEVSERVE_SERVER__PORT", "9000")] = .ok s ∧
        s.server.host = "0.0.0.0" ∧ s.server.port = 9000 := by
  decide +kernel

end FileServer.Settings
