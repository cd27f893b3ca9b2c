import FileServer.Proofs.Groups
import FileServer.Proofs.Keys
import Mathlib.Data.List.Nodup

/-!
The settings by their sections. Every setting is a slot in the slot of its section, so the settings
that are read from a table of tables hold what stands at the path of each.
-/

namespace FileServer.Settings

open Value

variable {root : Value} {settings : Settings}

/-! ### The settings -/

/-- A section of the settings, with the slots in it. -/
structure Section where
  name : String
  /-- How the kind of the section is named in a refusal. -/
  words : String
  {kind : Type}
  slots : List (Slot kind)
  apart : Apart slots
  get : Settings → kind
  set : kind → Settings → Settings
  get_set : ∀ b a, get (set b a) = b

/-- The section as a slot of the settings. -/
def Section.slot (s : Section) : Slot Settings where
  name := s.name
  read := toGroup s.words (s.slots.map Slot.setter) (s.get {})
  get := s.get
  set := s.set
  get_set := s.get_set

/-- The section on the server. -/
def serverSection : Section where
  name := "server"
  words := "ServerConfig"
  slots :=
    [⟨"host", toText, (·.host), fun host s => { s with host }, fun _ _ => rfl⟩,
      ⟨"port", toPort, (·.port), fun port s => { s with port }, fun _ _ => rfl⟩,
      ⟨"root", toText, (·.root), fun root s => { s with root }, fun _ _ => rfl⟩,
      ⟨"workers", toOptional toNatural, (·.workers), fun workers s => { s with workers },
        fun _ _ => rfl⟩]
  apart := ⟨by decide, by simp⟩
  get := (·.server)
  set server s := { s with server }
  get_set _ _ := rfl

/-- The section on logging. -/
def loggingSection : Section where
  name := "logging"
  words := "LoggingConfig"
  slots :=
    [⟨"access_log", toBool, (·.accessLog), fun accessLog s => { s with accessLog },
        fun _ _ => rfl⟩,
      ⟨"access_log_format", toText, (·.accessLogFormat),
        fun accessLogFormat s => { s with accessLogFormat }, fun _ _ => rfl⟩,
      ⟨"access_log_file", toOptional toText, (·.accessLogFile),
        fun accessLogFile s => { s with accessLogFile }, fun _ _ => rfl⟩,
      ⟨"error_log_file", toOptional toText, (·.errorLogFile),
        fun errorLogFile s => { s with errorLogFile }, fun _ _ => rfl⟩]
  apart := ⟨by decide, by simp⟩
  get := (·.logging)
  set logging s := { s with logging }
  get_set _ _ := rfl

/-- The section on performance. -/
def performanceSection : Section where
  name := "performance"
  words := "PerformanceConfig"
  slots :=
    [⟨"keep_alive", toBool, (·.keepAlive), fun keepAlive s => { s with keepAlive },
        fun _ _ => rfl⟩,
      ⟨"read_timeout", toNatural, (·.readTimeout), fun readTimeout s => { s with readTimeout },
        fun _ _ => rfl⟩,
      ⟨"max_connections", toOptional toNatural, (·.maxConnections),
        fun maxConnections s => { s with maxConnections }, fun _ _ => rfl⟩]
  apart := ⟨by decide, by simp⟩
  get := (·.performance)
  set performance s := { s with performance }
  get_set _ _ := rfl

/-- The section on HTTP. -/
def httpSection : Section where
  name := "http"
  words := "HttpConfig"
  slots :=
    [⟨"server_name", toText, (·.serverName), fun serverName s => { s with serverName },
        fun _ _ => rfl⟩,
      ⟨"index_files", toList toText, (·.indexFiles), fun indexFiles s => { s with indexFiles },
        fun _ _ => rfl⟩,
      ⟨"directory_listing", toBool, (·.directoryListing),
        fun directoryListing s => { s with directoryListing }, fun _ _ => rfl⟩]
  apart := ⟨by decide, by simp⟩
  get := (·.http)
  set http s := { s with http }
  get_set _ _ := rfl

/-- The section on media types. -/
def mediaSection : Section where
  name := "mime"
  words := "MimeConfig"
  slots := [⟨"types", toEntries toText, id, fun types _ => types, fun _ _ => rfl⟩]
  apart := ⟨by decide, by simp⟩
  get := (·.mediaTypes)
  set mediaTypes s := { s with mediaTypes }
  get_set _ _ := rfl

/-- The sections that have settings of fixed names. -/
def plainSections : List Section := [serverSection, loggingSection, performanceSection, httpSection]

/-- All sections. -/
def sections : List Section := plainSections ++ [mediaSection]

/-- A setting in its section. -/
structure Field where
  group : String
  slot : Slot Settings

/-- The settings of a section. -/
def Section.fields (s : Section) : List Field :=
  s.slots.map fun slot => ⟨s.name, s.slot.within slot⟩

/-- The settings that have fixed names. -/
def fields : List Field := plainSections.flatMap Section.fields

namespace Field

/-- The path to a setting. -/
def path (f : Field) : List String := [f.group, f.slot.name]

/-- The variable for a setting. -/
def variableName (f : Field) : String :=
  "DEVSERVE_" ++ f.group.toUpper ++ "__" ++ f.slot.name.toUpper

end Field

/-- The path to the media types. -/
def mediaPath : List String := ["mime", "types"]

theorem ofValue_eq (v : Value) : ofValue v =
    toGroup "Config" ((sections.map Section.slot).map Slot.setter) {} v := rfl

theorem apart_sections : Apart (sections.map Section.slot) :=
  ⟨by decide, by simp [sections, plainSections, Section.slot, serverSection, loggingSection,
    performanceSection, httpSection, mediaSection]⟩

/-- The names of a setting are in small letters. -/
theorem lower_path : ∀ f ∈ fields, Text.lower f.group = f.group ∧
    Text.lower f.slot.name = f.slot.name := by
  have hsmall : ∀ f ∈ fields, ∀ s ∈ f.path, Text.IsPlain s.toList ∧
      s.toList.map Char.toLower = s.toList := by decide +kernel
  intro f hf
  obtain ⟨hgroup, hname, -⟩ := List.forall_mem_cons.1 (hsmall f hf) |>.imp_right
    List.forall_mem_cons.1
  exact ⟨Text.lower_small hgroup.1 hgroup.2, Text.lower_small hname.1 hname.2⟩

/-- The variable for a setting leads into its section. -/
theorem key?_variableName : ∀ f ∈ fields, ∃ key, Environment.key? f.variableName = some key ∧
    Key.ofText key = ⟨f.group, [.name f.slot.name]⟩ := by
  have hplain : ∀ f ∈ fields, Text.IsPlain f.variableName.toList ∧
      (Text.word Environment.front (f.variableName.toList.map Char.toLower)).map (fun rest =>
        Key.ofText (String.ofList (Environment.withPoints rest))) =
          some ⟨f.group, [.name f.slot.name]⟩ := by decide +kernel
  intro f hf
  obtain ⟨hname, hkey⟩ := hplain f hf
  obtain ⟨rest, hrest, hk⟩ := Option.map_eq_some_iff.1 hkey
  exact ⟨_, by rw [Environment.key?_plain hname, hrest]; rfl, hk⟩

/-- The variable for a setting spells its path. -/
theorem path?_variableName {f : Field} (hf : f ∈ fields) :
    Environment.path? f.variableName = some f.path := by
  obtain ⟨key, hkey, hsteps⟩ := key?_variableName f hf
  obtain ⟨hgroup, hname⟩ := lower_path f hf
  rw [Environment.path?, hkey, Option.map_some, hsteps, Key.path]
  simp [Key.below, Field.path, hgroup, hname]

/-- There are no settings but the ones with fixed names and the media types. -/
theorem eq_of_fields {other : Settings} (h : ∀ f ∈ fields, f.slot.get settings = f.slot.get other)
    (hmedia : settings.mediaTypes = other.mediaTypes) : settings = other := by
  obtain ⟨⟨⟩, ⟨⟩, ⟨⟩, ⟨⟩, _⟩ := settings
  obtain ⟨⟨⟩, ⟨⟩, ⟨⟩, ⟨⟩, _⟩ := other
  simp_all [fields, plainSections, Section.fields, Section.slot, Slot.within, serverSection,
    loggingSection, performanceSection, httpSection]

/-- No two settings have the same path. -/
theorem eq_of_path_eq {f other : Field} (hf : f ∈ fields) (hother : other ∈ fields)
    (h : f.path = other.path) : f = other := by
  have hnodup : (fields.map Field.path).Nodup := by decide +kernel
  exact List.inj_on_of_nodup_map hnodup hf hother h

theorem path_ne_mediaPath : ∀ f ∈ fields, f.path ≠ mediaPath := by
  decide +kernel

/-! ### Settings from a table of tables -/

/-- The settings can be read from a table of sections if all that stands at the paths of settings
can be read. Every setting is then what stands at its path. -/
theorem ofValue_filled (hroot : root.isTable = true)
    (hnodup : ∀ path w, root.at? path = some w → w.names.Nodup)
    (hsections : ∀ s ∈ sections, ∀ w, root.at? [s.name] = some w → w.isTable = true)
    (hread : ∀ f ∈ sections.flatMap Section.fields, ∀ w, root.at? f.path = some w →
      ∃ b, f.slot.read w = .ok b) :
    ∃ settings, ofValue root = .ok settings ∧ ∀ f ∈ sections.flatMap Section.fields,
      f.slot.Holds {} settings (root.at? f.path) := by
  have hsection : ∀ s ∈ sections, ∀ w, root.at? [s.name] = some w → ∃ b, s.slot.read w = .ok b ∧
      ∀ slot ∈ s.slots, slot.Holds (s.get {}) b (w.at? [slot.name]) := by
    intro s hs w hw
    refine toGroup_filled s.words s.apart (hsections s hs w hw) (hnodup [s.name] w hw)
      (fun slot hslot x hx => ?_) (s.get {})
    have hfield : ⟨s.name, s.slot.within slot⟩ ∈ sections.flatMap Section.fields :=
      List.mem_flatMap.2 ⟨s, hs, List.mem_map_of_mem hslot⟩
    refine hread _ hfield x ?_
    rw [Field.path, at?_cons, hw]
    exact hx
  obtain ⟨settings, hok, hholds⟩ := toGroup_filled "Config" apart_sections hroot
    (hnodup [] root rfl) (fun slot hslot w hw => by
      obtain ⟨s, hs, rfl⟩ := List.mem_map.1 hslot
      obtain ⟨b, hb, -⟩ := hsection s hs w hw
      exact ⟨b, hb⟩) {}
  refine ⟨settings, (ofValue_eq root).trans hok, fun f hf => ?_⟩
  obtain ⟨s, hs, hfield⟩ := List.mem_flatMap.1 hf
  obtain ⟨slot, hslot, rfl⟩ := List.mem_map.1 hfield
  rw [Field.path, at?_cons]
  refine Slot.holds_within (hholds s.slot (List.mem_map_of_mem hs)) fun v hv b hb => ?_
  obtain ⟨b', hb', hslots⟩ := hsection s hs v hv
  cases hb.symm.trans hb'
  exact hslots slot hslot

/-- Where settings have been read from a table of sections, what stands at the paths of settings has
been read. -/
theorem readable_of_ofValue (hroot : root.isTable = true)
    (hsections : ∀ s ∈ sections, ∀ w, root.at? [s.name] = some w → w.isTable = true)
    (h : ofValue root = .ok settings) : ∀ f ∈ sections.flatMap Section.fields, ∀ w,
      root.at? f.path = some w → ∃ b, f.slot.read w = .ok b := by
  intro f hf w hw
  obtain ⟨s, hs, hfield⟩ := List.mem_flatMap.1 hf
  obtain ⟨slot, hslot, rfl⟩ := List.mem_map.1 hfield
  rw [Field.path, at?_cons] at hw
  obtain ⟨table, htable, hw⟩ := Option.bind_eq_some_iff.1 hw
  rw [ofValue_eq] at h
  obtain ⟨b, hb⟩ := readable_of_toGroup apart_sections hroot h s.slot (List.mem_map_of_mem hs)
    table htable
  exact readable_of_toGroup s.apart (hsections s hs table htable) hb slot hslot w hw

/-! ### What is no table -/

theorem isTable_of_toText {t : String} {v : Value} (h : toText v = .ok t) : v.isTable = false := by
  cases v with
  | table => cases h
  | _ => rfl

/-- No setting of the section is read from a table. -/
def Section.RefusesTables (s : Section) : Prop := ∀ slot ∈ s.slots, ∀ origin entries,
  (slot.read (table origin entries)).toOption = none

theorem refusesTables : ∀ s ∈ plainSections, s.RefusesTables := by
  simp only [plainSections, List.forall_mem_cons, Section.RefusesTables, serverSection,
    loggingSection, performanceSection, httpSection]
  and_intros <;> first | exact fun _ _ => rfl | simp

/-- A setting of a fixed name is not read from a table. -/
theorem isTable_of_read {f : Field} (hf : f ∈ fields) {v : Value} {b : f.slot.kind}
    (h : f.slot.read v = .ok b) : v.isTable = false := by
  obtain ⟨s, hs, hfield⟩ := List.mem_flatMap.1 hf
  obtain ⟨slot, hslot, rfl⟩ := List.mem_map.1 hfield
  cases v with
  | table origin entries =>
    have hnone := refusesTables s hs slot hslot origin entries
    rw [show slot.read (table origin entries) = .ok b from h] at hnone
    cases hnone
  | _ => rfl

theorem exists_section {f : Field} (hf : f ∈ fields) : ∃ s ∈ sections, f.group = s.name := by
  obtain ⟨s, hs, hfield⟩ := List.mem_flatMap.1 hf
  obtain ⟨slot, -, rfl⟩ := List.mem_map.1 hfield
  exact ⟨s, List.mem_append_left _ hs, rfl⟩

end FileServer.Settings
