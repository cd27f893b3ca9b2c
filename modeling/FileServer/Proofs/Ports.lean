import FileServer.Launch.Prepare
import FileServer.Proofs.Documents.Ini
import FileServer.Proofs.Documents.Json
import FileServer.Proofs.Documents.Relaxed
import FileServer.Proofs.Documents.Ron
import FileServer.Proofs.Documents.Toml
import FileServer.Proofs.Documents.Yaml
import FileServer.Proofs.Layers
import FileServer.Settings.Format

/-!
The port. A whole number that is given for it, by its variable or in a file of any format, is first
taken for a value, and the port is read from that:

    whole number ──▶ whole number, floating-point number or text ──▶ port

A number in the range of ports arrives as it is, and any other one is refused, but for one case: a
number below those of 64 bits that was taken for a floating-point number ends as port zero.
-/

namespace FileServer

open Value

variable {n : Int} {s : Scalar}

/-! ### From a value to a port -/

/-- The number is in the range of ports. -/
def IsPort (n : Int) : Prop := 0 ≤ n ∧ n ≤ 65535

/-- The number is below those of 64 bits and was taken for a floating-point number. -/
def IsLost (n : Int) (s : Scalar) : Prop := n < Wide.least ∧ ∃ x, s = .floating x

theorem IsLost.neg (h : IsLost n s) : n < 0 := Int.lt_trans h.1 (by decide)

theorem truth?_toString (n : Int) : truth? false (Text.lower (toString n)) = none := by
  rw [lower_toString]
  unfold truth?
  split
  case h_7 => rfl
  case h_8 => rfl
  case h_9 => rfl
  all_goals exact absurd ‹_› (toString_ne (by decide) n)

/-- The natural number that is read from what stands for a whole number: the number itself, or zero
where it is lost, or else nothing or what is too large for a port. -/
theorem toNatural_cases (h : StandsFor n s) (origin : Option String) :
    (0 ≤ n ∨ IsLost n s) ∧ (scalar origin s).toNatural = .ok n.toNat ∨
      ¬IsPort n ∧ ¬IsLost n s ∧ ((∃ e, (scalar origin s).toNatural = .error e) ∨
        ∃ k, 65536 ≤ k ∧ (scalar origin s).toNatural = .ok k) := by
  cases h with
  | itself h =>
    have hkept : ¬IsLost n (.integer n) := fun ⟨_, _, hx⟩ => nomatch hx
    rcases Int.lt_or_le n 0 with hn | hn
    · exact .inr ⟨fun hport => Int.not_le.2 hn hport.1, hkept,
        .inl ⟨.mistyped (.wideInteger n) _ _ _, if_pos hn⟩⟩
    · exact .inl ⟨.inl hn, if_neg (Int.not_lt.2 hn)⟩
  | text =>
    have hkept : ¬IsLost n (.string (toString n)) := fun ⟨_, _, hx⟩ => nomatch hx
    have hwords := truth?_toString n
    have hread := readNatural?_toString n
    by_cases hn : 0 ≤ n ∧ n ≤ Wide.greatestNatural
    · rw [if_pos hn] at hread
      exact .inl ⟨.inl hn.1, by simp only [toNatural, hwords, hread]; rfl⟩
    · rw [if_neg hn] at hread
      refine .inr ⟨fun hport => hn ⟨hport.1, ?_⟩, hkept,
        .inl ⟨.mistyped (.string (toString n)) "an integer" none origin, ?_⟩⟩
      · exact Int.le_trans hport.2 (by decide)
      · simp only [toNatural, hwords, hread]
        rfl
  | below h hx =>
    have hzero : n.toNat = 0 := Int.toNat_eq_zero.2 (Int.le_trans (Int.le_of_lt h) (by decide))
    refine .inl ⟨.inr ⟨h, _, rfl⟩, ?_⟩
    show Except.ok (Int.toNat (Binary64.saturate _ _ _)) = _
    rw [hx.saturate_eq (by decide), hzero]
    rfl
  | above h hx =>
    have hlarge : ((2 ^ 16 : Nat) : Int) ≤ Binary64.saturate 0 Wide.greatestNatural _ :=
      hx.le_saturate (by decide)
    have hpos : Wide.least ≤ n := Int.le_trans (by decide) (Int.le_of_lt h)
    refine .inr ⟨fun hport => ?_, fun hlost => Int.not_lt.2 hpos hlost.1, .inr ⟨_, ?_, rfl⟩⟩
    · exact Int.not_le.2 (Int.lt_trans (by decide) h) hport.2
    · omega

/-- The port that is read from what stands for a whole number. -/
theorem toPort_of_standsFor (h : StandsFor n s) (origin : Option String) :
    (IsPort n ∨ IsLost n s → (scalar origin s).toPort = .ok n.toNat) ∧
      (¬IsPort n → ¬IsLost n s → ∃ e, (scalar origin s).toPort = .error e) := by
  unfold toPort
  rcases toNatural_cases h origin with ⟨hn, hok⟩ | ⟨hport, hlost, ⟨e, herror⟩ | ⟨k, hk, hok⟩⟩
  · rw [hok, ok_bind]
    constructor
    · intro hcase
      have hsmall : n.toNat < 65536 := by
        rcases hcase with hport | hlost
        · have := hport.2
          omega
        · have := hlost.neg
          omega
      rw [if_pos hsmall]
      rfl
    · intro hport hlost
      have hlarge : ¬n.toNat < 65536 := fun hsmall =>
        hport ⟨hn.resolve_right hlost, by omega⟩
      rw [if_neg hlarge]
      exact ⟨_, rfl⟩
  · rw [herror, error_bind]
    exact ⟨fun hcase => absurd hcase (not_or.2 ⟨hport, hlost⟩), fun _ _ => ⟨e, rfl⟩⟩
  · rw [hok, ok_bind, if_neg (Nat.not_lt.2 hk)]
    exact ⟨fun hcase => absurd hcase (not_or.2 ⟨hport, hlost⟩), fun _ _ => ⟨_, rfl⟩⟩

/-! ### Files with a port -/

namespace Format

/-- What a whole number in a file is taken for. -/
def taken? (f : Format) (n : Int) : Option Scalar :=
  match f with
  | toml | relaxedJson => held? n
  | json => Json.whole? n
  | yaml | ron => some (rounded n)
  | ini => some (.string (toString n))

/-- What a whole number is taken for stands for it, and only a number beyond 64 bits is refused. -/
theorem taken?_cases (f : Format) (n : Int) :
    (∃ s, f.taken? n = some s ∧ StandsFor n s) ∨ f.taken? n = none ∧ Wide.holds n ≠ true := by
  have hheld : (∃ s, held? n = some s ∧ StandsFor n s) ∨
      held? n = none ∧ Wide.holds n ≠ true := by
    cases h : held? n with
    | some s => exact .inl ⟨s, rfl, standsFor_of_held? h⟩
    | none => exact .inr ⟨rfl, not_holds_of_held? h⟩
  cases f with
  | toml => exact hheld
  | relaxedJson => exact hheld
  | json => exact Json.whole?_cases n
  | yaml => exact .inl ⟨_, rfl, standsFor_rounded n⟩
  | ron => exact .inl ⟨_, rfl, standsFor_rounded n⟩
  | ini => exact .inl ⟨_, rfl, .text⟩

/-- A file that gives a port and nothing else. -/
def portText (f : Format) (n : Int) : String :=
  match f with
  | toml | ini => "[server]\nport = " ++ toString n ++ "\n"
  | json | relaxedJson => "\x7b\"server\": \x7b\"port\": " ++ toString n ++ "\x7d\x7d\n"
  | yaml => "server:\n  port: " ++ toString n ++ "\n"
  | ron => "(server: (port: " ++ toString n ++ "))\n"

end Format

/-- A value for the port as it is given in a file. -/
def portEntries (origin : Option String) (s : Scalar) : List (String × Value) :=
  [("server", .table origin [("port", .scalar origin s)])]

theorem Format.read_portText (f : Format) (n : Int) : f.read (f.portText n) =
    match f.taken? n with
    | some s => .ok (portEntries none s)
    | none => .error .unreadable := by
  unfold read
  cases f <;> dsimp only
  case toml =>
    rw [show Toml.read? (portText .toml n) = _ from Toml.read?_port n, taken?]
    cases held? n <;> rfl
  case json =>
    rw [show Json.read? (portText .json n) = _ from Json.read?_port n, taken?]
    cases Json.whole? n <;> rfl
  case yaml => exact Yaml.read_port n
  case ini =>
    rw [show Ini.read? (portText .ini n) = _ from Ini.read?_port n]
    rfl
  case ron =>
    rw [show Ron.read? (portText .ron n) = _ from Ron.read?_port n]
    rfl
  case relaxedJson =>
    rw [show Json.Relaxed.read? (portText .relaxedJson n) = _ from Json.Relaxed.read?_port n,
      taken?]
    cases held? n <;> rfl

namespace Settings

variable {d : Disk} {name : String} {environment : List (String × String)} {p : Path} {f : Format}
  {origin : Option String} {file given : List (String × Value)} {taken? : Option Scalar}

theorem givenByFile_portText (hfile : fileOf d name = some (p, f))
    (htext : textAt? d p = some (f.portText n)) : givenByFile d name =
      match f.taken? n with
      | some s => .ok (portEntries (some (displayName d p)) s)
      | none => .error .unreadable := by
  unfold givenByFile
  simp only [hfile, htext, f.read_portText]
  cases f.taken? n <;> rfl

/-! ### The port among the settings -/

/-- The path to the port. -/
def portPath : List String := ["server", "port"]

/-- The port as a setting. -/
def portField : Field := fields[1]

theorem portField_mem : portField ∈ fields := List.getElem_mem _

theorem path?_portVariable : Environment.path? "DEVSERVE_SERVER__PORT" = some portPath := by
  have hname : portField.variableName = "DEVSERVE_SERVER__PORT" := by decide +kernel
  rw [← hname]
  exact path?_variableName portField_mem

theorem Shaped.leads_port (h : Shaped given) : Leads portPath (nest given) := h.leads portField_mem

/-- What counts for all settings but the port can be read. -/
def ReadableBesidePort (given : List (String × Value)) : Prop :=
  ∀ f ∈ fields, f.path ≠ portPath → ∀ v ∈ ((nest given).given f.path).getLast?,
    ∃ b, f.slot.read v = .ok b

instance (given : List (String × Value)) : Decidable (ReadableBesidePort given) :=
  inferInstanceAs (Decidable (∀ f ∈ fields, _))

/-- The port is read from the value that counts for it, and refused with it. -/
theorem ofValue_port (hshaped : Shaped given)
    (hlast : ((nest given).given portPath).getLast? = some (.scalar origin s)) :
    (∀ port, (scalar origin s).toPort = .ok port → ReadableBesidePort given →
        ∃ settings, ofValue (merged given) = .ok settings ∧ settings.server.port = port) ∧
      ∀ e, (scalar origin s).toPort = .error e → ∃ e', ofValue (merged given) = .error e' := by
  constructor
  · intro port hport hbeside
    obtain ⟨settings, hok, hholds, -⟩ := hshaped.ofValue_merged fun f hf v hv => by
      by_cases hpath : f.path = portPath
      · obtain rfl : f = portField := eq_of_path_eq hf portField_mem hpath
        obtain rfl := Option.some.inj (hlast.symm.trans hv)
        exact ⟨port, hport⟩
      · exact hbeside f hf hpath v hv
    have hread := hholds portField portField_mem
    have hcounts : (merged given).at? portField.path = some (.scalar origin s) :=
      (at?_merged hshaped.leads_port).trans hlast
    rw [hcounts] at hread
    exact ⟨settings, hok, (Except.ok.inj (hport.symm.trans hread)).symm⟩
  · intro e herror
    cases hok : ofValue (merged given) with
    | error e' => exact ⟨e', rfl⟩
    | ok settings =>
      obtain ⟨b, hb⟩ := hshaped.readable_of_ofValue hok portField_mem hlast
      cases herror.symm.trans hb

/-! ### Loading a port -/

/-- The ways to give a whole number as the port, with what it is taken for. -/
inductive PortGiven (d : Disk) (name : String) (environment : List (String × String)) (n : Int) :
    Option Scalar → Prop
  /-- By its variable, over whatever the file gives. -/
  | byVariable {file : List (String × Value)} (hfile : givenByFile d name = .ok file)
      (hset : ("DEVSERVE_SERVER__PORT", toString n) ∈ environment)
      (hagree : ∀ e ∈ environment, Environment.path? e.1 = some portPath → e.2 = toString n) :
      PortGiven d name environment n (some (rounded n))
  /-- In any file, as the last number that is given at the path of the port. -/
  | within {p : Path} {f : Format} {file : List (String × Value)} {origin : Option String}
      {s : Scalar} (hformat : fileOf d name = some (p, f)) (hfile : givenByFile d name = .ok file)
      (hlast : ((nest file).given portPath).getLast? = some (.scalar origin s))
      (htaken : f.taken? n = some s)
      (hunset : ∀ e ∈ environment, Environment.path? e.1 ≠ some portPath) :
      PortGiven d name environment n (some s)
  /-- In a file that gives nothing else. -/
  | alone {p : Path} {f : Format} (hformat : fileOf d name = some (p, f))
      (htext : textAt? d p = some (f.portText n))
      (hunset : ∀ e ∈ environment, Environment.path? e.1 ≠ some portPath) :
      PortGiven d name environment n (f.taken? n)

/-- What comes of a whole number that is given as the port. -/
structure PortOutcome (n : Int) (taken? : Option Scalar) (beside : Prop)
    (loaded : Except SettingsError Settings) : Prop where
  arrives : IsPort n → beside → ∃ settings, loaded = .ok settings ∧
    (settings.server.port : Int) = n ∧
    ∀ ip, IpAddress.ofText settings.server.host = .ok ip →
      ∃ port : UInt16, settings.address = .ok { ip, port } ∧ (port.toNat : Int) = n
  lost : (∃ s ∈ taken?, IsLost n s) → beside →
    ∃ settings, loaded = .ok settings ∧ settings.server.port = 0
  refused : ¬IsPort n → (∀ s ∈ taken?, ¬IsLost n s) → ∃ e, loaded = .error e

/-- What is refused in the file is refused. -/
theorem portOutcome_of_unreadable {beside : Prop} (hfile : givenByFile d name = .error .unreadable)
    (hn : Wide.holds n ≠ true) :
    PortOutcome n none beside (load d name environment) where
  arrives hport := by
    have hholds : Wide.holds n = true :=
      holds_iff.2 ⟨Int.le_trans (by decide) hport.1, Int.le_trans hport.2 (by decide)⟩
    exact absurd hholds hn
  lost hlost := by
    obtain ⟨s, hs, -⟩ := hlost
    cases hs
  refused _ _ := ⟨.unreadable, by rw [load, hfile, error_bind]⟩

/-- What comes of the value that counts for the port. -/
theorem portOutcome_of_counts {beside : Prop} (hfile : givenByFile d name = .ok file)
    (hshaped : Shaped (file ++ Environment.given environment))
    (hlast : ((nest (file ++ Environment.given environment)).given portPath).getLast? =
      some (.scalar origin s)) (hs : StandsFor n s)
    (hbeside : beside → ReadableBesidePort (file ++ Environment.given environment)) :
    PortOutcome n (some s) beside (load d name environment) := by
  obtain ⟨hok, herror⟩ := ofValue_port hshaped hlast
  obtain ⟨hread, hrefused⟩ := toPort_of_standsFor hs origin
  rw [load_eq hfile hshaped]
  constructor
  case arrives =>
    intro hport hall
    obtain ⟨settings, hloaded, hsame⟩ := hok _ (hread (.inl hport)) (hbeside hall)
    obtain ⟨hlow, hhigh⟩ := hport
    refine ⟨settings, hloaded, by omega, fun ip hip => ?_⟩
    refine ⟨settings.server.port.toUInt16, ?_, ?_⟩
    · rw [address, hip]
      rfl
    · show ((settings.server.port % 65536 : Nat) : Int) = n
      omega
  case lost =>
    rintro ⟨t, ht, hlost⟩ hall
    obtain rfl := Option.some.inj ht
    obtain ⟨settings, hloaded, hsame⟩ := hok _ (hread (.inr hlost)) (hbeside hall)
    have := hlost.neg
    exact ⟨settings, hloaded, by omega⟩
  case refused =>
    intro hport hkept
    obtain ⟨e, he⟩ := hrefused hport (hkept s rfl)
    exact herror e he

theorem given_portEntries (origin : Option String) (s : Scalar) :
    (nest (portEntries origin s)).given portPath = [.scalar origin s] := by
  have hkey : Key.ofText "server" = ⟨"server", []⟩ := by decide +kernel
  have hserver : Text.lower "server" = "server" := (lower_path portField portField_mem).1
  have hport : Text.lower "port" = "port" := (lower_path portField portField_mem).2
  rw [portEntries, nest_singleton, hkey]
  show (table none [("server", table origin [("port", _)])]).given ["server", "port"] = _
  rw [given_cons, if_pos hserver, given_cons, if_pos hport]
  rfl

/-- A whole number that is given as the port, by its variable or in a file of any format, arrives as
it is if it is in the range of ports, and is refused else, also by the format, unless it is lost. -/
theorem load_port (hport : PortGiven d name environment n taken?)
    (hshaped : ∀ file, givenByFile d name = .ok file →
      Shaped (file ++ Environment.given environment)) :
    PortOutcome n taken?
      (∀ file, givenByFile d name = .ok file →
        ReadableBesidePort (file ++ Environment.given environment))
      (load d name environment) := by
  cases hport with
  | byVariable hfile hset hagree =>
    have hlast := getLast?_given_of_set (hshaped _ hfile).leads_port
      ⟨_, hset, path?_portVariable⟩ hagree
    rw [Environment.value, scalarOf_toString] at hlast
    exact portOutcome_of_counts hfile (hshaped _ hfile) hlast (standsFor_rounded n)
      fun hall => hall _ hfile
  | within hformat hfile hlast htaken hunset =>
    rcases Format.taken?_cases _ n with ⟨t, ht, hstands⟩ | ⟨hnone, -⟩
    · obtain rfl := Option.some.inj (htaken.symm.trans ht)
      have hcounts := (getLast?_given_of_unset (hshaped _ hfile).leads_port hunset).trans hlast
      exact portOutcome_of_counts hfile (hshaped _ hfile) hcounts hstands fun hall => hall _ hfile
    · cases htaken.symm.trans hnone
  | @alone p f hformat htext hunset =>
    have hgiven := givenByFile_portText hformat htext
    rcases Format.taken?_cases f n with ⟨s, hs, hstands⟩ | ⟨hnone, hholds⟩
    · rw [hs] at hgiven ⊢
      have hcounts := (getLast?_given_of_unset (hshaped _ hgiven).leads_port hunset).trans
        (congrArg List.getLast? (given_portEntries _ s))
      exact portOutcome_of_counts hgiven (hshaped _ hgiven) hcounts hstands
        fun hall => hall _ hgiven
    · rw [hnone] at hgiven ⊢
      exact portOutcome_of_unreadable hgiven hholds

/-- A port in a file is that of the address, with the default host. -/
theorem load_port_sampleFile :
    let d := sampleDisk "config.yaml" "server:\n  port: 8080\n"
    ∃ file settings,
      (PortGiven d "config" [] 8080 (some (.integer 8080)) ∧ givenByFile d "config" = .ok file ∧
        Shaped file ∧ ReadableBesidePort file) ∧
      load d "config" [] = .ok settings ∧ settings.server.port = 8080 ∧
      settings.address = .ok { ip := .v4 0 0 0 0, port := 8080 } := by
  intro d
  obtain ⟨file, hfile, hshaped, hbeside⟩ : ∃ file, givenByFile d "config" = .ok file ∧
      Shaped file ∧ ReadableBesidePort file := by decide +kernel
  have hformat : fileOf d "config" = some (⟨Utf8.ofString "/config.yaml"⟩, Format.yaml) := by
    decide +kernel
  have htext : textAt? d ⟨Utf8.ofString "/config.yaml"⟩ = some (Format.yaml.portText 8080) := by
    decide +kernel
  have hgiven : PortGiven d "config" [] 8080 (some (.integer 8080)) :=
    .alone hformat htext (fun _ h => nomatch h)
  have hall : ∀ other, givenByFile d "config" = .ok other →
      other ++ Environment.given [] = file := by
    intro other hother
    rw [← Except.ok.inj (hfile.symm.trans hother)]
    exact List.append_nil file
  obtain ⟨harrives, -, -⟩ := load_port hgiven fun other hother => hall other hother ▸ hshaped
  obtain ⟨settings, hok, hnumber, haddress⟩ :=
    harrives (by unfold IsPort; omega) fun other hother => hall other hother ▸ hbeside
  obtain ⟨settings', hok', hhost⟩ : ∃ settings, load d "config" [] = .ok settings ∧
      settings.server.host = "0.0.0.0" := by decide +kernel
  obtain rfl := Except.ok.inj (hok.symm.trans hok')
  obtain ⟨port, hport, hsame⟩ := haddress (.v4 0 0 0 0) (by rw [hhost]; decide +kernel)
  obtain rfl : port = 8080 := UInt16.toNat_inj.1 (Int.ofNat_inj.1 hsame)
  exact ⟨file, settings, ⟨hgiven, hfile, hshaped, hbeside⟩, hok, Int.ofNat_inj.1 hnumber, hport⟩

/-- A number below those of 64 bits is lost in a variable and in some formats, but refused in others.
All others outside of the range of ports are refused. -/
theorem port_lost :
    let port (d : Disk) (environment : List (String × String)) : Option Nat :=
      (load d "config" environment).toOption.map (·.server.port)
    port {} [("DEVSERVE_SERVER__PORT", "-99999999999999999999")] = some 0 ∧
      port {} [("DEVSERVE_SERVER__PORT", "-1")] = none ∧
      port {} [("DEVSERVE_SERVER__PORT", "99999999999999999999")] = none ∧
      port (sampleDisk "config.yaml" "server:\n  port: -99999999999999999999\n") [] = some 0 ∧
      port (sampleDisk "config.toml" "[server]\nport = -99999999999999999999\n") [] = none := by
  decide +kernel

end Settings

end FileServer
