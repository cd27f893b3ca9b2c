import FileServer.Proofs.Layers
import FileServer.Proofs.Numerals

/-!
Text settings from the environment. The text of a variable is first taken for a truth value or a
number if it looks like one, and is then written anew, so a setting is not always the text that was
given for it:

    truth value > whole number > number > text
-/

namespace FileServer

open Text Value

namespace Environment

variable {v : String}

/-- The text that arrives in a text setting when `v` is given for it. -/
def arriving (v : String) : String :=
  match scalarOf v with
  | .boolean b => toString b
  | .integer n => toString n
  | .floating x => x.text
  | _ => v

/-- A text that is written as what it is taken for: a truth value in small letters, a whole number
with nothing superfluous, another number in its shortest form, or anything that looks like neither.
-/
structure IsVerbatim (v : String) : Prop where
  truth : lower v = "true" → v = "true"
  falsehood : lower v = "false" → v = "false"
  whole : ∀ n, Wide.read? v = some n → IsPlainNumeral v.toList
  number : ∀ x, Wide.read? v = none → Binary64.ofText? v = some x → x.text = v

/-- What a text is taken for. -/
theorem scalarOf_cases (v : String) :
    lower v = "true" ∧ scalarOf v = .boolean true ∨
      lower v = "false" ∧ scalarOf v = .boolean false ∨
      lower v ≠ "true" ∧ lower v ≠ "false" ∧
        ((∃ n, Wide.read? v = some n ∧ scalarOf v = .integer n) ∨
          Wide.read? v = none ∧
            ((∃ x, Binary64.ofText? v = some x ∧ scalarOf v = .floating x) ∨
              Binary64.ofText? v = none ∧ scalarOf v = .string v)) := by
  unfold scalarOf
  split
  case h_1 h => exact .inl ⟨h, rfl⟩
  case h_2 h => exact .inr (.inl ⟨h, rfl⟩)
  case h_3 htrue hfalse =>
    refine .inr (.inr ⟨htrue, hfalse, ?_⟩)
    cases hread : Wide.read? v with
    | some n => exact .inl ⟨n, rfl, rfl⟩
    | none =>
      refine .inr ⟨rfl, ?_⟩
      cases hnumber : Binary64.ofText? v with
      | some x => exact .inl ⟨x, rfl, rfl⟩
      | none => exact .inr ⟨rfl, rfl⟩

theorem toText_value (v : String) : toText (value v) = .ok (arriving v) := by
  rw [value, arriving]
  rcases scalarOf_cases v with ⟨-, h⟩ | ⟨-, h⟩ | ⟨-, -, ⟨n, -, h⟩ | ⟨-, ⟨x, -, h⟩ | ⟨-, h⟩⟩⟩ <;>
    · rw [h]
      rfl

theorem isVerbatim_true : IsVerbatim "true" where
  truth _ := rfl
  falsehood h := absurd h (by decide +kernel)
  whole _ h := absurd h (by rw [show Wide.read? "true" = none by decide +kernel]; simp)
  number _ _ h := absurd h (by rw [show Binary64.ofText? "true" = none by decide +kernel]; simp)

theorem isVerbatim_false : IsVerbatim "false" where
  truth h := absurd h (by decide +kernel)
  falsehood _ := rfl
  whole _ h := absurd h (by rw [show Wide.read? "false" = none by decide +kernel]; simp)
  number _ _ h := absurd h (by rw [show Binary64.ofText? "false" = none by decide +kernel]; simp)

/-- A text that is no truth value is verbatim if it is so as a number. -/
theorem isVerbatim_of_ne (htrue : lower v ≠ "true") (hfalse : lower v ≠ "false")
    (whole : ∀ n, Wide.read? v = some n → IsPlainNumeral v.toList)
    (number : ∀ x, Wide.read? v = none → Binary64.ofText? v = some x → x.text = v) :
    IsVerbatim v :=
  ⟨fun h => absurd h htrue, fun h => absurd h hfalse, whole, number⟩

theorem scalarOf_ne_nothing (v : String) : scalarOf v ≠ .nothing := by
  intro hnothing
  rcases scalarOf_cases v with ⟨-, h⟩ | ⟨-, h⟩ | ⟨-, -, ⟨n, -, h⟩ | ⟨-, ⟨x, -, h⟩ | ⟨-, h⟩⟩⟩ <;>
    cases h.symm.trans hnothing

theorem toOptional_value (v : String) :
    toOptional toText (value v) = .ok (some (arriving v)) := by
  unfold toOptional
  split
  case h_1 heq => exact absurd (Value.scalar.inj heq).2 (scalarOf_ne_nothing v)
  case h_2 =>
    rw [toText_value]
    rfl

/-- A text arrives as it was given exactly if it is verbatim. -/
theorem arriving_eq_iff : arriving v = v ↔ IsVerbatim v := by
  rw [arriving]
  rcases scalarOf_cases v with ⟨hword, h⟩ | ⟨hword, h⟩ |
    ⟨htrue, hfalse, ⟨n, hread, h⟩ | ⟨hread, hnumber⟩⟩
  · rw [h]
    constructor
    · intro htrue
      have hv : v = "true" := Eq.symm htrue
      exact hv ▸ isVerbatim_true
    · exact fun hv => (hv.truth hword).symm
  · rw [h]
    constructor
    · intro hfalse
      have hv : v = "false" := Eq.symm hfalse
      exact hv ▸ isVerbatim_false
    · exact fun hv => (hv.falsehood hword).symm
  · rw [h]
    refine (toString_eq_iff hread).trans ⟨fun hplain => ?_, fun hv => hv.whole n hread⟩
    refine isVerbatim_of_ne htrue hfalse (fun _ _ => hplain) fun _ hnone => ?_
    rw [hread] at hnone
    cases hnone
  · have hwhole : ∀ n, Wide.read? v = some n → IsPlainNumeral v.toList := fun n hsome => by
      rw [hread] at hsome
      cases hsome
    rcases hnumber with ⟨x, hx, h⟩ | ⟨hnone, h⟩
    · rw [h]
      refine ⟨fun htext => ?_, fun hv => hv.number x hread hx⟩
      refine isVerbatim_of_ne htrue hfalse hwhole fun y _ hy => ?_
      cases hx.symm.trans hy
      exact htext
    · rw [h]
      refine iff_of_true rfl (isVerbatim_of_ne htrue hfalse hwhole fun _ _ hsome => ?_)
      rw [hnone] at hsome
      cases hsome

end Environment

namespace Settings

variable {d : Disk} {name : String}

/-- A setting that is a text, or may be one, by its variable. -/
structure TextSetting where
  variableName : String
  get : Settings → Option String

/-- The text settings. -/
def textSettings : List TextSetting :=
  [⟨"DEVSERVE_SERVER__HOST", fun s => some s.server.host⟩,
    ⟨"DEVSERVE_SERVER__ROOT", fun s => some s.server.root⟩,
    ⟨"DEVSERVE_LOGGING__ACCESS_LOG_FORMAT", fun s => some s.logging.accessLogFormat⟩,
    ⟨"DEVSERVE_LOGGING__ACCESS_LOG_FILE", fun s => s.logging.accessLogFile⟩,
    ⟨"DEVSERVE_LOGGING__ERROR_LOG_FILE", fun s => s.logging.errorLogFile⟩,
    ⟨"DEVSERVE_HTTP__SERVER_NAME", fun s => some s.http.serverName⟩]

/-- The field takes a text from the environment for the setting. -/
structure TextSetting.IsTakenBy (t : TextSetting) (f : Field) : Prop where
  variableName : f.variableName = t.variableName
  takes : ∀ v, ∃ b, f.slot.read (Environment.value v) = .ok b ∧
    ∀ s, f.slot.get s = b → t.get s = some (Environment.arriving v)

theorem exists_isTakenBy : ∀ t ∈ textSettings, ∃ f ∈ fields, t.IsTakenBy f := by
  have htext := Environment.toText_value
  have hoptional := Environment.toOptional_value
  simp only [textSettings, List.forall_mem_cons]
  -- what is left to compute is that the chosen fields have the names of the variables
  refine ⟨⟨fields[0], List.getElem_mem _, ?_, fun v => ⟨_, htext v, fun s h => congrArg some h⟩⟩,
    ⟨fields[2], List.getElem_mem _, ?_, fun v => ⟨_, htext v, fun s h => congrArg some h⟩⟩,
    ⟨fields[5], List.getElem_mem _, ?_, fun v => ⟨_, htext v, fun s h => congrArg some h⟩⟩,
    ⟨fields[6], List.getElem_mem _, ?_, fun v => ⟨_, hoptional v, fun s h => h⟩⟩,
    ⟨fields[7], List.getElem_mem _, ?_, fun v => ⟨_, hoptional v, fun s h => h⟩⟩,
    ⟨fields[11], List.getElem_mem _, ?_, fun v => ⟨_, htext v, fun s h => congrArg some h⟩⟩,
    by simp⟩ <;> decide +kernel

/-- Where one variable is all that is given, a text setting is the text that arrives for it, and
this is what the variable holds exactly if that is verbatim. -/
theorem text_arrives (hfile : givenByFile d name = .ok []) (v : String) :
    ∀ t ∈ textSettings, ∃ settings, load d name [(t.variableName, v)] = .ok settings ∧
      t.get settings = some (Environment.arriving v) ∧
      (t.get settings = some v ↔ Environment.IsVerbatim v) := by
  intro t ht
  obtain ⟨f, hf, htaken⟩ := exists_isTakenBy t ht
  obtain ⟨b, hb, harrives⟩ := htaken.takes v
  obtain ⟨settings, hok, hread⟩ := load_variable hf hfile ⟨b, hb⟩
  have hget : t.get settings = some (Environment.arriving v) :=
    harrives settings (Except.ok.inj (hread.symm.trans hb))
  refine ⟨settings, htaken.variableName ▸ hok, hget, ?_⟩
  rw [hget, Option.some.injEq]
  exact Environment.arriving_eq_iff

/-- Without a file the root that is given is taken. -/
theorem text_arrives_public : givenByFile {} "config" = .ok [] ∧
    ∃ settings, load {} "config" [("DEVSERVE_SERVER__ROOT", "public")] = .ok settings ∧
      settings.server.root = "public" := by
  have hfile : givenByFile {} "config" = .ok [] := rfl
  obtain ⟨settings, hok, hget, -⟩ := text_arrives hfile "public"
    ⟨"DEVSERVE_SERVER__ROOT", fun s => some s.server.root⟩
    (List.mem_cons_of_mem _ List.mem_cons_self)
  have hpublic : Environment.arriving "public" = "public" := by decide +kernel
  exact ⟨hfile, settings, hok, Option.some.inj (hget.trans (congrArg some hpublic))⟩

/-- Roots that are not verbatim: zeros in front are lost, and zeros at the end of a fraction, capital
letters of a truth value, and powers of ten. -/
theorem root_altered :
    let root (v : String) : Option String :=
      (load {} "config" [("DEVSERVE_SERVER__ROOT", v)]).toOption.map (·.server.root)
    root "007" = some "7" ∧ root "1.50" = some "1.5" ∧ root "TRUE" = some "true" ∧
      root "1e3" = some "1000" := by
  decide +kernel

end Settings

end FileServer
