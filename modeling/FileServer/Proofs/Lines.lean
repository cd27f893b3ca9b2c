import FileServer.Proofs.Paths
import FileServer.Proofs.Percent
import FileServer.Proofs.PlainTexts

/-!
Texts that stay on one line. What is plain does, and so does every text that is read from bytes
without line ends, for a character that ends a line has a byte of its own. An entry of the access
log stays on one line in every form, if what it was told about the request does: numbers and times
are plain, the strings of JSON escape the ends of lines, and what is put in the place of a variable
brings no character along but its own.
-/

namespace FileServer

/-- A text that stays on one line: it holds neither of the characters that end one. -/
def OneLine (cs : List Char) : Prop := ∀ c ∈ cs, c ≠ '\n' ∧ c ≠ '\r'

instance (cs : List Char) : Decidable (OneLine cs) := List.decidableBAll _ cs

/-- Bytes that stay on one line. -/
def OneLineBytes (bs : Bytes) : Prop := ∀ b ∈ bs, b ≠ 10 ∧ b ≠ 13

instance (bs : Bytes) : Decidable (OneLineBytes bs) := List.decidableBAll _ bs

variable {cs ds : List Char} {c : Char} {bs : Bytes} {s : String}

/-! ### Building lines -/

theorem oneLine_nil : OneLine [] := nofun

theorem oneLine_append : OneLine (cs ++ ds) ↔ OneLine cs ∧ OneLine ds := List.forall_mem_append

theorem oneLine_cons : OneLine (c :: cs) ↔ (c ≠ '\n' ∧ c ≠ '\r') ∧ OneLine cs :=
  List.forall_mem_cons

theorem oneLine_iff : OneLine cs ↔ '\n' ∉ cs ∧ '\r' ∉ cs := by
  constructor
  · exact fun h => ⟨fun hc => (h _ hc).1 rfl, fun hc => (h _ hc).2 rfl⟩
  · rintro ⟨hfeed, hreturn⟩ c hc
    exact ⟨fun heq => hfeed (heq ▸ hc), fun heq => hreturn (heq ▸ hc)⟩

/-- What is plain stays on one line. -/
theorem AllPlain.oneLine (h : AllPlain cs) : OneLine cs :=
  oneLine_iff.2 ⟨h.notMem (by decide), h.notMem (by decide)⟩

theorem oneLine_toString (n : Nat) : OneLine (toString n).toList := (allPlain_toString n).oneLine

/-! ### Texts read from bytes -/

/-- A text that is read from bytes on one line stays on one line. -/
theorem oneLine_toStringLossy (h : OneLineBytes bs) : OneLine (Utf8.toStringLossy bs).toList :=
  oneLine_iff.2 ⟨fun hc => (h 10 (Utf8.mem_of_mem_toStringLossy (by decide) hc)).1 rfl,
    fun hc => (h 13 (Utf8.mem_of_mem_toStringLossy (by decide) hc)).2 rfl⟩

theorem oneLine_visible : ∀ b : UInt8, (b == 9 || (32 ≤ b && b < 127)) = true →
    Char.ofNat b.toNat ≠ '\n' ∧ Char.ofNat b.toNat ≠ '\r' :=
  Percent.forall_byte (by decide +kernel)

/-- What is visible in a header stays on one line. -/
theorem oneLine_visibleText? {text : String} (h : visibleText? bs = some text) :
    OneLine text.toList := by
  unfold visibleText? at h
  split at h
  case isFalse => cases h
  case isTrue hall =>
    rw [← Option.some.inj h, String.toList_ofList, OneLine, List.forall_mem_map]
    exact fun b hb => oneLine_visible b (List.all_eq_true.1 hall b hb)

/-- A path stays on one line if names do that hold all its bytes but the slashes. -/
theorem Path.oneLine_display {p : Path} {names : List Name}
    (hbytes : ∀ b ∈ p.bytes, b ≠ slash → ∃ name ∈ names, b ∈ name)
    (h : ∀ name ∈ names, OneLineBytes name) : OneLine p.display.toList := by
  refine oneLine_toStringLossy fun b hb => ?_
  by_cases hslash : b = slash
  · rw [hslash]
    decide
  · obtain ⟨name, hname, hmem⟩ := hbytes b hb hslash
    exact h name hname b hmem

namespace LogEntry

variable {e : LogEntry} {form : String}

/-! ### Strings of JSON -/

/-- The characters that end a line are written with a backslash and a letter. -/
theorem oneLine_jsonChar (c : Char) : OneLine (Text.jsonChar c) := by
  unfold Text.jsonChar
  split
  case h_8 hlf hcr _ _ _ =>
    split
    case isTrue =>
      refine oneLine_append.2 ⟨(by decide : OneLine ['\\', 'u', '0', '0']), ?_⟩
      have hfirst : c.toNat / 16 < 16 := by omega
      have hlast : c.toNat % 16 < 16 := Nat.mod_lt _ (by decide)
      refine AllPlain.oneLine (.cons (isPlain_digitChar hfirst) (.cons ?_ nofun))
      exact isPlain_digitChar hlast
    case isFalse => exact List.forall_mem_singleton.2 ⟨hlf, hcr⟩
  all_goals decide

/-- Every text is a string of JSON on one line. -/
theorem oneLine_jsonString (s : String) : OneLine (Text.jsonString s) := by
  rw [Text.jsonString, List.cons_append, oneLine_cons, oneLine_append]
  refine ⟨by decide, fun c hc => ?_, by decide⟩
  obtain ⟨x, -, hx⟩ := List.mem_flatMap.1 hc
  exact oneLine_jsonChar x c hx

theorem oneLine_member (name : String) {value : List Char} (h : OneLine value) :
    OneLine (member name value) :=
  oneLine_append.2 ⟨oneLine_jsonString name, oneLine_cons.2 ⟨by decide, h⟩⟩

theorem oneLine_jsonOptional (s : Option String) : OneLine (jsonOptional s) := by
  cases s with
  | none => decide
  | some s => exact oneLine_jsonString s

/-- In JSON every entry is on one line, whatever it holds. -/
theorem oneLine_json (e : LogEntry) : OneLine e.json.toList := by
  rw [json, String.toList_ofList, List.cons_append, oneLine_cons, oneLine_append]
  refine ⟨by decide, forall_mem_intercalate (List.forall_mem_singleton.2 (by decide)) ?_, by decide⟩
  simp only [jsonMembers, List.forall_mem_cons]
  refine ⟨?_, ?_, ?_, ?_, ?_, ?_, ?_, ?_, ?_, ?_, ?_, nofun⟩ <;> refine oneLine_member _ ?_
  all_goals first
    | exact oneLine_toString _
    | exact oneLine_jsonString _
    | exact oneLine_jsonOptional _

/-! ### Entries in every form -/

/-- What an entry was told about the request stays on one line. -/
structure IsOneLine (e : LogEntry) : Prop where
  remoteAddress : OneLine e.remoteAddress.toList
  method : OneLine e.method.toList
  path : OneLine e.path.toList
  query : ∀ query, e.query = some query → OneLine query.toList
  version : OneLine e.version.toList
  referer : ∀ referer, e.referer = some referer → OneLine referer.toList
  userAgent : ∀ userAgent, e.userAgent = some userAgent → OneLine userAgent.toList

theorem IsOneLine.text (h : e.IsOneLine) : ∀ text ∈ e.texts, OneLine text.toList := by
  simp only [texts, List.forall_mem_append, List.forall_mem_cons, Option.mem_toList]
  exact ⟨⟨⟨⟨h.remoteAddress, h.method, h.path, h.version, List.forall_mem_nil _⟩, h.query⟩,
    h.referer⟩, h.userAgent⟩

/-- What a variable stands for stays on one line. -/
theorem IsOneLine.value (h : e.IsOneLine) (v : Variable) : OneLine (v.value e).toList := by
  have hlf : ¬IsPlain '\n' := by decide
  have hcr : ¬IsPlain '\r' := by decide
  have hcovers : Covers (fun c => c ≠ '\n' ∧ c ≠ '\r') e := {
    plain := fun c hc => ⟨fun heq => hlf (heq ▸ hc), fun heq => hcr (heq ▸ hc)⟩
    blank := by decide
    mark := by decide
    text := h.text }
  exact hcovers.value v

theorem IsOneLine.common (h : e.IsOneLine) : OneLine e.common.toList := by
  simp only [LogEntry.common, String.toList_append, oneLine_append]
  exact ⟨⟨⟨⟨⟨⟨⟨⟨h.remoteAddress, by decide⟩, h.value .timeLocal⟩, by decide⟩, h.value .request⟩,
    by decide⟩, oneLine_toString _⟩, by decide⟩, oneLine_toString _⟩

theorem IsOneLine.combined (h : e.IsOneLine) : OneLine e.combined.toList := by
  simp only [LogEntry.combined, String.toList_append, oneLine_append]
  exact ⟨⟨⟨⟨⟨h.common, by decide⟩, h.value .referer⟩, by decide⟩, h.value .userAgent⟩, by decide⟩

/-- Replacing puts only characters of the replacement into a text. -/
theorem oneLine_replaceFrom {part replacement : List Char} (hreplacement : OneLine replacement) :
    ∀ (skip : Nat) {text : List Char}, OneLine text →
      OneLine (Text.replaceFrom part replacement skip text)
  | _, [], _ => by
    rw [Text.replaceFrom]
    exact oneLine_nil
  | skip + 1, _ :: _, h => by
    rw [Text.replaceFrom]
    exact oneLine_replaceFrom hreplacement skip (oneLine_cons.1 h).2
  | 0, c :: rest, h => by
    obtain ⟨hc, hrest⟩ := oneLine_cons.1 h
    rw [Text.replaceFrom]
    split
    · exact oneLine_append.2 ⟨hreplacement, oneLine_replaceFrom hreplacement _ hrest⟩
    · exact oneLine_cons.2 ⟨hc, oneLine_replaceFrom hreplacement 0 hrest⟩

/-- Replacing variables one after the other keeps a text on one line. -/
theorem IsOneLine.replaceAll (h : e.IsOneLine) : ∀ (names : List Variable) {text : List Char},
    OneLine text → OneLine (names.foldl
      (fun text v => Text.replaceAll v.name.toList (v.value e).toList text) text)
  | [], _, htext => htext
  | v :: rest, _, htext => h.replaceAll rest (oneLine_replaceFrom (h.value v) 0 htext)

/-- An entry is on one line in every form, a pattern being on one line itself. -/
theorem IsOneLine.format (h : e.IsOneLine) (hform : OneLine form.toList) :
    OneLine (e.format form).toList := by
  unfold LogEntry.format
  split
  · exact h.combined
  · exact h.common
  · exact oneLine_json e
  · rw [custom, String.toList_ofList]
    exact h.replaceAll Variable.all hform

end LogEntry

end FileServer
