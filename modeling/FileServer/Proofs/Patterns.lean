import FileServer.Proofs.PlainTexts
import FileServer.Proofs.Replacement
import Mathlib.Data.List.Infix
import Mathlib.Data.List.MinMax

/-!
What a pattern with variables shows of an entry. A pattern is read once, from the left, as variables,
the longest name counting, and characters that stand for themselves:

    pattern ──▶ parts ──▶ what is shown in the place of each part, side by side

Replacing one kind of variable after another works on each part by itself, as long as every variable
is delimited from what follows it. So a pattern shows what its variables show alone, and that is the
value of the variable, in which the variables that come later have been replaced in their turn. An
entry without marks has no such variables in its values: the patterns of the classic forms show it as
the forms do.
-/

namespace FileServer.LogEntry

open Text

/-! ### Reading a pattern -/

/-- Letters, digits and the low line: what the names of variables consist of behind their mark. -/
def isWordChar (c : Char) : Bool := c.isAlphanum || c == '_'

/-- A part of a pattern: a character that stands for itself, or a variable. -/
inductive Piece where
  | plain (c : Char)
  | named (v : Variable)
  deriving Repr, DecidableEq

/-- What stands in the place of a part, given what stands in the place of each variable. -/
def Piece.shown (shows : Variable → List Char) : Piece → List Char
  | plain c => [c]
  | named v => shows v

/-- The variable with the longest name that a text begins with. -/
def Variable.leading? (cs : List Char) : Option Variable :=
  (Variable.all.filter fun v => v.name.toList.isPrefixOf cs).argmax fun v => v.name.toList.length

/-- The parts of a pattern; `skip` characters still belong to the last variable. -/
def piecesFrom : Nat → List Char → List Piece
  | _, [] => []
  | skip + 1, _ :: rest => piecesFrom skip rest
  | 0, c :: rest =>
    match Variable.leading? (c :: rest) with
    | some v => .named v :: piecesFrom (v.name.toList.length - 1) rest
    | none => .plain c :: piecesFrom 0 rest

/-- The parts of a pattern, from the left. -/
def pieces (pattern : List Char) : List Piece := piecesFrom 0 pattern

/-- A pattern in which every variable has been replaced once, all of them at the same time. -/
def substitute (shows : Variable → String) (pattern : String) : String :=
  String.ofList ((pieces pattern.toList).flatMap (Piece.shown fun v => (shows v).toList))

/-- What may follow a variable: the end, or a character that could neither go on with its name nor
begin another one. -/
def Delimits (rest : List Char) : Prop := ∀ c ∈ rest.head?, isWordChar c = false ∧ c ≠ '$'

instance : (rest : List Char) → Decidable (Delimits rest)
  | [] => isTrue nofun
  | c :: _ => decidable_of_iff (isWordChar c = false ∧ c ≠ '$') (by simp [Delimits])

/-- Every mark of a pattern begins a variable, which is delimited from what follows it. -/
def WellDelimited (pattern : List Char) : Prop :=
  ∀ tail ∈ pattern.tails, tail.head? = some '$' →
    ∃ v ∈ Variable.leading? tail, Delimits (tail.drop v.name.toList.length)

instance (pattern : List Char) : Decidable (WellDelimited pattern) :=
  List.decidableBAll _ _

/-! ### Names of variables -/

namespace Variable

/-- A name is a mark and a word. -/
theorem exists_name (v : Variable) :
    ∃ word, v.name.toList = '$' :: word ∧ ∀ c ∈ word, isWordChar c = true := by
  cases v <;> exact ⟨_, rfl, List.all_eq_true.1 (by decide)⟩

/-- The variables that are replaced before one. -/
def earlier (v : Variable) : List Variable := all.takeWhile (· ≠ v)

/-- The variables that are replaced after one. -/
def later (v : Variable) : List Variable := (all.dropWhile (· ≠ v)).tail

theorem all_eq (v : Variable) : all = v.earlier ++ v :: v.later := by cases v <;> decide

/-- The order of the replacements: the name of a variable is not met as a part of a longer one, for
the longer one has been replaced by then. -/
theorem not_infix_of_mem_earlier (v : Variable) :
    ∀ w ∈ v.earlier, ¬w.name.toList <:+: v.name.toList := by
  cases v <;> decide +kernel

theorem prefix_of_mem_leading? {v : Variable} {cs : List Char} (h : v ∈ leading? cs) :
    v.name.toList <+: cs := by
  have hmem := List.argmax_mem h
  rw [List.mem_filter, List.isPrefixOf_iff_prefix] at hmem
  exact hmem.2

theorem mem_leading?_name (v : Variable) : v ∈ leading? v.name.toList := by
  cases v <;> decide +kernel

/-- No variable begins where there is no mark. -/
theorem leading?_of_ne {c : Char} (hc : c ≠ '$') (rest : List Char) :
    leading? (c :: rest) = none := by
  rw [leading?, List.argmax_eq_none, List.filter_eq_nil_iff]
  rintro v - hprefix
  obtain ⟨word, hname, -⟩ := v.exists_name
  rw [List.isPrefixOf_iff_prefix, hname, List.cons_prefix_cons] at hprefix
  exact hc hprefix.1.symm

end Variable

/-! ### A well-delimited pattern and its parts -/

/-- A text is made of parts, every variable among them being delimited from what follows it. -/
inductive Reads : List Char → List Piece → Prop
  | nil : Reads [] []
  | plain {c : Char} {rest : List Char} {parts : List Piece} :
      c ≠ '$' → Reads rest parts → Reads (c :: rest) (.plain c :: parts)
  | named (v : Variable) {rest : List Char} {parts : List Piece} :
      Delimits rest → Reads rest parts → Reads (v.name.toList ++ rest) (.named v :: parts)

theorem piecesFrom_eq_drop : ∀ (skip : Nat) (cs : List Char),
    piecesFrom skip cs = pieces (cs.drop skip)
  | 0, _ => rfl
  | skip + 1, [] => by simp only [piecesFrom, List.drop_nil, pieces]
  | skip + 1, _ :: rest => by
    rw [piecesFrom, List.drop_succ_cons]
    exact piecesFrom_eq_drop skip rest

/-- A character that is no mark stands for itself. -/
theorem pieces_cons {c : Char} (hc : c ≠ '$') (rest : List Char) :
    pieces (c :: rest) = .plain c :: pieces rest := by
  rw [pieces, piecesFrom, Variable.leading?_of_ne hc]
  rfl

/-- A variable is read with all of its name. -/
theorem pieces_append {v : Variable} {rest : List Char}
    (h : v ∈ Variable.leading? (v.name.toList ++ rest)) :
    pieces (v.name.toList ++ rest) = .named v :: pieces rest := by
  obtain ⟨word, hname, -⟩ := v.exists_name
  rw [hname, List.cons_append] at h ⊢
  rw [pieces, piecesFrom, Option.mem_def.1 h]
  simp only [hname, List.length_cons, Nat.add_sub_cancel, piecesFrom_eq_drop, List.drop_left]

theorem WellDelimited.of_suffix {pattern rest : List Char} (h : WellDelimited pattern)
    (hsuffix : rest <:+ pattern) : WellDelimited rest := fun tail htail =>
  h tail ((List.mem_tails _ _).2 (((List.mem_tails _ _).1 htail).trans hsuffix))

/-- A well-delimited pattern is made of the parts that are read in it. -/
theorem WellDelimited.reads {pattern : List Char} (h : WellDelimited pattern) :
    Reads pattern (pieces pattern) := by
  induction hlength : pattern.length using Nat.strongRecOn generalizing pattern with
  | ind n ih =>
    cases pattern with
    | nil => exact .nil
    | cons c rest =>
      by_cases hc : c = '$'
      · -- a variable begins here
        obtain ⟨v, hv, hdelimits⟩ := h (c :: rest) ((List.mem_tails _ _).2 List.suffix_rfl)
          (by rw [hc]; rfl)
        obtain ⟨after, hafter⟩ := Variable.prefix_of_mem_leading? hv
        obtain ⟨word, hname, -⟩ := v.exists_name
        have hshorter : after.length < n := by
          rw [← hlength, ← hafter, hname, List.length_append, List.length_cons]
          omega
        have hrest := ih _ hshorter (h.of_suffix ⟨_, hafter⟩) rfl
        rw [← hafter] at hv hdelimits ⊢
        rw [List.drop_left] at hdelimits
        rw [pieces_append hv]
        exact .named v hdelimits hrest
      · have hshorter : rest.length < n := by
          rw [← hlength, List.length_cons]
          omega
        have hrest := ih _ hshorter (h.of_suffix (List.suffix_cons c rest)) rfl
        rw [pieces_cons hc]
        exact .plain hc hrest

/-- The parts spell the text that they were read in. -/
theorem Reads.spelled {cs : List Char} {parts : List Piece} (h : Reads cs parts) :
    parts.flatMap (Piece.shown fun v => v.name.toList) = cs := by
  induction h with
  | nil => rfl
  | plain _ _ ih => rw [List.flatMap_cons, ih, Piece.shown, List.singleton_append]
  | named _ _ _ ih => rw [List.flatMap_cons, ih, Piece.shown]

/-- What is shown behind a variable delimits it, whatever is shown in the place of variables. -/
theorem Reads.delimits {cs : List Char} {parts : List Piece} (h : Reads cs parts)
    (hcs : Delimits cs) (shows : Variable → List Char) :
    Delimits (parts.flatMap (Piece.shown shows)) := by
  cases h with
  | nil => exact nofun
  | plain => exact hcs
  | named v =>
    obtain ⟨word, hname, -⟩ := v.exists_name
    rw [hname] at hcs
    exact absurd rfl (hcs '$' rfl).2

/-! ### Replacing variables -/

/-- One kind of variable is replaced in each part by itself: a character is no mark, and the name of
a variable ends where the variable is delimited. -/
theorem Reads.replaceAll_shown {cs : List Char} {parts : List Piece} (h : Reads cs parts)
    (shows : Variable → List Char) (w : Variable) (value : List Char) :
    replaceAll w.name.toList value (parts.flatMap (Piece.shown shows)) =
      parts.flatMap (Piece.shown fun v => replaceAll w.name.toList value (shows v)) := by
  obtain ⟨word, hname, hword⟩ := w.exists_name
  induction h with
  | nil => rw [List.flatMap_nil, List.flatMap_nil, replaceAll, replaceFrom]
  | @plain c rest parts hc hparts ih =>
    have hfront : ¬w.name.toList <+: c :: parts.flatMap (Piece.shown shows) := by
      rw [hname, List.cons_prefix_cons]
      exact fun h => hc h.1.symm
    rw [List.flatMap_cons, List.flatMap_cons, Piece.shown, List.singleton_append,
      replaceAll_cons hfront, ih, Piece.shown, List.singleton_append]
  | @named v rest parts hdelimits hparts ih =>
    have hborder : ∀ c ∈ (parts.flatMap (Piece.shown shows)).head?, c ∉ word := by
      intro c hc hmem
      have hnone := (hparts.delimits hdelimits shows c hc).1
      rw [hword c hmem] at hnone
      cases hnone
    rw [List.flatMap_cons, List.flatMap_cons, Piece.shown, Piece.shown, ← ih, hname]
    exact replaceAll_append hborder (shows v)

variable {e : LogEntry}

/-- Variables replaced in a text, one kind after another. -/
def replaceEach (e : LogEntry) (names : List Variable) (text : List Char) : List Char :=
  names.foldl (fun text v => replaceAll v.name.toList (v.value e).toList text) text

/-- All kinds of variables are replaced in each part by itself. -/
theorem Reads.replaceEach_shown {cs : List Char} {parts : List Piece} (h : Reads cs parts) :
    ∀ (names : List Variable) (shows : Variable → List Char),
      e.replaceEach names (parts.flatMap (Piece.shown shows)) =
        parts.flatMap (Piece.shown fun v => e.replaceEach names (shows v))
  | [], _ => rfl
  | w :: names, shows => by
    have ih := h.replaceEach_shown names fun v =>
      replaceAll w.name.toList (w.value e).toList (shows v)
    rw [replaceEach, List.foldl_cons, h.replaceAll_shown]
    exact ih

/-- Variables that do not occur in a text leave it as it is. -/
theorem replaceEach_of_not_infix : ∀ {names : List Variable} {text : List Char},
    (∀ w ∈ names, ¬w.name.toList <:+: text) → e.replaceEach names text = text
  | [], _, _ => rfl
  | w :: names, text, h => by
    obtain ⟨hw, hrest⟩ := List.forall_mem_cons.1 h
    rw [replaceEach, List.foldl_cons, replaceAll_of_not_infix hw]
    exact replaceEach_of_not_infix hrest

/-- What stands in the place of a variable in the end: its value, in which the variables that come
later have been replaced in their turn. -/
def settled (e : LogEntry) (v : Variable) : String :=
  String.ofList (e.replaceEach v.later (v.value e).toList)

/-- The name of a variable alone becomes its value, and then what is made of that. -/
theorem replaceEach_name (e : LogEntry) (v : Variable) :
    e.replaceEach Variable.all v.name.toList = (e.settled v).toList := by
  obtain ⟨word, hname, -⟩ := v.exists_name
  have hne : v.name.toList ≠ [] := by
    rw [hname]
    exact List.cons_ne_nil _ _
  have hearlier : e.replaceEach v.earlier v.name.toList = v.name.toList :=
    replaceEach_of_not_infix v.not_infix_of_mem_earlier
  calc e.replaceEach Variable.all v.name.toList
      = e.replaceEach (v.earlier ++ v :: v.later) v.name.toList := by rw [← v.all_eq]
    _ = e.replaceEach (v :: v.later) (e.replaceEach v.earlier v.name.toList) := List.foldl_append
    _ = e.replaceEach v.later (replaceAll v.name.toList (v.value e).toList v.name.toList) := by
      rw [hearlier]
      rfl
    _ = (e.settled v).toList := by rw [replaceAll_self hne, settled, String.toList_ofList]

/-- A well-delimited pattern shows side by side what its variables show alone. -/
theorem custom_eq {pattern : String} (h : WellDelimited pattern.toList) :
    e.custom pattern = substitute e.settled pattern := by
  have hall := h.reads.replaceEach_shown (e := e) Variable.all fun v => v.name.toList
  simp only [h.reads.spelled, replaceEach_name] at hall
  rw [custom, substitute, ← hall]
  rfl

/-- The names of the forms that are not patterns. -/
def formNames : List String := ["combined", "common", "json"]

/-- A form that is not one of the three names is a pattern. -/
theorem format_eq {pattern : String} (h : WellDelimited pattern.toList)
    (hform : pattern ∉ formNames) : e.format pattern = substitute e.settled pattern := by
  simp only [formNames, List.mem_cons, List.not_mem_nil, or_false, not_or] at hform
  obtain ⟨hcombined, hcommon, hjson⟩ := hform
  rw [← custom_eq h]
  unfold LogEntry.format
  split
  · contradiction
  · contradiction
  · contradiction
  · rfl

/-! ### Values that are copied as they are -/

/-- A value in which no later variable occurs is shown as it is. -/
theorem settled_of_not_infix {v : Variable}
    (h : ∀ w ∈ v.later, ¬w.name.toList <:+: (v.value e).toList) : e.settled v = v.value e := by
  rw [settled, replaceEach_of_not_infix h, String.ofList_toList]

/-- The name of a variable alone is a pattern. -/
theorem wellDelimited_name (v : Variable) : WellDelimited v.name.toList := by
  intro tail htail hmark
  obtain ⟨word, hname, hword⟩ := v.exists_name
  rw [List.mem_tails, hname, List.suffix_cons_iff] at htail
  rcases htail with rfl | hinside
  · refine ⟨v, ?_, ?_⟩
    · rw [← hname]
      exact v.mem_leading?_name
    · rw [hname, List.drop_length]
      exact nofun
  -- the word behind the mark holds no other mark
  · have hplain := hword '$' (hinside.subset (List.mem_of_head? hmark))
    exact absurd hplain (by decide)

theorem pieces_name (v : Variable) : pieces v.name.toList = [.named v] := by
  have hleading := v.mem_leading?_name
  rw [← List.append_nil v.name.toList] at hleading ⊢
  exact pieces_append hleading

theorem name_notMem_formNames (v : Variable) : v.name ∉ formNames := by cases v <;> decide

/-- What a pattern shows of an entry. Every well-delimited pattern shows, in the place of each
variable, the value in which the later variables have been replaced in their turn. So an entry is
shown as it is by all such patterns exactly if no value changes in that way, and a value does not
change if no later variable occurs in it. -/
theorem patterns_showSettled (e : LogEntry) :
    (∀ pattern : String, WellDelimited pattern.toList → pattern ∉ formNames →
      e.format pattern = substitute e.settled pattern) ∧
    ((∀ pattern : String, WellDelimited pattern.toList → pattern ∉ formNames →
        e.format pattern = substitute (Variable.value e) pattern) ↔
      ∀ v : Variable, e.settled v = v.value e) ∧
    ∀ v : Variable, (∀ w ∈ v.later, ¬w.name.toList <:+: (v.value e).toList) →
      e.settled v = v.value e := by
  refine ⟨fun pattern => format_eq, ⟨fun h v => ?_, fun h pattern hpattern hform => ?_⟩,
    fun v => settled_of_not_infix⟩
  · have hshown : ∀ shows, substitute shows v.name = shows v := fun shows => by
      simp only [substitute, pieces_name, List.flatMap_cons, List.flatMap_nil, Piece.shown,
        List.append_nil, String.ofList_toList]
    calc e.settled v
        = e.format v.name := by
          rw [format_eq (wellDelimited_name v) (name_notMem_formNames v), hshown]
      _ = substitute (Variable.value e) v.name :=
          h v.name (wellDelimited_name v) (name_notMem_formNames v)
      _ = v.value e := hshown _
  · rw [format_eq hpattern hform, funext h]

/-- A path that spells a variable is not shown as it is: the status takes its place. -/
theorem path_replaced :
    let q : Request := { method := "GET", target := { path := "/$status" } }
    let e := ofRequest (IpAddress.v4 127 0 0 1).text q
    Request.make (Utf8.ofString "GET") (Utf8.ofString "/$status") .v11 [] = .ok q ∧
      WellDelimited "$request_uri".toList ∧ "$request_uri" ∉ formNames ∧
      e.format "$request_uri" = "/200" ∧
      substitute (Variable.value e) "$request_uri" = "/$status" := by
  refine ⟨?_, ?_, ?_, ?_, ?_⟩ <;> decide +kernel

/-! ### The classic forms as patterns -/

/-- An entry in whose texts there is no mark of a variable. -/
def HasNoMark (e : LogEntry) : Prop := ∀ text ∈ e.texts, '$' ∉ text.toList

instance (e : LogEntry) : Decidable e.HasNoMark := List.decidableBAll _ _

/-- Numbers and times bring no mark along, so no value has one. -/
theorem HasNoMark.value (h : e.HasNoMark) (v : Variable) : '$' ∉ (v.value e).toList := by
  have hmark : ¬IsPlain '$' := by decide
  have hcovers : Covers (· ≠ '$') e := {
    plain := fun c hc heq => hmark (heq ▸ hc)
    blank := by decide
    mark := by decide
    text := fun text htext c hc heq => h text htext (heq ▸ hc) }
  exact fun hmem => hcovers.value v '$' hmem rfl

/-- An entry without marks is shown as it is. -/
theorem HasNoMark.settled (h : e.HasNoMark) (v : Variable) : e.settled v = v.value e := by
  refine settled_of_not_infix fun w _ hoccurs => h.value v (hoccurs.subset ?_)
  obtain ⟨word, hname, -⟩ := w.exists_name
  rw [hname]
  exact List.mem_cons_self

/-- The common form, as it is described. -/
def commonPattern : String :=
  "$remote_addr - - [$time_local] \"$request\" $status $body_bytes_sent"

/-- The combined form, as it is described. -/
def combinedPattern : String := commonPattern ++ " \"$http_referer\" \"$http_user_agent\""

/-- Characters that stand for themselves. -/
def plainly (text : String) : List Piece := text.toList.map .plain

theorem flatMap_plainly (shows : Variable → List Char) (text : String) :
    (plainly text).flatMap (Piece.shown shows) = text.toList := by
  rw [plainly, List.flatMap_map]
  exact List.flatMap_singleton' _

/-- The parts of the common form. -/
def commonPieces : List Piece :=
  .named .remoteAddress :: plainly " - - [" ++ .named .timeLocal :: plainly "] \"" ++
    .named .request :: plainly "\" " ++ .named .status :: plainly " " ++ [.named .bodyBytesSent]

/-- The parts of the combined form. -/
def combinedPieces : List Piece :=
  commonPieces ++ plainly " \"" ++ .named .referer :: plainly "\" \"" ++
    .named .userAgent :: plainly "\""

theorem wellDelimited_commonPattern : WellDelimited commonPattern.toList := by decide +kernel

theorem wellDelimited_combinedPattern : WellDelimited combinedPattern.toList := by decide +kernel

theorem pieces_commonPattern : pieces commonPattern.toList = commonPieces := by decide +kernel

theorem pieces_combinedPattern : pieces combinedPattern.toList = combinedPieces := by
  decide +kernel

/-- The parts of the common form show an entry in that form. -/
theorem shown_commonPieces (e : LogEntry) :
    commonPieces.flatMap (Piece.shown fun v => (v.value e).toList) = e.common.toList := by
  simp only [commonPieces, List.flatMap_append, List.flatMap_cons, List.flatMap_nil,
    flatMap_plainly, Piece.shown, Variable.value, common, String.toList_append, List.append_nil,
    List.append_assoc]

/-- The parts of the combined form show an entry in that form. -/
theorem shown_combinedPieces (e : LogEntry) :
    combinedPieces.flatMap (Piece.shown fun v => (v.value e).toList) = e.combined.toList := by
  simp only [combinedPieces, List.flatMap_append, List.flatMap_cons, flatMap_plainly,
    shown_commonPieces]
  simp only [Piece.shown, Variable.value, combined, String.toList_append, List.append_assoc]

/-- An entry that was told no mark has the same line in a classic form and in the pattern that
describes the form. -/
theorem classic_eq_pattern (h : ∀ text ∈ e.texts, '$' ∉ text.toList) :
    e.format "combined" = e.format combinedPattern ∧
      e.format "common" = e.format commonPattern := by
  have hvalue : e.settled = Variable.value e := funext (HasNoMark.settled h)
  constructor
  · calc e.format "combined"
        = e.combined := rfl
      _ = substitute (Variable.value e) combinedPattern := by
          rw [substitute, pieces_combinedPattern, shown_combinedPieces, String.ofList_toList]
      _ = e.format combinedPattern := by
          rw [format_eq wellDelimited_combinedPattern (by decide), hvalue]
  · calc e.format "common"
        = e.common := rfl
      _ = substitute (Variable.value e) commonPattern := by
          rw [substitute, pieces_commonPattern, shown_commonPieces, String.ofList_toList]
      _ = e.format commonPattern := by
          rw [format_eq wellDelimited_commonPattern (by decide), hvalue]

/-- An entry with a query, without a referer and with a user agent. -/
def sampleEntry : LogEntry :=
  { remoteAddress := "::1", method := "GET", path := "/a", query := some "b", bodyBytes := 1234
    userAgent := some "curl/8.0" }

theorem classic_eq_pattern_sampleEntry :
    (∀ text ∈ sampleEntry.texts, '$' ∉ text.toList) ∧
      sampleEntry.format combinedPattern =
        "::1 - - [01/Jan/1970:00:00:00 +0000] \"GET /a?b HTTP/1.1\" 200 1234 \"-\" \"curl/8.0\"" ∧
      sampleEntry.format "combined" = sampleEntry.format combinedPattern := by
  have hmark : ∀ text ∈ sampleEntry.texts, '$' ∉ text.toList := by decide
  have hforms := classic_eq_pattern hmark
  refine ⟨hmark, ?_, hforms.1⟩
  rw [← hforms.1]
  decide +kernel

end FileServer.LogEntry
