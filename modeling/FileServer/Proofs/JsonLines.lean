import FileServer.Proofs.Lines
import FileServer.Proofs.Refusals
import FileServer.Proofs.WholeNumbers
import FileServer.Settings.Json.Document
import Mathlib.Data.List.Forall2

/-!
What is logged in JSON can be read back. The reader here takes the values of JSON as they are
written, numbers of any size among them, and nothing else. Every writer of a part of the line is
matched with the reader of that part, whatever follows: characters, strings, numbers, members, and
the object as a whole.
-/

namespace FileServer

/-- A value of JSON as it is written. A number is a whole number times a power of ten. -/
inductive JsonValue where
  | null
  | boolean (b : Bool)
  | number (significand power : Int)
  | string (s : String)
  | array (items : List JsonValue)
  | object (members : List (String × JsonValue))

/-- A text, or nothing in the place of one. -/
def JsonValue.ofOption : Option String → JsonValue
  | some s => string s
  | none => null

namespace Json

open Text

namespace Exact

/-! ### Reading JSON -/

/-- Reads digits, of which there must be one. -/
def digits : Reader (List Char) := fun cs =>
  let (ds, rest) := span Char.isDigit cs
  if ds.isEmpty then none else some (ds, rest)

/-- Reads the digits behind a point, if there is a point. -/
def fraction : Reader (List Char) := fun cs =>
  match cs with
  | '.' :: rest => digits rest
  | _ => some ([], cs)

/-- Reads a power of ten behind its mark, if there is a mark. -/
def exponent : Reader Int := fun cs =>
  match cs with
  | c :: rest =>
    if c == 'e' || c == 'E' then (power rest).map fun ((n, _), rest) => (n, rest)
    else some (0, cs)
  | [] => some (0, [])

/-- Reads a number behind its sign; there is no zero in front of other digits. -/
def unsigned (negative : Bool) : Reader JsonValue := fun cs => do
  let (whole, cs) ← digits cs
  guard (whole.length = 1 ∨ whole.head? ≠ some '0')
  let (decimals, cs) ← fraction cs
  let (n, cs) ← exponent cs
  let m : Int := ofDigits (whole ++ decimals)
  some (.number (if negative then -m else m) (n - decimals.length), cs)

/-- Reads a number. -/
def number : Reader JsonValue := fun cs =>
  match cs with
  | '-' :: rest => unsigned true rest
  | _ => unsigned false cs

/-- Reads a value without parts. -/
def scalar : Reader JsonValue := fun cs =>
  match cs with
  | '"' :: _ => (Json.string cs).map fun (s, rest) => (.string s, rest)
  | 't' :: 'r' :: 'u' :: 'e' :: rest => some (.boolean true, rest)
  | 'f' :: 'a' :: 'l' :: 's' :: 'e' :: rest => some (.boolean false, rest)
  | 'n' :: 'u' :: 'l' :: 'l' :: rest => some (.null, rest)
  | _ => number cs

/-- Reads a name, a colon and a value. -/
def member (value : Reader JsonValue) : Reader (String × JsonValue) := fun cs => do
  let (name, cs) ← Json.string cs
  let (v, cs) ← value (blanks (← mark ':' (blanks cs)))
  some ((name, v), cs)

/-- Reads a value that is nested no deeper than `depth`. -/
def value : Nat → Reader JsonValue
  | 0, cs => scalar cs
  | depth + 1, cs =>
    match cs with
    | '[' :: rest => do
      let (items, rest) ← listing (some ∘ blanks) ']' false (value depth) rest
      some (.array items, rest)
    | '\x7b' :: rest => do
      let (members, rest) ← listing (some ∘ blanks) '\x7d' false (member (value depth)) rest
      some (.object members, rest)
    | _ => scalar cs

/-- The value that a text spells, all members of an object in their order. -/
def read? (s : String) : Option JsonValue := do
  let (v, rest) ← value s.length (blanks s.toList)
  if (blanks rest).isEmpty then some v else none

end Exact

variable {c : Char} {cs rest : List Char}

/-! ### Strings -/

/-- Four hexadecimal digits are read as the character whose number they are, whatever follows. -/
theorem stringChars_unit {a b c d ch : Char} {n : Nat} (h : unit? [a, b, c, d] = some n)
    (hn : charOfUnit? n = some ch) (rest : List Char) :
    stringChars ('\\' :: 'u' :: a :: b :: c :: d :: rest) = consRead ch (stringChars rest) := by
  rw [stringChars.eq_def]
  split
  case h_2 heq =>
    cases heq
    simp [h, hn]
  case h_3 heq =>
    cases heq
    simp [h, hn]
  case h_4 hother heq =>
    cases heq
    exact absurd rfl (hother a b c d rest rfl)
  case h_5 hother heq =>
    cases heq
    exact absurd rfl (hother 'u' _ rfl)
  all_goals cases ‹_ = _›

/-- A control character has a number of two hexadecimal digits. -/
theorem unit?_control (h : c.toNat < 0x20) :
    unit? ['0', '0', Nat.digitChar (c.toNat / 16), Nat.digitChar (c.toNat % 16)] =
      some c.toNat := by
  generalize c.toNat = n at h
  revert n
  decide

/-- A character is read back from the way it is written, whatever follows. -/
theorem stringChars_jsonChar (c : Char) (rest : List Char) :
    stringChars (jsonChar c ++ rest) = consRead c (stringChars rest) := by
  unfold jsonChar
  split
  case h_8 hquote hbackslash =>
    split
    case isTrue hlow =>
      have hvalid : c.toNat.isValidChar := Or.inl (by omega)
      refine stringChars_unit (unit?_control hlow) ?_ rest
      rw [charOfUnit?, if_pos hvalid, Char.ofNat_toNat]
    case isFalse hlow =>
      rw [List.singleton_append, stringChars.eq_def]
      split
      all_goals simp_all
  all_goals simp [stringChars, escape?]

theorem stringChars_flatMap (cs rest : List Char) :
    stringChars (cs.flatMap jsonChar ++ '"' :: rest) = some (cs, rest) := by
  induction cs with
  | nil => rw [List.flatMap_nil, List.nil_append, stringChars]
  | cons c cs ih =>
    rw [List.flatMap_cons, List.append_assoc, stringChars_jsonChar, ih]
    rfl

/-- A text is read back from the string that it is written as. -/
theorem string_jsonString (s : String) (rest : List Char) :
    Json.string (jsonString s ++ rest) = some (s, rest) := by
  have hchars := stringChars_flatMap s.toList rest
  rw [Json.string, jsonString, List.cons_append, List.cons_append, List.append_assoc,
    List.singleton_append]
  simp [mark, hchars]

/-! ### Values without parts -/

namespace Exact

/-- Characters spell a value without parts if they are read as it, whatever follows; they do not
begin with a blank or a bracket. -/
structure Spells (cs : List Char) (v : JsonValue) : Prop where
  starts : ∃ c tail, cs = c :: tail ∧ c ∉ [' ', '\t', '\n', '\r', '[', '\x7b']
  reads : ∀ rest, Ends rest → scalar (cs ++ rest) = some (v, rest)

theorem spells_null : Spells "null".toList .null where
  starts := ⟨_, _, rfl, by decide⟩
  reads _ _ := rfl

theorem spells_string (s : String) : Spells (jsonString s) (.string s) where
  starts := ⟨_, _, rfl, by decide⟩
  reads rest _ := by
    have hstring := string_jsonString s rest
    rw [jsonString, List.cons_append, List.cons_append] at hstring ⊢
    rw [scalar, hstring]
    rfl

theorem spells_optional (s : Option String) :
    Spells (LogEntry.jsonOptional s) (JsonValue.ofOption s) := by
  cases s with
  | none => exact spells_null
  | some s => exact spells_string s

theorem toList_toString (n : Nat) : (toString n).toList = digitsOf n := by
  rw [Nat.toString_eq_ofList_toDigits, String.toList_ofList]
  rfl

theorem digits_digitsOf (hrest : Ends rest) (n : Int) :
    digits (digitsOf n ++ rest) = some (digitsOf n, rest) := by
  obtain ⟨c, ds, hds⟩ := exists_digitsOf n
  rw [digits, hrest.span_digitsOf]
  simp [hds]

/-- Where a number ends, no point and no power of ten follow. -/
theorem fraction_of_ends (hrest : Ends rest) : fraction rest = some ([], rest) := by
  unfold fraction
  split
  case h_1 => exact absurd rfl (hrest.ne (by decide))
  case h_2 => rfl

theorem exponent_of_ends (hrest : Ends rest) : exponent rest = some (0, rest) := by
  unfold exponent
  split
  case h_1 => rw [hrest.not_power, if_neg Bool.false_ne_true]
  case h_2 => rfl

/-- A number does not start with anything but a digit. -/
theorem digitsOf_append_ne_cons {m : Char} (hm : m.isDigit = false) (n : Int)
    (rest tail : List Char) : digitsOf n ++ rest ≠ m :: tail := by
  obtain ⟨c, ds, hds⟩ := exists_digitsOf n
  have hc : c.isDigit = true := isDigit_of_mem_digitsOf (n := n) (by simp [hds])
  rw [hds]
  rintro heq
  rw [← (List.cons.inj heq).1, hc] at hm
  cases hm

/-- The digits of a number are read back as the number. -/
theorem number_digitsOf (hrest : Ends rest) (n : Nat) :
    number (digitsOf n ++ rest) = some (.number n 0, rest) := by
  have hzero : (digitsOf n).length = 1 ∨ (digitsOf n).head? ≠ some '0' :=
    (digitsOf_eq_zero_or n).imp_left fun h => by rw [h]; rfl
  unfold number
  split
  case h_1 heq => exact absurd heq (digitsOf_append_ne_cons (by decide) n rest _)
  case h_2 =>
    simp only [unsigned, digits_digitsOf hrest, some_bind, guard_of_pos hzero,
      fraction_of_ends hrest, exponent_of_ends hrest, List.append_nil, ofDigits_digitsOf]
    rfl

/-- A number is read back in all its digits. -/
theorem spells_natural (n : Nat) : Spells (toString n).toList (.number n 0) where
  starts := by
    obtain ⟨c, ds, hds⟩ := exists_digitsOf n
    refine ⟨c, ds, by rw [toList_toString, hds], fun hmem => ?_⟩
    have hnone : ∀ x ∈ [' ', '\t', '\n', '\r', '[', '\x7b'], x.isDigit = false := by simp
    exact digitsOf_append_ne_cons (hnone c hmem) n [] ds (by rw [hds, List.append_nil])
  reads rest hrest := by
    rw [toList_toString, ← number_digitsOf hrest n]
    unfold scalar
    split
    case h_5 => rfl
    all_goals
      rename_i heq
      exact absurd heq (digitsOf_append_ne_cons (by decide) n rest _)

/-! ### Objects -/

variable {fuel : Nat} {v : JsonValue} {m : String × JsonValue} {text line : List Char}
  {lines : List (List Char)} {members : List (String × JsonValue)}

theorem blanks_cons (h : c ∉ [' ', '\t', '\n', '\r']) : blanks (c :: cs) = c :: cs := by
  rw [blanks, List.dropWhile_cons_of_neg]
  simpa [or_assoc] using h

/-- A value without parts is one at every depth. -/
theorem Spells.value (h : Spells text v) (hrest : Ends rest) (depth : Nat) :
    value depth (blanks (text ++ rest)) = some (v, rest) := by
  obtain ⟨c, tail, rfl, hc⟩ := h.starts
  have hscalar := h.reads rest hrest
  have hblanks : blanks (c :: tail ++ rest) = c :: tail ++ rest := blanks_cons (by simp_all)
  rw [hblanks]
  cases depth with
  | zero => exact hscalar
  | succ depth =>
    unfold Exact.value
    split
    case h_1 heq =>
      rw [(List.cons.inj heq).1] at hc
      exact absurd hc (by decide)
    case h_2 heq =>
      rw [(List.cons.inj heq).1] at hc
      exact absurd hc (by decide)
    case h_3 => exact hscalar

/-- Characters spell a member: its name and a value without parts. -/
def SpellsMember (line : List Char) (m : String × JsonValue) : Prop :=
  ∃ text, line = LogEntry.member m.1 text ∧ Spells text m.2

theorem SpellsMember.starts (h : SpellsMember line m) : ∃ tail, line = '"' :: tail := by
  obtain ⟨text, rfl, -⟩ := h
  exact ⟨_, rfl⟩

theorem SpellsMember.blanks (h : SpellsMember line m) (rest : List Char) :
    blanks (line ++ rest) = line ++ rest := by
  obtain ⟨tail, rfl⟩ := h.starts
  exact blanks_cons (by decide)

theorem SpellsMember.reads (h : SpellsMember line m) (hrest : Ends rest) (depth : Nat) :
    member (value depth) (line ++ rest) = some (m, rest) := by
  obtain ⟨text, rfl, htext⟩ := h
  have hcolon : Json.blanks (':' :: (text ++ rest)) = ':' :: (text ++ rest) :=
    blanks_cons (by decide)
  rw [LogEntry.member, List.append_assoc, List.cons_append, member, string_jsonString, some_bind]
  dsimp only
  rw [hcolon, mark, if_pos (by rfl), some_bind, htext.value hrest, some_bind]

/-- The last member is read back together with the end of the list. -/
theorem elements_last (h : SpellsMember line m) (fuel depth : Nat) (rest : List Char) :
    elements (some ∘ Json.blanks) '\x7d' false (member (value depth)) (fuel + 1)
      (line ++ '\x7d' :: rest) = some ([m], rest) := by
  have hends : Ends ('\x7d' :: rest) := ends_cons (by decide) rest
  have hblanks : Json.blanks ('\x7d' :: rest) = '\x7d' :: rest := blanks_cons (by decide)
  rw [elements]
  simp only [Function.comp_apply, some_bind, h.blanks, h.reads hends, hblanks]
  rfl

/-- A member is read back, and then the others behind the comma. -/
theorem elements_more (h : SpellsMember line m) (hrest : Json.blanks rest = rest)
    (fuel depth : Nat) :
    elements (some ∘ Json.blanks) '\x7d' false (member (value depth)) (fuel + 1)
        (line ++ ',' :: rest) =
      consRead m
        (elements (some ∘ Json.blanks) '\x7d' false (member (value depth)) fuel rest) := by
  have hends : Ends (',' :: rest) := ends_cons (by decide) rest
  have hblanks : Json.blanks (',' :: rest) = ',' :: rest := blanks_cons (by decide)
  rw [elements]
  simp only [Function.comp_apply, some_bind, h.blanks, h.reads hends, hblanks, hrest]
  cases elements (some ∘ Json.blanks) '\x7d' false (member (value depth)) fuel rest <;> rfl

theorem exists_intercalate_eq_append (separator line : List Char) (lines : List (List Char)) :
    ∃ tail, List.intercalate separator (line :: lines) = line ++ tail := by
  cases lines with
  | nil => exact ⟨[], by simp⟩
  | cons next more =>
    rw [List.intercalate_cons_cons, List.append_assoc]
    exact ⟨_, rfl⟩

/-- The members of an object are read back, whatever follows it. -/
theorem elements_members (h : List.Forall₂ SpellsMember lines members) (hne : lines ≠ [])
    (hfuel : (List.intercalate [','] lines).length ≤ fuel) (depth : Nat) (rest : List Char) :
    elements (some ∘ Json.blanks) '\x7d' false (member (value depth)) fuel
      (List.intercalate [','] lines ++ '\x7d' :: rest) = some (members, rest) := by
  induction h generalizing fuel with
  | nil => exact absurd rfl hne
  | @cons line m lines members hline hlines ih =>
    obtain ⟨tail, htail⟩ := hline.starts
    cases hlines with
    | nil =>
      rw [List.intercalate_singleton] at hfuel ⊢
      cases fuel with
      | zero => simp [htail] at hfuel
      | succ fuel => exact elements_last hline fuel depth rest
    | @cons next _ more _ hnext hmore =>
      rw [List.intercalate_cons_cons] at hfuel ⊢
      cases fuel with
      | zero => simp [htail] at hfuel
      | succ fuel =>
        have hlonger : (List.intercalate [','] (next :: more)).length ≤ fuel := by
          simp only [List.length_append, List.length_singleton] at hfuel
          omega
        have hblanks : Json.blanks (List.intercalate [','] (next :: more) ++ '\x7d' :: rest) =
            List.intercalate [','] (next :: more) ++ '\x7d' :: rest := by
          obtain ⟨tail, htail⟩ := exists_intercalate_eq_append [','] next more
          rw [htail, List.append_assoc, hnext.blanks]
        rw [List.append_assoc, List.append_assoc, List.singleton_append,
          elements_more hline hblanks, ih (List.cons_ne_nil _ _) hlonger]
        rfl

/-- What stands between the braces of an object is read back as its members. -/
theorem listing_members (h : List.Forall₂ SpellsMember lines members) (depth : Nat) :
    listing (some ∘ Json.blanks) '\x7d' false (member (value depth))
      (List.intercalate [','] lines ++ ['\x7d']) = some (members, []) := by
  cases h with
  | nil => rfl
  | @cons line m lines members hline hlines =>
    have hall := elements_members (.cons hline hlines) (List.cons_ne_nil _ _)
      ((List.prefix_append _ ['\x7d']).length_le) depth []
    obtain ⟨tail, htail⟩ := exists_intercalate_eq_append [','] line lines
    obtain ⟨front, hfront⟩ := hline.starts
    rw [listing, Function.comp_apply, htail, List.append_assoc, hline.blanks, some_bind,
      ← List.append_assoc, ← htail]
    have hopen : mark '\x7d' (List.intercalate [','] (line :: lines) ++ ['\x7d']) = none := by
      rw [htail, hfront]
      rfl
    rw [hopen]
    exact hall

/-- An object is read back from its members. -/
theorem read?_object (h : List.Forall₂ SpellsMember lines members) :
    read? (String.ofList ('\x7b' :: List.intercalate [','] lines ++ ['\x7d'])) =
      some (.object members) := by
  have hblanks : Json.blanks ('\x7b' :: (List.intercalate [','] lines ++ ['\x7d'])) =
      '\x7b' :: (List.intercalate [','] lines ++ ['\x7d']) := blanks_cons (by decide)
  rw [read?, String.length_ofList, String.toList_ofList, List.cons_append, hblanks,
    List.length_cons]
  simp only [value, listing_members h]
  rfl

end Exact

end Json

namespace LogEntry

open Json.Exact

/-- What an entry says in JSON: its fields under their names, and nothing else. -/
def jsonFields (e : LogEntry) : List (String × JsonValue) :=
  [("body_bytes", .number e.bodyBytes 0),
    ("http_version", .string e.version),
    ("method", .string e.method),
    ("path", .string e.path),
    ("query", .ofOption e.query),
    ("referer", .ofOption e.referer),
    ("remote_addr", .string e.remoteAddress),
    ("request_time_us", .number e.micros 0),
    ("status", .number e.status 0),
    ("time", .string e.isoTime),
    ("user_agent", .ofOption e.userAgent)]

/-- The members of an entry spell its fields. -/
theorem spells_jsonMembers (e : LogEntry) :
    List.Forall₂ SpellsMember e.jsonMembers e.jsonFields := by
  have hnatural : ∀ name (n : Nat),
      SpellsMember (member name (toString n).toList) (name, .number n 0) :=
    fun _ n => ⟨_, rfl, spells_natural n⟩
  have hstring : ∀ name s, SpellsMember (member name (Text.jsonString s)) (name, .string s) :=
    fun _ s => ⟨_, rfl, spells_string s⟩
  have hoptional : ∀ name s, SpellsMember (member name (jsonOptional s)) (name, .ofOption s) :=
    fun _ s => ⟨_, rfl, spells_optional s⟩
  simp only [jsonMembers, jsonFields, List.forall₂_cons, hnatural, hstring, hoptional, true_and]
  exact .nil

/-- In JSON an entry is one line, from which all its fields are read back exactly. -/
theorem read?_format_json (e : LogEntry) :
    OneLine (e.format "json").toList ∧
      Json.Exact.read? (e.format "json") = some (.object e.jsonFields) :=
  ⟨oneLine_json e, read?_object e.spells_jsonMembers⟩

end LogEntry

end FileServer
