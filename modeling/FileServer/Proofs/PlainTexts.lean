import FileServer.AccessLog.Format
import FileServer.Net.Address

/-!
Plain texts, of letters, digits and a few marks: numbers, addresses, and the parts of times. They
hold no blank, no quotation mark and no dollar sign, so each can be told from what stands around it.
-/

namespace FileServer

/-- A letter, a digit, or one of the marks in numbers, times and addresses. -/
def IsPlain (c : Char) : Prop := c.isAlphanum = true ∨ c ∈ ['+', '-', '.', '/', ':']

instance (c : Char) : Decidable (IsPlain c) := inferInstanceAs (Decidable (_ ∨ _))

/-- A list of plain characters. -/
def AllPlain (cs : List Char) : Prop := ∀ c ∈ cs, IsPlain c

instance (cs : List Char) : Decidable (AllPlain cs) := List.decidableBAll _ cs

variable {cs ds : List Char} {c : Char} {base : Nat}

theorem AllPlain.append (h : AllPlain cs) (h' : AllPlain ds) : AllPlain (cs ++ ds) :=
  List.forall_mem_append.2 ⟨h, h'⟩

theorem AllPlain.cons (hc : IsPlain c) (h : AllPlain cs) : AllPlain (c :: cs) :=
  List.forall_mem_cons.2 ⟨hc, h⟩

/-- What is not plain does not stand in a plain text. -/
theorem AllPlain.notMem (h : AllPlain cs) (hc : ¬IsPlain c) : c ∉ cs := fun hmem => hc (h c hmem)

/-- Lines and a separator between them hold what each of them holds. -/
theorem forall_mem_intercalate {P : Char → Prop} {separator : List Char}
    (hseparator : ∀ c ∈ separator, P c) : ∀ {lines : List (List Char)},
      (∀ line ∈ lines, ∀ c ∈ line, P c) → ∀ c ∈ List.intercalate separator lines, P c
  | [], _ => nofun
  | [line], h => by
    rw [List.intercalate_singleton]
    exact h line List.mem_cons_self
  | line :: next :: rest, h => by
    obtain ⟨hline, hrest⟩ := List.forall_mem_cons.1 h
    rw [List.intercalate_cons_cons, List.forall_mem_append, List.forall_mem_append]
    exact ⟨⟨hline, hseparator⟩, forall_mem_intercalate hseparator hrest⟩

/-! ### Numbers -/

/-- The digits of all bases up to sixteen are plain. -/
theorem isPlain_digitChar {n : Nat} (h : n < 16) : IsPlain n.digitChar :=
  (show ∀ k < 16, IsPlain (Nat.digitChar k) by decide) n h

theorem allPlain_toDigits (hbase : 1 < base) (hle : base ≤ 16) (n : Nat) :
    AllPlain (Nat.toDigits base n) := by
  induction n using Nat.strongRecOn with
  | ind n ih =>
    rw [Nat.toDigits_eq_if hbase]
    split
    case isTrue hlt =>
      exact List.forall_mem_singleton.2 (isPlain_digitChar (Nat.lt_of_lt_of_le hlt hle))
    case isFalse hge =>
      have hpos : 0 < n := by omega
      have hlast : n % base < 16 := Nat.lt_of_lt_of_le (Nat.mod_lt n (by omega)) hle
      exact (ih _ (Nat.div_lt_self hpos hbase)).append
        (List.forall_mem_singleton.2 (isPlain_digitChar hlast))

theorem allPlain_toString (n : Nat) : AllPlain (toString n).toList := by
  rw [Nat.toString_eq_ofList_toDigits, String.toList_ofList]
  exact allPlain_toDigits (by decide) (by decide) n

theorem allPlain_padded (width n : Nat) : AllPlain (Text.padded width n) := by
  refine AllPlain.append (fun c hc => ?_) (allPlain_toDigits (by decide) (by decide) n)
  rw [(List.mem_replicate.1 hc).2]
  decide

theorem allPlain_pointed (places n : Nat) : AllPlain (Binary64.pointed places n) := by
  have hdigits : AllPlain (Text.padded (places + 1) n) := allPlain_padded _ _
  unfold Binary64.pointed
  dsimp only
  split
  · exact hdigits
  · refine .append (fun c hc => hdigits c (List.mem_of_mem_take hc)) (.cons (by decide) ?_)
    exact fun c hc => hdigits c (List.mem_of_mem_drop hc)

theorem allPlain_fixedText (places : Nat) (x : Binary64) :
    AllPlain (x.fixedText places).toList := by
  have hsign : ∀ negative, AllPlain (Binary64.signText negative) := by decide
  cases x with
  | finite s m e =>
    rw [Binary64.fixedText, String.toList_ofList]
    exact (hsign s).append (allPlain_pointed _ _)
  | infinite s =>
    rw [Binary64.fixedText, String.toList_ofList]
    exact (hsign s).append (by decide)
  | nan =>
    rw [Binary64.fixedText]
    decide

/-! ### Addresses and versions -/

theorem allPlain_v4Text (a b c d : UInt8) : AllPlain (IpAddress.v4Text a b c d) := by
  refine forall_mem_intercalate (List.forall_mem_singleton.2 (by decide)) fun line hline => ?_
  obtain ⟨n, -, rfl⟩ := List.mem_map.1 hline
  exact allPlain_toDigits (by decide) (by decide) _

theorem allPlain_groupsText (groups : List UInt16) : AllPlain (IpAddress.groupsText groups) := by
  refine forall_mem_intercalate (List.forall_mem_singleton.2 (by decide)) fun line hline => ?_
  obtain ⟨n, -, rfl⟩ := List.mem_map.1 hline
  exact allPlain_toDigits (by decide) (by decide) _

theorem allPlain_address (a : IpAddress) : AllPlain a.text.toList := by
  cases a with
  | v4 a b c d =>
    rw [IpAddress.text, String.toList_ofList]
    exact allPlain_v4Text a b c d
  | v6 groups =>
    rw [IpAddress.text, String.toList_ofList]
    unfold IpAddress.v6Text
    split
    case h_1 => exact .append (by decide) (allPlain_v4Text _ _ _ _)
    case h_2 =>
      dsimp only
      split
      · exact ((allPlain_groupsText _).append (by decide)).append (allPlain_groupsText _)
      · exact allPlain_groupsText _

theorem allPlain_version (v : Version) : AllPlain v.number.toList := by cases v <;> decide

/-! ### Times -/

/-- A name taken from a list of plain names is plain. -/
theorem allPlain_getD {names : List String} (h : ∀ name ∈ names, AllPlain name.toList) (i : Nat) :
    AllPlain (names.getD i "").toList := by
  rw [List.getD_eq_getElem?_getD]
  cases hi : names[i]? with
  | none => exact nofun
  | some name => exact h name (List.mem_of_getElem? hi)

theorem allPlain_dayName (weekday : Nat) : AllPlain (Calendar.dayName weekday).toList :=
  allPlain_getD (by decide) weekday

theorem allPlain_monthName (month : Nat) : AllPlain (Calendar.monthName month).toList :=
  allPlain_getD (by decide) (month - 1)

theorem allPlain_yearText (year : Int) : AllPlain (Calendar.yearText year) := by
  unfold Calendar.yearText
  split
  · exact allPlain_padded _ _
  · refine .cons ?_ (allPlain_padded _ _)
    split <;> decide

theorem allPlain_timeText (f : Calendar.ClockFace) : AllPlain f.timeText := by
  have hcolon : IsPlain ':' := by decide
  exact .append (.append (allPlain_padded _ _) (.cons hcolon (allPlain_padded _ _)))
    (.cons hcolon (allPlain_padded _ _))

theorem allPlain_offsetText (offset : Int) {separator : List Char} (h : AllPlain separator) :
    AllPlain (Calendar.offsetText offset separator) := by
  have hsign : IsPlain (if offset < 0 then '-' else '+') := by split <;> decide
  exact .append (.append (.cons hsign (allPlain_padded _ _)) h) (allPlain_padded _ _)

namespace LogEntry

theorem allPlain_fractionText (nanos : Nat) : AllPlain (fractionText nanos) := by
  have hpoint : IsPlain '.' := by decide
  unfold fractionText
  split
  · decide
  · split
    · exact .cons hpoint (allPlain_padded _ _)
    · split <;> exact .cons hpoint (allPlain_padded _ _)

/-- The international form of a time is plain. -/
theorem allPlain_isoTime (e : LogEntry) : AllPlain e.isoTime.toList := by
  have hdash : IsPlain '-' := by decide
  rw [isoTime, String.toList_ofList]
  refine .append (.append (.append (.append (.append (allPlain_yearText _) ?_) ?_) ?_) ?_) ?_
  · exact .cons hdash (allPlain_padded _ _)
  · exact .cons hdash (allPlain_padded _ _)
  · exact .cons (by decide) (allPlain_timeText _)
  · exact allPlain_fractionText _
  · exact allPlain_offsetText _ (by decide)

/-- The form of the classic logs is a plain date with the time, a blank, and a plain offset. -/
theorem exists_classicTime (e : LogEntry) : ∃ clock zone,
    e.classicTime.toList = clock ++ ' ' :: zone ∧ AllPlain clock ∧ AllPlain zone := by
  have hslash : IsPlain '/' := by decide
  rw [classicTime, String.toList_ofList]
  refine ⟨_, _, rfl, ?_, allPlain_offsetText _ (by decide)⟩
  refine .append (.append (.append (allPlain_padded _ _) ?_) ?_) ?_
  · exact .cons hslash (allPlain_monthName _)
  · exact .cons hslash (allPlain_yearText _)
  · exact .cons (by decide) (allPlain_timeText _)

/-- Only the blank in the classic form of a time is not plain. -/
theorem notMem_classicTime (e : LogEntry) {c : Char} (hc : ¬IsPlain c) (hblank : c ≠ ' ') :
    c ∉ e.classicTime.toList := by
  obtain ⟨clock, zone, heq, hclock, hzone⟩ := e.exists_classicTime
  rw [heq, List.mem_append, List.mem_cons]
  rintro (h | h | h)
  · exact hclock.notMem hc h
  · exact hblank h
  · exact hzone.notMem hc h

/-! ### The address that is asked for -/

/-- A character that is not in the query and is not the mark in front of it is in the path. -/
theorem count_uri {e : LogEntry} (hc : c ≠ '?')
    (hquery : ∀ query, e.query = some query → c ∉ query.toList) :
    e.uri.toList.count c = e.path.toList.count c := by
  unfold uri
  split
  case h_1 query heq =>
    have hnone : query.toList.count c = 0 := List.count_eq_zero.2 (hquery query heq)
    have hmark : "?".toList.count c = 0 :=
      List.count_eq_zero.2 fun hmem => hc (List.mem_singleton.1 hmem)
    rw [String.toList_append, String.toList_append, List.count_append, List.count_append, hmark,
      hnone, Nat.add_zero]
  case h_2 => rfl

theorem notMem_uri {e : LogEntry} (hc : c ≠ '?') (hpath : c ∉ e.path.toList)
    (hquery : ∀ query, e.query = some query → c ∉ query.toList) : c ∉ e.uri.toList := by
  rw [← List.count_eq_zero, count_uri hc hquery]
  exact List.count_eq_zero.2 hpath

/-! ### What variables stand for -/

/-- The texts that an entry was told. -/
def texts (e : LogEntry) : List String :=
  [e.remoteAddress, e.method, e.path, e.version] ++ e.query.toList ++ e.referer.toList ++
    e.userAgent.toList

/-- What all characters are like that stand in the texts of an entry, and all that are written
between and in the place of these. -/
structure Covers (P : Char → Prop) (e : LogEntry) : Prop where
  plain : ∀ c, IsPlain c → P c
  blank : P ' '
  mark : P '?'
  text : ∀ text ∈ e.texts, ∀ c ∈ text.toList, P c

namespace Covers

variable {P : Char → Prop} {e : LogEntry}

theorem of_allPlain (h : Covers P e) (hcs : AllPlain cs) : ∀ c ∈ cs, P c := fun c hc =>
  h.plain c (hcs c hc)

theorem getD (h : Covers P e) {text : Option String} (htext : ∀ s ∈ text, s ∈ e.texts) :
    ∀ c ∈ (text.getD "-").toList, P c := by
  cases text with
  | none => exact h.of_allPlain (by decide)
  | some s => exact h.text s (htext s rfl)

theorem uri (h : Covers P e) : ∀ c ∈ e.uri.toList, P c := by
  have hpath : ∀ c ∈ e.path.toList, P c := h.text e.path (by simp [texts])
  unfold LogEntry.uri
  split
  case h_1 query hquery =>
    rw [String.toList_append, String.toList_append, List.forall_mem_append, List.forall_mem_append]
    exact ⟨⟨hpath, List.forall_mem_singleton.2 h.mark⟩, h.text query (by simp [texts, hquery])⟩
  case h_2 => exact hpath

theorem requestLine (h : Covers P e) : ∀ c ∈ e.requestLine.toList, P c := by
  have hmethod : ∀ c ∈ e.method.toList, P c := h.text e.method (by simp [texts])
  have hversion : ∀ c ∈ e.version.toList, P c := h.text e.version (by simp [texts])
  have hprotocol : ∀ c ∈ " HTTP/".toList, P c :=
    List.forall_mem_cons.2 ⟨h.blank, h.of_allPlain (show AllPlain "HTTP/".toList by decide)⟩
  simp only [LogEntry.requestLine, String.toList_append, List.forall_mem_append]
  exact ⟨⟨⟨⟨hmethod, List.forall_mem_singleton.2 h.blank⟩, h.uri⟩, hprotocol⟩, hversion⟩

theorem classicTime (h : Covers P e) : ∀ c ∈ e.classicTime.toList, P c := by
  obtain ⟨clock, zone, heq, hclock, hzone⟩ := e.exists_classicTime
  rw [heq, List.forall_mem_append, List.forall_mem_cons]
  exact ⟨h.of_allPlain hclock, h.blank, h.of_allPlain hzone⟩

/-- Whatever a variable stands for is made of such characters. -/
theorem value (h : Covers P e) : ∀ v : Variable, ∀ c ∈ (v.value e).toList, P c
  | .remoteAddress => h.text e.remoteAddress (by simp [texts])
  | .timeLocal => h.classicTime
  | .timeIso => h.of_allPlain e.allPlain_isoTime
  | .requestTime => h.of_allPlain (allPlain_fixedText 3 _)
  | .requestMethod => h.text e.method (by simp [texts])
  | .requestUri => h.uri
  | .request => h.requestLine
  | .status => h.of_allPlain (allPlain_toString e.status)
  | .bodyBytesSent => h.of_allPlain (allPlain_toString e.bodyBytes)
  | .referer => h.getD fun s hs => by simp [texts, Option.mem_def.1 hs]
  | .userAgent => h.getD fun s hs => by simp [texts, Option.mem_def.1 hs]

end Covers

end LogEntry

end FileServer
