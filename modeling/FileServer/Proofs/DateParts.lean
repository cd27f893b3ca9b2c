import FileServer.Calendar.HttpDate
import FileServer.Proofs.Dates
import FileServer.Proofs.Numerals
import FileServer.Proofs.Refusals

/-!
The parts of a date in a header: blanks, names in letters of either case, and numbers in digits. Each
reader takes its own part off the front, whatever follows, unless what follows goes on with the part.
-/

namespace FileServer

namespace Text

variable {c : Char} {cs : List Char} {name : String}

/-! ### Blanks -/

/-- The text has a first character that is not blank. -/
def StartsVisibly : List Char → Prop
  | [] => False
  | c :: _ => isBlank c = false

/-- Blanks, of which there may be none. -/
structure Blanks where
  chars : List Char
  blank : ∀ c ∈ chars, isBlank c = true

/-- Blanks, of which there is at least one. -/
structure Gap extends Blanks where
  nonempty : chars ≠ []

/-- No blanks at all. -/
def Blanks.none : Blanks := ⟨[], by simp⟩

/-- One space. -/
def Gap.space : Gap := ⟨⟨[' '], by simp [isBlank]⟩, by simp⟩

theorem StartsVisibly.append (h : StartsVisibly cs) (rest : List Char) :
    StartsVisibly (cs ++ rest) := by
  cases cs with
  | nil => exact h.elim
  | cons c tail => exact h

theorem startsVisibly_of_forall (hne : cs ≠ []) (h : ∀ c ∈ cs, isBlank c = false) :
    StartsVisibly cs := by
  obtain ⟨c, rest, rfl⟩ := List.exists_cons_of_ne_nil hne
  exact h c List.mem_cons_self

theorem trimStart_eq_self (h : StartsVisibly cs) : trimStart cs = cs := by
  cases cs with
  | nil => exact h.elim
  | cons c tail =>
    have hvisible : isBlank c = false := h
    rw [trimStart, List.dropWhile_cons, if_neg (by simp [hvisible])]

theorem Blanks.trimStart_append (b : Blanks) (h : StartsVisibly cs) :
    trimStart (b.chars ++ cs) = cs := by
  rw [trimStart, List.dropWhile_append_of_pos b.blank]
  exact trimStart_eq_self h

/-- Blanks around a text that neither begins nor ends with a blank are taken away. -/
theorem trim_append (front back : Blanks) (hfront : StartsVisibly cs)
    (hback : StartsVisibly cs.reverse) : trim (front.chars ++ (cs ++ back.chars)) = cs := by
  have hblank : ∀ c ∈ back.chars.reverse, isBlank c = true :=
    fun c hc => back.blank c (List.mem_reverse.1 hc)
  rw [trim, front.trimStart_append (hfront.append _), List.reverse_append,
    Blanks.trimStart_append ⟨_, hblank⟩ hback, List.reverse_reverse]

/-! ### Letters and digits -/

theorem isBlank_of_isDigit (h : c.isDigit = true) : isBlank c = false := by
  have := toNat_of_isDigit h
  simp [isBlank]
  omega

/-- Letters are told by their place in the alphabet. -/
theorem isAlpha_iff : c.isAlpha = true ↔
    65 ≤ c.toNat ∧ c.toNat ≤ 90 ∨ 97 ≤ c.toNat ∧ c.toNat ≤ 122 := by
  have hunfold : c.isAlpha = (decide (65 ≤ c.toNat ∧ c.toNat ≤ 90) ||
      (decide (97 ≤ c.toNat) && decide (c.toNat ≤ 122))) := rfl
  rw [hunfold, Bool.or_eq_true, Bool.and_eq_true, decide_eq_true_iff, decide_eq_true_iff,
    decide_eq_true_iff]

theorem isBlank_of_isAlpha (h : c.isAlpha = true) : isBlank c = false := by
  have := isAlpha_iff.1 h
  simp [isBlank]
  omega

theorem isDigit_of_isAlpha (h : c.isAlpha = true) : c.isDigit = false := by
  have := isAlpha_iff.1 h
  rw [Bool.eq_false_iff]
  intro hdigit
  have := toNat_of_isDigit hdigit
  omega

theorem isAlpha_of_isDigit (h : c.isDigit = true) : c.isAlpha = false := by
  rw [Bool.eq_false_iff]
  intro halpha
  exact absurd h (by simp [isDigit_of_isAlpha halpha])

theorem isDigit_of_isBlank (h : isBlank c = true) : c.isDigit = false := by
  rw [Bool.eq_false_iff]
  intro hdigit
  exact absurd h (by simp [isBlank_of_isDigit hdigit])

theorem isAlpha_of_isBlank (h : isBlank c = true) : c.isAlpha = false := by
  rw [Bool.eq_false_iff]
  intro halpha
  exact absurd h (by simp [isBlank_of_isAlpha halpha])

/-- Letters stay letters in small letters, and nothing else becomes one. -/
theorem isAlpha_toLower (c : Char) : c.toLower.isAlpha = c.isAlpha := by
  unfold Char.toLower
  split
  case isTrue hcapital =>
    have hlow : 65 ≤ c.toNat := hcapital.1
    have hhigh : c.toNat ≤ 90 := hcapital.2
    have hsmall : (c.val + ('a'.val - 'A'.val)).toNat = c.toNat + 32 := by
      rw [UInt32.toNat_add]
      exact Nat.mod_eq_of_lt (show c.toNat + 32 < 2 ^ 32 by omega)
    refine (isAlpha_iff.2 (.inr ?_)).trans (isAlpha_iff.2 (.inl ⟨hlow, hhigh⟩)).symm
    show 97 ≤ (c.val + ('a'.val - 'A'.val)).toNat ∧ (c.val + ('a'.val - 'A'.val)).toNat ≤ 122
    omega
  case isFalse => rfl

/-- The text is a name, with small and capital letters mixed at will. -/
def Spells (name : String) (cs : List Char) : Prop :=
  cs.map Char.toLower = name.toList.map Char.toLower

instance (name : String) (cs : List Char) : Decidable (Spells name cs) :=
  inferInstanceAs (Decidable (_ = _))

/-- The name consists of letters. -/
def IsLettered (name : String) : Prop :=
  name.toList ≠ [] ∧ ∀ c ∈ name.toList, c.isAlpha = true

-- the characters of the name are gone through, not all characters that there are
instance (name : String) : Decidable (IsLettered name) :=
  @instDecidableAnd _ _ _ (List.decidableBAll (fun c : Char => c.isAlpha = true) name.toList)

theorem Spells.length_eq (h : Spells name cs) : cs.length = name.toList.length := by
  simpa using congrArg List.length h

/-- A name of letters is spelled in letters. -/
theorem Spells.isAlpha (h : Spells name cs) (hname : IsLettered name) :
    ∀ c ∈ cs, c.isAlpha = true := by
  intro c hc
  have hlower : c.toLower ∈ name.toList.map Char.toLower := h ▸ List.mem_map_of_mem hc
  obtain ⟨c', hc', heq⟩ := List.mem_map.1 hlower
  rw [← isAlpha_toLower, ← heq, isAlpha_toLower]
  exact hname.2 c' hc'

theorem Spells.ne_nil (h : Spells name cs) (hname : IsLettered name) : cs ≠ [] := by
  rintro rfl
  exact hname.1 (List.map_eq_nil_iff.1 h.symm)

theorem Spells.startsVisibly (h : Spells name cs) (hname : IsLettered name) :
    StartsVisibly cs :=
  startsVisibly_of_forall (h.ne_nil hname) fun c hc => isBlank_of_isAlpha (h.isAlpha hname c hc)

theorem padded_ne_nil (width n : Nat) : padded width n ≠ [] :=
  List.append_ne_nil_of_right_ne_nil _ Nat.toDigits_ne_nil

theorem startsVisibly_padded (width n : Nat) : StartsVisibly (padded width n) :=
  startsVisibly_of_forall (padded_ne_nil width n) fun _ hc =>
    isBlank_of_isDigit (isDigit_of_mem_padded hc)

/-- The text does not begin with a character of a class. -/
def Stops (p : Char → Bool) (cs : List Char) : Prop := cs.takeWhile p = []

theorem stops_cons {p : Char → Bool} (h : p c = false) (rest : List Char) :
    Stops p (c :: rest) := by
  rw [Stops, List.takeWhile_cons, if_neg (by simp [h])]

theorem Stops.take {p : Char → Bool} (h : Stops p cs) (n : Nat) : (cs.take n).takeWhile p = [] := by
  cases cs with
  | nil => rw [List.take_nil]; rfl
  | cons c rest =>
    cases n with
    | zero => rfl
    | succ n =>
      have hc : ¬p c = true := fun hc => by simp [Stops, hc] at h
      rw [List.take_succ_cons, List.takeWhile_cons, if_neg hc]

/-- Blanks do not go on with anything but blanks. -/
theorem Gap.stops (g : Gap) {p : Char → Bool} (hp : ∀ c, isBlank c = true → p c = false)
    (rest : List Char) : Stops p (g.chars ++ rest) := by
  obtain ⟨c, tail, hcons⟩ := List.exists_cons_of_ne_nil g.nonempty
  rw [hcons]
  exact stops_cons (hp c (g.blank c (hcons ▸ List.mem_cons_self))) _

end Text

namespace Calendar

open Text

/-- An instant in a year of four digits that is not in a leap second; times of files never are. -/
structure IsCommon (t : Instant) : Prop where
  nanos : t.nanos < 1000000000
  year : 0 ≤ (ClockFace.ofInstant t).date.year ∧ (ClockFace.ofInstant t).date.year ≤ 9999

/-- What calendar and clock show at such an instant. -/
structure ClockFace.IsCommon (c : ClockFace) : Prop where
  weekday : c.weekday < 7
  date : c.date.isValid = true
  year : 0 ≤ c.date.year ∧ c.date.year ≤ 9999
  hour : c.hour < 24
  minute : c.minute < 60
  second : c.second < 60

variable {t : Instant} {offset : Int}

theorem ClockFace.isCommon_ofInstant (hnanos : t.nanos < 1000000000)
    (hyear : 0 ≤ (ofInstant t offset).date.year ∧ (ofInstant t offset).date.year ≤ 9999) :
    (ofInstant t offset).IsCommon := by
  refine ⟨?_, Date.isValid_ofDayNumber _, hyear, ?_, ?_, ?_⟩
  all_goals
    simp only [ofInstant, Calendar.weekday]
    omega

/-- The second that a clock face shows, counted as if the clock stood in Greenwich. -/
def ClockFace.seconds (c : ClockFace) : Int :=
  c.date.toDayNumber * 86400 + (c.hour * 3600 + c.minute * 60 + c.second : Nat)

/-- The clock face shows all of the second. -/
theorem ClockFace.seconds_ofInstant (hnanos : t.nanos < 1000000000) (offset : Int) :
    (ofInstant t offset).seconds = t.seconds + offset := by
  simp only [seconds, ofInstant, Date.toDayNumber_ofDayNumber]
  omega

/-- The name of the day is that of the date. -/
theorem ClockFace.weekday_ofInstant (t : Instant) (offset : Int) :
    (ofInstant t offset).weekday = Calendar.weekday (ofInstant t offset).date.toDayNumber := by
  simp only [ofInstant, Date.toDayNumber_ofDayNumber]

/-- Years of four digits have dates, wherever the clock stands. -/
theorem ClockFace.IsCommon.inRange {c : ClockFace} (h : c.IsCommon)
    (hoffset : -86400 < offset ∧ offset < 86400) (nanos : Nat) :
    Calendar.inRange ⟨c.seconds - offset, nanos⟩ = true := by
  have hdays := Date.toDayNumber_bounds h.date h.year
  obtain ⟨-, -, -, hhour, hminute, hsecond⟩ := h
  rw [Calendar.inRange, Bool.and_eq_true, decide_eq_true_iff, decide_eq_true_iff, firstSecond,
    lastSecond, seconds]
  dsimp only
  omega

namespace HttpDate

variable {c : ClockFace} {rest cs : List Char} {min max n i : Nat} {names : List String}

/-! ### Names -/

/-- What holds of all names holds of each. -/
theorem getD_of_forall {P : String → Prop} (h : ∀ name ∈ names, P name) (hi : i < names.length) :
    P (names.getD i "") := by
  rw [← List.getElem_eq_getD (h := hi)]
  exact h _ (List.getElem_mem hi)

theorem isLettered_dayName (hi : i < 7) : IsLettered (dayName i) :=
  getD_of_forall (P := IsLettered) (by decide) hi

theorem length_dayName (hi : i < 7) : (dayName i).toList.length = 3 :=
  getD_of_forall (P := fun name => name.toList.length = 3) (by decide) hi

theorem isLettered_monthName (h : 1 ≤ n ∧ n ≤ 12) : IsLettered (monthName n) :=
  getD_of_forall (P := IsLettered) (by decide) (show n - 1 < 12 by omega)

theorem length_monthName (h : 1 ≤ n ∧ n ≤ 12) : (monthName n).toList.length = 3 :=
  getD_of_forall (P := fun name => name.toList.length = 3) (by decide) (show n - 1 < 12 by omega)

/-- A name of three letters is read, if names differ in more than their case. -/
theorem nameIn_append (hlength : ∀ name ∈ names, name.toList.length = 3)
    (hdiffer : (names.map fun name => name.toList.map Char.toLower).Nodup) (hi : i < names.length)
    (hcs : Spells (names.getD i "") cs) (rest : List Char) :
    nameIn names (cs ++ rest) = some (i, rest) := by
  have hname : names.getD i "" = names[i] := (List.getElem_eq_getD (h := hi) "").symm
  rw [hname] at hcs
  have hthree : cs.length = 3 := hcs.length_eq.trans (hlength _ (List.getElem_mem hi))
  have hfind : names.findIdx? (fun name => name.toList.map Char.toLower == cs.map Char.toLower) =
      some i := by
    rw [hcs, List.findIdx?_eq_some_iff_getElem]
    refine ⟨hi, beq_self_eq_true _, fun j hj hsame => ?_⟩
    have hlower := List.pairwise_iff_getElem.1 hdiffer j i (by simp; omega) (by simpa) hj
    simp only [List.getElem_map] at hlower
    exact hlower (beq_iff_eq.1 hsame)
  rw [nameIn, List.take_left' hthree, List.drop_left' hthree, hfind]
  rfl

/-- What is read as a name spells it. -/
theorem spells_of_nameIn (h : nameIn names cs = some (i, rest)) :
    i < names.length ∧ Spells (names.getD i "") (cs.take 3) ∧ rest = cs.drop 3 := by
  obtain ⟨j, hfind, heq⟩ := Option.map_eq_some_iff.1 h
  cases heq
  obtain ⟨hi, hsame, -⟩ := List.findIdx?_eq_some_iff_getElem.1 hfind
  refine ⟨hi, ?_, rfl⟩
  rw [← List.getElem_eq_getD (h := hi)]
  exact (beq_iff_eq.1 hsame).symm

theorem month_append (h : 1 ≤ n ∧ n ≤ 12) (hcs : Spells (monthName n) cs) (rest : List Char) :
    nameIn monthNames (cs ++ rest) = some (n - 1, rest) :=
  nameIn_append (by decide) (by decide) (show n - 1 < 12 by omega) hcs rest

/-! ### Numbers -/

/-- Digits are read, if there are enough of them and no digit follows that would be read too. -/
theorem number_append {digits : List Char} (hdigits : ∀ c ∈ digits, c.isDigit = true)
    (hmin : min ≤ digits.length) (hmax : digits.length ≤ max)
    (hrest : digits.length = max ∨ Stops Char.isDigit rest) :
    number min max (digits ++ rest) = some (ofDigits digits, rest) := by
  have hstop : (rest.take (max - digits.length)).takeWhile Char.isDigit = [] := by
    rcases hrest with hfull | hstop
    · rw [hfull, Nat.sub_self]
      rfl
    · exact hstop.take _
  have hread : ((digits ++ rest).take max).takeWhile Char.isDigit = digits := by
    rw [List.take_append, List.take_of_length_le hmax, List.takeWhile_append_of_pos hdigits, hstop,
      List.append_nil]
  rw [number, hread, if_neg (Nat.not_lt.2 hmin), List.drop_left]

theorem number_padded (hmin : min ≤ 2) (hn : n < 100) (rest : List Char) :
    number min 2 (padded 2 n ++ rest) = some (n, rest) := by
  have hlength := length_padded_two hn
  rw [number_append (fun c hc => isDigit_of_mem_padded hc) (by omega) (by omega) (.inl hlength),
    ofDigits_padded]

theorem number_of_stops (hmin : 0 < min) (h : Stops Char.isDigit cs) : number min max cs = none := by
  rw [number, h.take max, List.length_nil, if_pos hmin]

/-- A number in one or two digits is read. -/
theorem number_toDigits (hn : n < 100) (hrest : Stops Char.isDigit rest) :
    number 1 2 (Nat.toDigits 10 n ++ rest) = some (n, rest) := by
  have hfew : (Nat.toDigits 10 n).length ≤ 2 :=
    (Nat.length_toDigits_le_iff (by omega) (by omega)).2 hn
  have hsome : 1 ≤ (Nat.toDigits 10 n).length := List.length_pos_iff.2 Nat.toDigits_ne_nil
  rw [number_append (fun c hc => isDigit_of_mem_toDigits hc) hsome hfew (.inr hrest),
    ofDigits_toDigits]

/-- A year of four digits is not read as one of two or three. -/
theorem year_append {y : Int} (hy : 0 ≤ y ∧ y ≤ 9999) (hrest : Stops Char.isDigit rest) :
    year (padded 4 y.toNat ++ rest) = some (y, rest) := by
  have hlength : (padded 4 y.toNat).length = 4 := length_padded_four (by omega)
  have hread : number 2 (padded 4 y.toNat ++ rest).length (padded 4 y.toNat ++ rest) =
      some (y.toNat, rest) := by
    rw [number_append (fun c hc => isDigit_of_mem_padded hc) (by omega) (by simp) (.inr hrest),
      ofDigits_padded]
  rw [year, hread]
  simp [hlength, Int.toNat_of_nonneg hy.1]

/-! ### Blanks and marks between the parts -/

/-- A part that begins visibly is read behind blanks. -/
theorem blanks_append (g : Gap) (h : StartsVisibly rest) : blanks (g.chars ++ rest) = some rest := by
  obtain ⟨c, tail, hcons⟩ := List.exists_cons_of_ne_nil g.nonempty
  have hblank : isBlank c = true := g.blank c (hcons ▸ List.mem_cons_self)
  have hrest : trimStart (g.chars ++ rest) = rest := g.trimStart_append h
  rw [hcons, List.cons_append, trimStart, List.dropWhile_cons, if_pos hblank] at hrest
  rw [hcons, List.cons_append, blanks, if_pos hblank]
  exact congrArg some hrest

theorem eq_cons_of_mark {m : Char} (h : mark m cs = some rest) : cs = m :: rest := by
  cases cs with
  | nil => cases h
  | cons c tail =>
    rw [mark] at h
    split at h
    case isTrue hc => rw [beq_iff_eq.1 hc, Option.some.inj h]
    case isFalse => cases h

/-- A mark is read behind blanks, of which there may be none. -/
theorem mark_append (b : Blanks) {m : Char} (h : isBlank m = false) (rest : List Char) :
    mark m (trimStart (b.chars ++ m :: rest)) = some rest := by
  have hvisible : StartsVisibly (m :: rest) := h
  rw [b.trimStart_append hvisible, mark, if_pos (beq_self_eq_true m)]

end HttpDate

end Calendar

end FileServer
