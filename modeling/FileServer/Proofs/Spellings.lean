import FileServer.Proofs.DateParts
import FileServer.Site.Freshness
import Mathlib.Data.List.Basic

/-!
Dates in headers may be written in many ways. What a clock shows is written with or without the name
of the day, in letters of either case, with one or two digits for the day, with blanks wherever the
parts are apart, with any zone that the clock may stand in, and with comments at the end. All of them
are read as the instant at which the clock shows it.

    sun, 6  Nov 1994 09 : 49 : 37 +0100 (Berlin (and \) Paris)) (winter)
    ───  ─  ─── ──── ──────────── ───── ───────────────────────────────
-/

namespace FileServer

open Text

namespace Calendar.HttpDate

/-! ### The ways to write a date -/

/-- What may stand in a comment: other comments, characters behind a backslash, and characters that
are neither brackets nor backslashes. -/
inductive IsNested : List Char → Prop
  | nil : IsNested []
  | plain {c : Char} {rest : List Char} (hc : c ≠ '(' ∧ c ≠ ')' ∧ c ≠ '\\')
      (hrest : IsNested rest) : IsNested (c :: rest)
  | escaped (c : Char) {rest : List Char} (hrest : IsNested rest) : IsNested ('\\' :: c :: rest)
  | comment {inner rest : List Char} (hinner : IsNested inner) (hrest : IsNested rest) :
      IsNested ('(' :: (inner ++ ')' :: rest))

/-- Comments one after another, with blanks before each of them. -/
inductive AreComments : List Char → Prop
  | nil : AreComments []
  | cons (gap : Blanks) {inner rest : List Char} (hinner : IsNested inner)
      (hrest : AreComments rest) : AreComments (gap.chars ++ '(' :: (inner ++ ')' :: rest))

/-- A zone is written as a sign, two digits for the hours and two for the minutes; Greenwich has
names too. -/
inductive WritesZone (offset : Int) : List Char → Prop
  | numeric {sign : Char} (hsign : sign = '+' ∧ 0 ≤ offset ∨ sign = '-' ∧ offset ≤ 0) :
      WritesZone offset
        (sign :: (padded 2 (offset.natAbs / 3600) ++ padded 2 (offset.natAbs / 60 % 60)))
  | named {name : String} {cs : List Char} (hzero : offset = 0) (hname : name ∈ ["GMT", "UT", "Z"])
      (hcs : Spells name cs) : WritesZone offset cs

/-- A zone whose clocks are less than a day ahead or behind, by whole minutes. -/
structure IsZone (offset : Int) : Prop where
  minutes : offset % 60 = 0
  day : -86400 < offset ∧ offset < 86400

/-- A way to write what a clock shows that is set `offset` seconds east of Greenwich. -/
structure Spelling (c : ClockFace) (offset : Int) where
  front : Blanks
  behindComma : Blanks
  day : List Char
  beforeMonth : Gap
  month : List Char
  beforeYear : Gap
  beforeHour : Gap
  beforeColon : Blanks
  behindColon : Blanks
  beforeSecond : Blanks
  beforeZone : Gap
  zone : List Char
  comments : List Char
  back : Blanks
  day_eq : day = padded 2 c.date.day ∨ day = Nat.toDigits 10 c.date.day
  month_spells : Spells (monthName c.date.month) month
  zone_writes : WritesZone offset zone
  comments_nested : AreComments comments

namespace Spelling

variable {c : ClockFace} {offset : Int}

/-- What stands behind the place of the name of the day. -/
def body (s : Spelling c offset) : List Char :=
  s.day ++ (s.beforeMonth.chars ++ (s.month ++ (s.beforeYear.chars ++ (padded 4 c.date.year.toNat ++
    (s.beforeHour.chars ++ (padded 2 c.hour ++ (s.beforeColon.chars ++ ':' ::
      (s.behindColon.chars ++ (padded 2 c.minute ++ (s.beforeSecond.chars ++ ':' ::
        (padded 2 c.second ++ (s.beforeZone.chars ++ (s.zone ++ s.comments)))))))))))))

/-- The date with a name of the day, or without one. -/
def core (s : Spelling c offset) : Option (List Char) → List Char
  | none => s.body
  | some name => name ++ ',' :: (s.behindComma.chars ++ s.body)

/-- The date as a text. -/
def text (s : Spelling c offset) (name : Option (List Char)) : String :=
  String.ofList (s.front.chars ++ (s.core name ++ s.back.chars))

end Spelling

variable {c : ClockFace} {offset : Int} {cs rest name : List Char}

/-! ### Comments -/

/-- What may stand in a comment does not end it. -/
theorem IsNested.commentEnd_append (h : IsNested cs) :
    ∀ (depth : Nat) (rest : List Char),
      commentEnd (depth + 1) (cs ++ rest) = commentEnd (depth + 1) rest := by
  induction h with
  | nil => exact fun _ _ => rfl
  | plain hc _ ih =>
    intro depth rest
    rw [List.cons_append, commentEnd, ih]
    all_goals simp_all
  | escaped c _ ih =>
    intro depth rest
    rw [List.cons_append, List.cons_append, commentEnd, ih]
  | comment _ _ ihinner ihrest =>
    intro depth rest
    rw [List.cons_append, commentEnd, List.append_assoc, List.cons_append, ihinner, commentEnd,
      if_neg (by omega), Nat.add_sub_cancel, ihrest]

theorem onlyComments_of_areComments (h : AreComments cs) :
    ∀ fuel, cs.length ≤ fuel → onlyComments fuel cs = true := by
  induction h with
  | nil =>
    intro fuel _
    cases fuel <;> rfl
  | @cons gap inner rest hinner _ ih =>
    intro fuel hfuel
    have hvisible : StartsVisibly ('(' :: (inner ++ ')' :: rest)) := by simp [StartsVisibly, isBlank]
    have hcomment : comment? (gap.chars ++ '(' :: (inner ++ ')' :: rest)) = some rest := by
      rw [comment?, gap.trimStart_append hvisible]
      show commentEnd (0 + 1) (inner ++ ')' :: rest) = some rest
      rw [hinner.commentEnd_append, commentEnd, if_pos (by omega)]
    cases fuel with
    | zero => simp at hfuel
    | succ fuel =>
      rw [onlyComments, hcomment]
      refine ih fuel ?_
      simp only [List.length_append, List.length_cons] at hfuel
      omega

/-- Comments do not go on with a zone. -/
theorem AreComments.stops (h : AreComments cs) : Stops Char.isAlpha cs := by
  cases h with
  | nil => rfl
  | @cons gap inner rest _ _ =>
    cases hgap : gap.chars with
    | nil => exact stops_cons (by decide) _
    | cons c tail =>
      exact stops_cons (isAlpha_of_isBlank (gap.blank c (hgap ▸ List.mem_cons_self))) _

/-- Comments end with a bracket. -/
theorem AreComments.startsVisibly_reverse (h : AreComments cs) (hne : cs ≠ []) :
    StartsVisibly cs.reverse := by
  induction h with
  | nil => exact absurd rfl hne
  | @cons gap inner rest _ _ ih =>
    simp only [List.reverse_append, List.reverse_cons, List.append_assoc]
    cases rest with
    | nil => simp [StartsVisibly, isBlank]
    | cons c tail => exact (ih (by simp)).append _

/-! ### Zones -/

theorem isLettered_greenwich {name : String} (h : name ∈ ["GMT", "UT", "Z"]) : IsLettered name :=
  (show ∀ name ∈ ["GMT", "UT", "Z"], IsLettered name by decide) name h

/-- Minutes are written in two digits, of which the first is at most five. -/
theorem exists_padded_two {n : Nat} (hn : n < 60) :
    ∃ a b, padded 2 n = [a, b] ∧ a.isDigit = true ∧ b.isDigit = true ∧ a ≤ '5' ∧
      ofDigits [a, b] = n := by
  have hfirst : ∀ n < 60, ((padded 2 n)[0]?.all (· ≤ '5')) = true := by decide
  obtain ⟨a, b, hab⟩ := List.length_eq_two.1 (length_padded_two (show n < 100 by omega))
  have hdigits : ∀ c ∈ [a, b], c.isDigit = true := fun c hc => isDigit_of_mem_padded (hab ▸ hc)
  have hle := hfirst n hn
  rw [hab] at hle
  refine ⟨a, b, hab, hdigits a (by simp), hdigits b (by simp), of_decide_eq_true hle, ?_⟩
  rw [← hab, ofDigits_padded]

/-- A zone is written without blanks. -/
theorem WritesZone.visible (h : WritesZone offset cs) : cs ≠ [] ∧ ∀ c ∈ cs, isBlank c = false := by
  cases h with
  | @numeric sign hsign =>
    refine ⟨List.cons_ne_nil _ _, fun c hc => ?_⟩
    rcases List.mem_cons.1 hc with rfl | hc
    · rcases hsign with ⟨rfl, -⟩ | ⟨rfl, -⟩ <;> simp [isBlank]
    · rcases List.mem_append.1 hc with hc | hc
      · exact isBlank_of_isDigit (isDigit_of_mem_padded hc)
      · exact isBlank_of_isDigit (isDigit_of_mem_padded hc)
  | named _ hname hcs =>
    have hlettered := isLettered_greenwich hname
    exact ⟨hcs.ne_nil hlettered, fun c hc => isBlank_of_isAlpha (hcs.isAlpha hlettered c hc)⟩

theorem WritesZone.startsVisibly (h : WritesZone offset cs) : StartsVisibly cs :=
  startsVisibly_of_forall h.visible.1 h.visible.2

theorem WritesZone.startsVisibly_reverse (h : WritesZone offset cs) : StartsVisibly cs.reverse :=
  startsVisibly_of_forall (List.reverse_ne_nil_iff.2 h.visible.1) fun c hc =>
    h.visible.2 c (List.mem_reverse.1 hc)

/-- Zones by name and by number are read before anything but letters. -/
theorem zone_append (h : WritesZone offset cs) (hzone : IsZone offset)
    (hrest : Stops Char.isAlpha rest) :
    zone (cs ++ rest) = some (offset, rest) := by
  obtain ⟨hminutes, hday⟩ := hzone
  cases h with
  | @numeric sign hsign =>
    obtain ⟨h₁, h₂, hhours, hd₁, hd₂, -, hh⟩ :=
      exists_padded_two (show offset.natAbs / 3600 < 60 by omega)
    obtain ⟨m₁, m₂, hminute, hd₃, hd₄, hfive, hm⟩ :=
      exists_padded_two (show offset.natAbs / 60 % 60 < 60 by omega)
    have hseconds : (ofDigits [h₁, h₂] : Int) * 3600 + ofDigits [m₁, m₂] * 60 = offset.natAbs := by
      rw [hh, hm]
      omega
    have hsmall : (offset.natAbs : Int) < 86400 := by omega
    have hletter : sign.isAlpha = false := by rcases hsign with ⟨rfl, -⟩ | ⟨rfl, -⟩ <;> decide
    have hname : (sign :: h₁ :: h₂ :: m₁ :: m₂ :: rest).takeWhile Char.isAlpha = [] :=
      stops_cons hletter _
    rw [hhours, hminute]
    show zone (sign :: h₁ :: h₂ :: m₁ :: m₂ :: rest) = _
    simp only [zone, hname, List.isEmpty_nil, if_true, List.all_cons, List.all_nil, hd₁, hd₂, hd₃, hd₄,
      hfive, hseconds, hsmall]
    rcases hsign with ⟨rfl, heast⟩ | ⟨rfl, hwest⟩
    · simp [abs_of_nonneg heast]
    · simp [abs_of_nonpos hwest]
  | @named name _ hzero hname hcs =>
    have hlettered := isLettered_greenwich hname
    have hread : (cs ++ rest).takeWhile Char.isAlpha = cs := by
      rw [List.takeWhile_append_of_pos (hcs.isAlpha hlettered), hrest, List.append_nil]
    have hsome : cs.isEmpty = false := List.isEmpty_eq_false_iff.2 (hcs.ne_nil hlettered)
    have hhours : zoneHours? cs = some 0 := by
      simp only [List.mem_cons, List.not_mem_nil, or_false] at hname
      unfold zoneHours?
      rw [hcs]
      rcases hname with rfl | rfl | rfl <;> rfl
    simp only [zone, hread, hsome, hhours, List.drop_left, hzero]
    rfl

/-! ### The name of the day -/

/-- What is written for the name of a day of the week, or nothing if no name is written. -/
inductive WritesDay : Option (List Char) → Option Nat → Prop
  | none : WritesDay none none
  | some {cs : List Char} {i : Nat} (hi : i < 7) (hcs : Spells (dayName i) cs) :
      WritesDay (some cs) (some i)

/-- No name of a day is read where no letter stands. -/
theorem nameIn_of_stops (h : Stops Char.isAlpha cs) : nameIn dayNames cs = none := by
  cases hread : nameIn dayNames cs with
  | none => rfl
  | some read =>
    obtain ⟨hi, hcs, -⟩ := spells_of_nameIn hread
    have hlettered := isLettered_dayName hi
    cases cs with
    | nil => exact absurd rfl (hcs.ne_nil hlettered)
    | cons c tail =>
      have hc : c.isAlpha = true := hcs.isAlpha hlettered c List.mem_cons_self
      simp [Stops, hc] at h

namespace Spelling

theorem day_ne_nil (s : Spelling c offset) : s.day ≠ [] := by
  rcases s.day_eq with h | h <;> rw [h]
  · exact padded_ne_nil 2 _
  · exact Nat.toDigits_ne_nil

theorem day_isDigit (s : Spelling c offset) : ∀ d ∈ s.day, d.isDigit = true := by
  rcases s.day_eq with h | h <;> rw [h]
  · exact fun _ => isDigit_of_mem_padded
  · exact fun _ => isDigit_of_mem_toDigits

theorem startsVisibly_body (s : Spelling c offset) : StartsVisibly s.body :=
  (startsVisibly_of_forall s.day_ne_nil fun _ hd =>
    isBlank_of_isDigit (s.day_isDigit _ hd)).append _

theorem stops_body (s : Spelling c offset) : Stops Char.isAlpha s.body := by
  obtain ⟨d, tail, hday⟩ := List.exists_cons_of_ne_nil s.day_ne_nil
  rw [body, hday]
  exact stops_cons (isAlpha_of_isDigit (s.day_isDigit d (hday ▸ List.mem_cons_self))) _

/-- The name of the day is read, if one is written, and what stands behind it is left. -/
theorem dayNameField_core (s : Spelling c offset) {name : Option (List Char)} {day : Option Nat}
    (h : WritesDay name day) :
    ∃ rest, dayNameField (s.core name) = some (day, rest) ∧ trimStart rest = s.body := by
  cases h with
  | none =>
    refine ⟨s.body, ?_, trimStart_eq_self s.startsVisibly_body⟩
    rw [dayNameField, core, nameIn_of_stops s.stops_body]
  | @some cs i hi hcs =>
    refine ⟨_, ?_, s.behindComma.trimStart_append s.startsVisibly_body⟩
    rw [dayNameField, core, nameIn_append (by decide) (by decide) hi hcs]
    rfl

end Spelling

/-! ### The whole date -/

/-- The fields of a date that a clock shows, with a day of the week or without one. -/
def Fields.ofClockFace (c : ClockFace) (offset : Int) (day : Option Nat) : Fields where
  dayName := day
  date := c.date
  hour := c.hour
  minute := c.minute
  second := c.second
  offset := offset

namespace Spelling

theorem startsVisibly_core (s : Spelling c offset) {name : Option (List Char)} {day : Option Nat}
    (h : WritesDay name day) : StartsVisibly (s.core name) := by
  cases h with
  | none => exact s.startsVisibly_body
  | some hi hcs => exact (hcs.startsVisibly (isLettered_dayName hi)).append _

theorem number_day (s : Spelling c offset) (hday : 1 ≤ c.date.day ∧ c.date.day ≤ 31)
    (rest : List Char) : number 1 2 (s.day ++ (s.beforeMonth.chars ++ rest)) =
      some (c.date.day, s.beforeMonth.chars ++ rest) := by
  rcases s.day_eq with h | h <;> rw [h]
  · exact number_padded (by omega) (by omega) _
  · exact number_toDigits (by omega) (s.beforeMonth.stops (fun _ => isDigit_of_isBlank) _)

/-- From every spelling of a date all its fields are read. -/
theorem fields?_core (s : Spelling c offset) (hc : c.IsCommon) (hzone : IsZone offset)
    {name : Option (List Char)} {day : Option Nat} (h : WritesDay name day) :
    fields? (s.core name) = some (Fields.ofClockFace c offset day) := by
  obtain ⟨hday, hmonth⟩ := Date.bounds_of_isValid hc.date
  obtain ⟨rest, hname, hrest⟩ := s.dayNameField_core h
  have hmonthVisible : StartsVisibly s.month := s.month_spells.startsVisibly (isLettered_monthName hmonth)
  unfold fields?
  -- the name of the day and the day
  rw [trimStart_eq_self (s.startsVisibly_core h), hname, some_bind]
  dsimp only
  rw [hrest, body, s.number_day hday, some_bind]
  dsimp only
  -- the month and the year
  rw [blanks_append s.beforeMonth (hmonthVisible.append _), some_bind,
    month_append hmonth s.month_spells, some_bind]
  dsimp only
  rw [blanks_append s.beforeYear ((startsVisibly_padded _ _).append _), some_bind,
    year_append hc.year (s.beforeHour.stops (fun _ => isDigit_of_isBlank) _), some_bind]
  dsimp only
  -- the time
  rw [blanks_append s.beforeHour ((startsVisibly_padded _ _).append _), some_bind,
    number_padded (by omega) (Nat.lt_trans hc.hour (by omega)), some_bind]
  dsimp only
  rw [mark_append s.beforeColon (by decide), some_bind,
    s.behindColon.trimStart_append ((startsVisibly_padded _ _).append _),
    number_padded (by omega) (Nat.lt_trans hc.minute (by omega)), some_bind]
  dsimp only
  rw [mark_append s.beforeSecond (by decide)]
  dsimp only
  rw [number_padded (by omega) (Nat.lt_trans hc.second (by omega)), some_bind]
  dsimp only
  -- the zone, behind which nothing but comments is left
  rw [blanks_append s.beforeZone (s.zone_writes.startsVisibly.append _), some_bind,
    zone_append s.zone_writes hzone s.comments_nested.stops, some_bind]
  dsimp only
  rw [onlyComments_of_areComments s.comments_nested _ (Nat.le_refl _), Nat.sub_add_cancel hmonth.1]
  rfl

/-- The last character of a date, behind which only blanks stand, belongs to the zone or closes a
comment. -/
theorem startsVisibly_reverse_core (s : Spelling c offset) (name : Option (List Char)) :
    StartsVisibly (s.core name).reverse := by
  have hend : StartsVisibly (s.comments.reverse ++ s.zone.reverse) := by
    by_cases hnil : s.comments = []
    · rw [hnil]
      exact s.zone_writes.startsVisibly_reverse
    · exact (s.comments_nested.startsVisibly_reverse hnil).append _
  cases name
  all_goals
    simp only [core, body, List.reverse_append, List.reverse_cons, List.append_assoc]
    rw [← List.append_assoc]
    exact hend.append _

theorem read?_text (s : Spelling c offset) (name : Option (List Char))
    (h : StartsVisibly (s.core name)) :
    read? (s.text name) = (fields? (s.core name)).bind Fields.instant? := by
  rw [read?, text, String.toList_ofList, trim_append _ _ h (s.startsVisibly_reverse_core name)]
  rfl

end Spelling

/-- The fields of a date denote the second at which the clock shows it, unless they give the name of
another day. -/
theorem instant?_ofClockFace (hc : c.IsCommon) (hzone : IsZone offset)
    (hweekday : c.weekday = weekday c.date.toDayNumber) (day : Option Nat) :
    (Fields.ofClockFace c offset day).instant? =
      if day.all (· == c.weekday) then some ⟨c.seconds - offset, 0⟩ else none := by
  have hlocal : inRange ⟨c.seconds - 0, 0⟩ = true := hc.inRange (by omega) 0
  have hrange : inRange ⟨c.seconds - offset, 0⟩ = true := hc.inRange hzone.day 0
  have hleap : (c.second == 60) = false := beq_false_of_ne (Nat.ne_of_lt hc.second)
  rw [Int.sub_zero] at hlocal
  unfold ClockFace.seconds at hlocal hrange ⊢
  unfold Fields.instant? Fields.ofClockFace
  simp only [hc.date, hc.hour, hc.minute, Nat.le_of_lt hc.second, ← hweekday, hleap, hlocal, hrange,
    decide_true, Bool.and_self, Bool.false_eq_true, if_false]
  cases hday : day.all (· == c.weekday) <;> rfl

/-- What is read of a spelling: the second at which the clock shows it, unless another day is
named. -/
theorem Spelling.read?_eq (s : Spelling c offset) (hc : c.IsCommon) (hzone : IsZone offset)
    (hweekday : c.weekday = weekday c.date.toDayNumber) {name : Option (List Char)}
    {day : Option Nat} (hname : WritesDay name day) :
    read? (s.text name) =
      if day.all (· == c.weekday) then some ⟨c.seconds - offset, 0⟩ else none := by
  rw [s.read?_text name (s.startsVisibly_core hname), s.fields?_core hc hzone hname,
    Option.bind_some, instant?_ofClockFace hc hzone hweekday]

/-! ### Other words in the place of the name -/

/-- A word: a text without blanks, digits and commas. -/
def IsWord (cs : List Char) : Prop := ∀ c ∈ cs, isBlank c = false ∧ c.isDigit = false ∧ c ≠ ','

instance (cs : List Char) : Decidable (IsWord cs) :=
  List.decidableBAll (fun c : Char => isBlank c = false ∧ c.isDigit = false ∧ c ≠ ',') cs

theorem takeWhile_comma (h : ',' ∉ cs) (rest : List Char) :
    (cs ++ ',' :: rest).takeWhile (· != ',') = cs := by
  have hcs : ∀ c ∈ cs, (c != ',') = true := fun c hc => bne_iff_ne.2 fun heq => h (heq ▸ hc)
  rw [List.takeWhile_append_of_pos hcs, List.takeWhile_cons, if_neg (by simp), List.append_nil]

namespace Spelling

variable (s : Spelling c offset)

theorem startsVisibly_core_word (hword : IsWord name) : StartsVisibly (s.core (some name)) := by
  cases name with
  | nil => simp [core, StartsVisibly, isBlank]
  | cons c tail => exact (hword c List.mem_cons_self).1

/-- A word that is not the name of any day is read neither as one nor as the number of a day. -/
theorem fields?_word (hword : IsWord name) (hother : ∀ i < 7, ¬Spells (dayName i) name) :
    fields? (s.core (some name)) = none := by
  have hcore : s.core (some name) = name ++ ',' :: (s.behindComma.chars ++ s.body) := rfl
  have hdigit : Stops Char.isDigit (s.core (some name)) := by
    cases name with
    | nil => exact stops_cons (by decide) _
    | cons c tail => exact stops_cons (hword c List.mem_cons_self).2.1 _
  have hname : dayNameField (s.core (some name)) = none ∨
      dayNameField (s.core (some name)) = some (none, s.core (some name)) := by
    rw [dayNameField]
    cases hread : nameIn dayNames (s.core (some name)) with
    | none => exact .inr rfl
    | some read =>
      obtain ⟨i, rest⟩ := read
      obtain ⟨hi, hcs, rfl⟩ := spells_of_nameIn hread
      refine .inl ?_
      dsimp only
      cases hmark : mark ',' ((s.core (some name)).drop 3) with
      | none => rfl
      | some rest =>
        -- the comma behind the three letters is the one behind the word
        have hsplit : (s.core (some name)).take 3 ++ ',' :: rest = s.core (some name) := by
          rw [← eq_cons_of_mark hmark, List.take_append_drop]
        have hthree : ',' ∉ (s.core (some name)).take 3 := fun hc =>
          absurd (hcs.isAlpha (isLettered_dayName hi) ',' hc) (by decide)
        have hsame : (s.core (some name)).take 3 = name := by
          rw [← takeWhile_comma hthree rest, hsplit, hcore, takeWhile_comma fun hc => (hword _ hc).2.2 rfl]
        exact absurd (hsame ▸ hcs) (hother i hi)
  unfold fields?
  rw [trimStart_eq_self (s.startsVisibly_core_word hword)]
  rcases hname with hname | hname <;> rw [hname]
  · rfl
  · rw [some_bind]
    dsimp only
    rw [trimStart_eq_self (s.startsVisibly_core_word hword), number_of_stops (by omega) hdigit]
    rfl

end Spelling

/-! ### Dates that denote an instant -/

/-- What a clock shows at a second that is set `offset` seconds east of Greenwich. -/
abbrev faceAt (t offset : Int) : ClockFace := .ofInstant ⟨t, 0⟩ offset

/-- The zone is one, and the year is one of four digits there at the given second. -/
structure IsShown (t offset : Int) : Prop where
  zone : IsZone offset
  year : 0 ≤ (faceAt t offset).date.year ∧ (faceAt t offset).date.year ≤ 9999

/-- The text is a spelling of what a clock shows somewhere at the given second, with the right name
of the day there or without a name. -/
inductive IsDateOf (t : Int) : String → Prop
  | spelled {offset : Int} (hshown : IsShown t offset) (s : Spelling (faceAt t offset) offset)
      {name : Option (List Char)}
      (hname : ∀ cs ∈ name, Spells (dayName (faceAt t offset).weekday) cs) : IsDateOf t (s.text name)

/-- The same with another word in the place of the name of the day. -/
inductive IsMisnamedDateOf (t : Int) : String → Prop
  | spelled {offset : Int} (hshown : IsShown t offset) (s : Spelling (faceAt t offset) offset)
      {name : List Char} (hword : IsWord name)
      (hname : ¬Spells (dayName (faceAt t offset).weekday) name) :
      IsMisnamedDateOf t (s.text (some name))

variable {t : Int} {value : String}

theorem IsShown.isCommon (h : IsShown t offset) : (faceAt t offset).IsCommon :=
  ClockFace.isCommon_ofInstant (by simp) h.year

theorem IsShown.read?_text (h : IsShown t offset) (s : Spelling (faceAt t offset) offset)
    {name : Option (List Char)} {day : Option Nat} (hname : WritesDay name day) :
    read? (s.text name) =
      if day.all (· == (faceAt t offset).weekday) then some ⟨t, 0⟩ else none := by
  rw [s.read?_eq h.isCommon h.zone (ClockFace.weekday_ofInstant _ _) hname,
    ClockFace.seconds_ofInstant (by simp), Int.add_sub_cancel]

theorem IsDateOf.read? (h : IsDateOf t value) : read? value = some ⟨t, 0⟩ := by
  obtain @⟨offset, hshown, s, name, hname⟩ := h
  cases name with
  | none => rw [hshown.read?_text s .none]; rfl
  | some cs =>
    rw [hshown.read?_text s (.some hshown.isCommon.weekday (hname cs rfl))]
    simp

/-- The names of the days differ. -/
theorem IsMisnamedDateOf.read? (h : IsMisnamedDateOf t value) : read? value = none := by
  obtain @⟨offset, hshown, s, name, hword, hname⟩ := h
  by_cases hother : ∀ i < 7, ¬Spells (dayName i) name
  · rw [s.read?_text _ (s.startsVisibly_core_word hword), s.fields?_word hword hother]
    rfl
  · obtain ⟨i, hi, hcs⟩ : ∃ i, i < 7 ∧ Spells (dayName i) name := by simpa using hother
    have hwrong : i ≠ (faceAt t offset).weekday := fun heq => hname (heq ▸ hcs)
    rw [hshown.read?_text s (.some hi hcs)]
    simp [hwrong]

end Calendar.HttpDate

namespace Site

open Calendar HttpDate

variable {value : String} {t modified : Instant}

/-- A date that is read decides by its seconds. -/
theorem isCurrent?_of_read (h : read? value = some t) (modified : Instant) :
    isCurrent? (some value) modified =
      if inRange modified then some (decide (modified.seconds ≤ t.seconds)) else none := by
  rw [isCurrent?, isCurrent, Option.bind_some, h]
  cases inRange modified <;> rfl

/-- What is not read as a date confirms nothing. -/
theorem isCurrent?_of_not_read (h : read? value = none) (modified : Instant) :
    isCurrent? (some value) modified = some false := by
  rw [isCurrent?, isCurrent, Option.bind_some, h]
  rfl

/-- Dates denote instants: however the time of a second is written, the second is read. So all the
ways to write it decide alike whether a file is newer, a later date confirms every file that an
earlier one confirms, and a date with a wrong name of the day is not read and confirms none. -/
theorem dates_denote_instants :
    (∀ {t value}, IsDateOf t value → read? value = some ⟨t, 0⟩) ∧
    (∀ {t value value'}, IsDateOf t value → IsDateOf t value' →
      ∀ modified, isCurrent? (some value) modified = isCurrent? (some value') modified) ∧
    (∀ {earlier later : String} {t t' : Instant}, read? earlier = some t → read? later = some t' →
      t.seconds ≤ t'.seconds → ∀ modified, isCurrent? (some earlier) modified = some true →
        isCurrent? (some later) modified = some true) ∧
    (∀ {t value}, IsMisnamedDateOf t value → read? value = none ∧
      ∀ modified, isCurrent? (some value) modified = some false) := by
  refine ⟨IsDateOf.read?, fun h h' modified => ?_, fun h h' hle modified hcurrent => ?_, fun h => ?_⟩
  · rw [isCurrent?_of_read h.read?, isCurrent?_of_read h'.read?]
  · rw [isCurrent?_of_read h] at hcurrent
    rw [isCurrent?_of_read h']
    by_cases hrange : inRange modified = true
    · rw [if_pos hrange] at hcurrent ⊢
      have hdate := of_decide_eq_true (Option.some.inj hcurrent)
      exact congrArg some (decide_eq_true (Int.le_trans hdate hle))
    · rw [if_neg hrange] at hcurrent
      cases hcurrent
  · exact ⟨h.read?, isCurrent?_of_not_read h.read?⟩

/-- What a clock fifteen and a half hours east of Greenwich shows at a second, with blanks and
comments. -/
def sampleSpelling : Spelling (faceAt 784111777 55800) 55800 where
  front := Gap.space.toBlanks
  behindComma := ⟨['\t'], by simp [isBlank]⟩
  day := ['7']
  beforeMonth := Gap.space
  month := "nOV".toList
  beforeYear := ⟨⟨[' ', '\u2003'], by simp [isBlank]⟩, by simp⟩
  beforeHour := Gap.space
  beforeColon := .none
  behindColon := Gap.space.toBlanks
  beforeSecond := Gap.space.toBlanks
  beforeZone := Gap.space
  zone := "+1530".toList
  comments := ['(', 'a', '(', '\\', ')', ')', ')', ' ', '(', ')']
  back := Gap.space.toBlanks
  day_eq := by decide +kernel
  month_spells := by decide +kernel
  zone_writes := by
    have htext : "+1530".toList = '+' :: (padded 2 (Int.natAbs 55800 / 3600) ++
        padded 2 (Int.natAbs 55800 / 60 % 60)) := by decide +kernel
    exact htext ▸ .numeric (.inl ⟨rfl, by decide⟩)
  comments_nested := by
    have hdeep : IsNested ['\\', ')'] := .escaped ')' .nil
    have hinner : IsNested ('a' :: '(' :: (['\\', ')'] ++ ')' :: [])) :=
      .plain (by decide) (.comment hdeep .nil)
    exact .cons .none hinner (.cons Gap.space.toBlanks .nil .nil)

/-- The second in Greenwich, written briefly and without the name of the day. -/
def briefSpelling : Spelling (faceAt 784111777 0) 0 where
  front := .none
  behindComma := .none
  day := ['0', '6']
  beforeMonth := Gap.space
  month := "Nov".toList
  beforeYear := Gap.space
  beforeHour := Gap.space
  beforeColon := .none
  behindColon := .none
  beforeSecond := .none
  beforeZone := Gap.space
  zone := ['z']
  comments := []
  back := .none
  day_eq := by decide +kernel
  month_spells := by decide +kernel
  zone_writes := .named rfl (show "Z" ∈ _ by decide) (by decide +kernel)
  comments_nested := .nil

/-- A second is spelled with the name of the next day far in the east, and without a name in
Greenwich; with the name of the day in Greenwich the date from the east is refused. A file of the
last fraction of that second is current by both dates that are read. -/
theorem dates_denote_instants_sample :
    let east := " mON,\t7 nOV \u20031994 00: 19 :37 +1530(a(\\))) () "
    let brief := "06 Nov 1994 08:49:37 z"
    let misnamed := " Sun,\t7 nOV \u20031994 00: 19 :37 +1530(a(\\))) () "
    IsDateOf 784111777 east ∧ IsDateOf 784111777 brief ∧ IsMisnamedDateOf 784111777 misnamed ∧
      read? east = some ⟨784111777, 0⟩ ∧ read? brief = some ⟨784111777, 0⟩ ∧
      isCurrent? (some east) ⟨784111777, 999999999⟩ = some true ∧
      isCurrent? (some brief) ⟨784111777, 999999999⟩ = some true ∧
      read? misnamed = none ∧ isCurrent? (some misnamed) ⟨0, 0⟩ = some false := by
  intro east brief misnamed
  obtain ⟨hread, hagree, hmonotone, hmisnamed⟩ := dates_denote_instants
  have hshown : IsShown 784111777 55800 := ⟨⟨by decide, by decide⟩, by decide +kernel⟩
  have heast : IsDateOf 784111777 east := by
    have htext : sampleSpelling.text (some "mON".toList) = east := by decide +kernel
    exact htext ▸ .spelled hshown sampleSpelling (by decide +kernel)
  have hbrief : IsDateOf 784111777 brief := by
    have htext : briefSpelling.text none = brief := by decide +kernel
    exact htext ▸ .spelled ⟨⟨by decide, by decide⟩, by decide +kernel⟩ briefSpelling (by simp)
  have hwrong : IsMisnamedDateOf 784111777 misnamed := by
    have htext : sampleSpelling.text (some "Sun".toList) = misnamed := by decide +kernel
    exact htext ▸ .spelled hshown sampleSpelling (by decide +kernel) (by decide +kernel)
  have hcurrent : isCurrent? (some brief) ⟨784111777, 999999999⟩ = some true := by decide +kernel
  refine ⟨heast, hbrief, hwrong, hread heast, hread hbrief, ?_, hcurrent, (hmisnamed hwrong).1,
    (hmisnamed hwrong).2 _⟩
  rw [hagree heast hbrief, hcurrent]

end Site

end FileServer
