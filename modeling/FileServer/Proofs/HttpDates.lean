import FileServer.Proofs.Spellings

/-!
Dates in headers are read back. The fixed form in which they are written is one of the spellings that
are read: one space between the parts, two digits for the day, and the zone by its name.

    Sun, 06 Nov 1994 08:49:37 GMT
    ───  ── ─── ──── ──────── ───
-/

namespace FileServer.Calendar

open Text

variable {t : Instant} {c : ClockFace}

/-- Years of four digits have dates. -/
theorem IsCommon.inRange (h : IsCommon t) : inRange t = true := by
  have hrange : Calendar.inRange ⟨(ClockFace.ofInstant t).seconds - 0, t.nanos⟩ = true :=
    (ClockFace.isCommon_ofInstant h.nanos h.year).inRange (by omega) t.nanos
  rwa [ClockFace.seconds_ofInstant h.nanos, Int.add_zero, Int.sub_zero] at hrange

namespace HttpDate

/-- The date that a clock face shows in the fixed form. -/
def text (c : ClockFace) : List Char :=
  (dayName c.weekday).toList ++ ',' :: ' ' :: (padded 2 c.date.day ++ ' ' ::
    ((monthName c.date.month).toList ++ ' ' :: (yearText c.date.year ++ ' ' ::
      (padded 2 c.hour ++ ':' :: (padded 2 c.minute ++ ':' ::
        (padded 2 c.second ++ ' ' :: "GMT".toList))))))

theorem write?_eq_text (h : inRange t) :
    write? t = some (String.ofList (text (ClockFace.ofInstant t))) := by
  rw [write?, if_pos h]
  simp only [text, ClockFace.timeText, List.append_assoc, List.cons_append]
  rfl

/-- The parts of the fixed form. -/
def Spelling.fixed (c : ClockFace) : Spelling c 0 where
  front := .none
  behindComma := Gap.space.toBlanks
  day := padded 2 c.date.day
  beforeMonth := .space
  month := (monthName c.date.month).toList
  beforeYear := .space
  beforeHour := .space
  beforeColon := .none
  behindColon := .none
  beforeSecond := .none
  beforeZone := .space
  zone := "GMT".toList
  comments := []
  back := .none
  day_eq := .inl rfl
  month_spells := rfl
  zone_writes := .named rfl List.mem_cons_self rfl
  comments_nested := .nil

/-- In a year of four digits the fixed form is one of the spellings. -/
theorem text_eq_fixed (h : c.IsCommon) :
    String.ofList (text c) = (Spelling.fixed c).text (some (dayName c.weekday).toList) := by
  rw [text, yearText, if_pos h.year, Spelling.text]
  exact congrArg String.ofList (List.append_nil _).symm

theorem length_text (h : c.IsCommon) : (text c).length = 29 := by
  obtain ⟨hday, hmonth⟩ := Date.bounds_of_isValid h.date
  have hyear : (yearText c.date.year).length = 4 := by
    have hyear := h.year
    rw [yearText, if_pos hyear, length_padded_four (by omega)]
  simp only [text, List.length_append, List.length_cons, length_dayName h.weekday,
    length_monthName hmonth, hyear, length_padded_two (show c.date.day < 100 by omega),
    length_padded_two (Nat.lt_trans h.hour (by omega)),
    length_padded_two (Nat.lt_trans h.minute (by omega)),
    length_padded_two (Nat.lt_trans h.second (by omega))]
  rfl

/-- What the date of an instant tells those who read it: the whole second. -/
structure Tells (date : String) (t : Instant) : Prop where
  written : write? t = some date
  length : (Utf8.ofString date).length = 29
  read : read? date = some ⟨t.seconds, 0⟩

/-- Instants in years of four digits have dates that are read back. -/
theorem exists_tells (h : IsCommon t) : ∃ date, Tells date t := by
  have hcommon := ClockFace.isCommon_ofInstant h.nanos h.year
  have hwritten := write?_eq_text h.inRange
  have hzone : IsZone 0 := ⟨rfl, by omega⟩
  have hname : WritesDay (some (dayName (ClockFace.ofInstant t).weekday).toList)
      (some (ClockFace.ofInstant t).weekday) := .some hcommon.weekday rfl
  refine ⟨_, hwritten, ?_, ?_⟩
  · rw [Utf8.ofString, length_encode (allPrintable_date hwritten), String.toList_ofList,
      length_text hcommon]
  · rw [text_eq_fixed hcommon, Spelling.read?_eq _ hcommon hzone (ClockFace.weekday_ofInstant _ _)
        hname, ClockFace.seconds_ofInstant h.nanos]
    simp

/-- Before 1970 the fraction of a second is dropped downwards too. -/
example : write? ⟨-1, 500000000⟩ = some "Wed, 31 Dec 1969 23:59:59 GMT" := by decide +kernel

end HttpDate

end FileServer.Calendar
