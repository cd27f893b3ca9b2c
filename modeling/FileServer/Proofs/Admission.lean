import FileServer.Wire.Admission

/-!
The count of a hall is exact. While a connection stands at the entrance the others can only leave,
so it is judged by the number that was served when it came. What it leaves behind when it is sent
away is the hall that there would be if it had never come.

    arrived ──▶ judged ──▶ settled        others leave at any time in between
-/

namespace FileServer

/-- A connection stands at the entrance that came when `before` others were counted, and that may
have been judged. -/
inductive Entrance.Holds (limit : Option Nat) (before : Int) : Entrance → Prop
  | taken : Holds limit before (.taken before)
  | judged {verdict : Verdict} (h : verdict = .of limit before) :
    Holds limit before (.judged verdict)

namespace Hall

variable {limit : Option Nat} {events newer older between past : List Event} {h g next : Hall}
  {verdict : Verdict} {before : Int}

/-- How many connections are served after some events: those that were let in and have not left. -/
def served (events : List Event) : Int :=
  (events.count (.settled .admitted) : Int) - events.count .left

/-- The connections that are counted without being served: the one at the entrance. -/
def waiting (h : Hall) : Nat := if h.entrance = .empty then 0 else 1

/-- The events of others while a connection stands at the entrance. -/
def departures (between : List Event) : List Event := between.filter (· = .left)

/-- What has happened since a connection came that stands at the entrance. The hall `without` is the
one that there would be if it had not come. -/
structure Stay (limit : Option Nat) (between past : List Event) (without : Hall) : Prop where
  passing : ∀ e ∈ between, e = .left ∨ e = .judged
  run : Run limit (departures between ++ past) without

/-- The hall is as it has to be after some events. A connection at the entrance has been judged, if
at all, by the number of those that were served when it came, and sending it away undoes its
coming. -/
structure Sound (limit : Option Nat) (events : List Event) (h : Hall) : Prop where
  count : h.count = h.live + h.waiting
  live : (h.live : Int) = served events
  bounded : ∀ n, limit = some n → h.live ≤ n
  guest : h.entrance ≠ .empty → ∃ between past, events = between ++ .arrived :: past ∧
    Stay limit between past h.refuse ∧ h.entrance.Holds limit (served past)

/-! ### Counting what has happened -/

theorem served_append (newer older : List Event) :
    served (newer ++ older) = served newer + served older := by
  simp only [served, List.count_append]
  omega

theorem served_left (past : List Event) : served (.left :: past) = served past - 1 := by
  simp only [served, List.count_cons]
  simp
  omega

theorem served_admitted (past : List Event) :
    served (.settled .admitted :: past) = served past + 1 := by
  simp only [served, List.count_cons]
  simp
  omega

theorem served_refused (past : List Event) (hv : verdict ≠ .admitted) :
    served (.settled verdict :: past) = served past := by
  simp [served, hv]

/-- During a stay nobody is let in. -/
theorem Stay.served_le (hstay : Stay limit between past g) : served between ≤ 0 := by
  have hnone : between.count (.settled .admitted) = 0 := List.count_eq_zero.2 fun hmem => by
    rcases hstay.passing _ hmem with heq | heq <;> cases heq
  rw [served, hnone]
  omega

/-- A stay goes on while another connection leaves. -/
theorem Stay.left (hstay : Stay limit between past g) (occupied : 0 < g.live) :
    Stay limit (.left :: between) past g.leave :=
  ⟨List.forall_mem_cons.2 ⟨.inl rfl, hstay.passing⟩, .step hstay.run (.leave occupied)⟩

/-- A stay goes on when the connection is judged. -/
theorem Stay.judged (hstay : Stay limit between past g) :
    Stay limit (.judged :: between) past g :=
  ⟨List.forall_mem_cons.2 ⟨.inr rfl, hstay.passing⟩, hstay.run⟩

/-- A connection is refused exactly if there is a limit that had been reached before it. -/
theorem of_ne_admitted_iff : Verdict.of limit before ≠ .admitted ↔
    ∃ n : Nat, limit = some n ∧ (n : Int) ≤ before := by
  cases limit with
  | none => simp [Verdict.of]
  | some n => by_cases hn : (n : Int) ≤ before <;> simp [Verdict.of, hn]

/-! ### One step -/

theorem Sound.start : Sound limit [] {} :=
  ⟨rfl, rfl, fun _ _ => Nat.zero_le _, fun hguest => absurd rfl hguest⟩

theorem Sound.arrive (hs : Sound limit events h) (run : Run limit events h)
    (free : h.entrance = .empty) : Sound limit (.arrived :: events) h.arrive := by
  have hcount : h.count = h.live := by simpa [waiting, free] using hs.count
  have hrefuse : h.arrive.refuse = h := by
    cases h
    simp_all [Hall.arrive, Hall.refuse]
  refine ⟨?_, hs.live, hs.bounded, fun _ => ⟨[], events, rfl, ⟨by simp, ?_⟩, ?_⟩⟩
  · simp [Hall.arrive, waiting, hcount]
  · rw [hrefuse]
    exact run
  · rw [← hs.live, ← hcount]
    exact .taken

theorem Sound.judge (hs : Sound limit events h) (taken : h.entrance = .taken before) :
    Sound limit (.judged :: events) (h.judge limit) := by
  have hjudge : h.judge limit = { h with entrance := .judged (.of limit before) } := by
    rw [Hall.judge, taken]
  have hcount : h.count = h.live + 1 := by simpa [waiting, taken] using hs.count
  obtain ⟨between, past, rfl, hstay, hholds⟩ := hs.guest (by simp [taken])
  rw [taken] at hholds
  cases hholds with
  | taken =>
    rw [hjudge]
    refine ⟨?_, hs.live, hs.bounded,
      fun _ => ⟨.judged :: between, past, rfl, hstay.judged, .judged rfl⟩⟩
    simp [waiting, hcount]

theorem Sound.leave (hs : Sound limit events h) (occupied : 0 < h.live) :
    Sound limit (.left :: events) h.leave := by
  have hlive : (h.leave.live : Int) = h.live - 1 := by
    simp only [Hall.leave]
    omega
  refine ⟨?_, ?_, fun n hn => ?_, fun hguest => ?_⟩
  · show h.count - 1 = h.leave.live + h.waiting
    rw [hlive, hs.count]
    omega
  · rw [hlive, served_left, hs.live]
  · exact Nat.le_trans (Nat.sub_le _ _) (hs.bounded n hn)
  · obtain ⟨between, past, rfl, hstay, hholds⟩ := hs.guest hguest
    exact ⟨.left :: between, past, rfl, hstay.left occupied, hholds⟩

/-- What is done with the connection at the entrance is what it was judged to. -/
theorem settle_cases (settled : h.settle = (some verdict, next)) :
    h.entrance = .judged verdict ∧
      (verdict = .admitted ∧ next = h.letIn ∨ verdict ≠ .admitted ∧ next = h.refuse) := by
  unfold Hall.settle at settled
  split at settled
  case h_1 hjudged =>
    cases settled
    exact ⟨hjudged, .inl ⟨rfl, rfl⟩⟩
  case h_2 hne hjudged =>
    cases settled
    exact ⟨hjudged, .inr ⟨hne, rfl⟩⟩
  case h_3 => cases settled

/-- A connection that has been judged came after some of the events, and was judged by the number of
those that were served then. -/
theorem Sound.stay (hs : Sound limit events h) (hjudged : h.entrance = .judged verdict) :
    ∃ between past, events = between ++ .arrived :: past ∧ Stay limit between past h.refuse ∧
      verdict = .of limit (served past) := by
  obtain ⟨between, past, hsplit, hstay, hholds⟩ := hs.guest (by simp [hjudged])
  rw [hjudged] at hholds
  cases hholds with
  | judged hverdict => exact ⟨between, past, hsplit, hstay, hverdict⟩

/-- There is room for a connection that is let in: there was when it came, and only departures have
followed. -/
theorem Sound.room (hs : Sound limit events h) (hjudged : h.entrance = .judged .admitted) {n : Nat}
    (hn : limit = some n) : h.live < n := by
  obtain ⟨between, past, rfl, hstay, hverdict⟩ := hs.stay hjudged
  have hfew : ¬(n : Int) ≤ served past := fun hle =>
    of_ne_admitted_iff.2 ⟨n, hn, hle⟩ hverdict.symm
  have hlive : (h.live : Int) = served between + served past := by
    rw [hs.live, served_append]
    rfl
  have hbetween := hstay.served_le
  omega

theorem Sound.settle (hs : Sound limit events h) (settled : h.settle = (some verdict, next)) :
    Sound limit (.settled verdict :: events) next := by
  obtain ⟨hjudged, hnext⟩ := settle_cases settled
  have hcount : h.count = h.live + 1 := by simpa [waiting, hjudged] using hs.count
  rcases hnext with ⟨rfl, rfl⟩ | ⟨hv, rfl⟩
  · refine ⟨?_, ?_, fun n hn => hs.room hjudged hn, fun hguest => absurd rfl hguest⟩
    · simp [Hall.letIn, waiting, hcount]
    · rw [served_admitted, ← hs.live]
      rfl
  · refine ⟨?_, ?_, hs.bounded, fun hguest => absurd rfl hguest⟩
    · simp [Hall.refuse, waiting, hcount]
    · rw [served_refused _ hv]
      exact hs.live

/-! ### Runs -/

theorem Run.sound (run : Run limit events h) : Sound limit events h := by
  induction run with
  | start => exact .start
  | step run last ih =>
    cases last with
    | arrive free => exact ih.arrive run free
    | judge taken => exact ih.judge taken
    | settle settled => exact ih.settle settled
    | leave occupied => exact ih.leave occupied

/-- A run can be cut behind any of its events, and what has happened before the cut exchanged for
something else that leads to the same hall. -/
theorem Run.cut (run : Run limit (newer ++ older) h) :
    ∃ g, Run limit older g ∧ ∀ {other}, Run limit other g → Run limit (newer ++ other) h := by
  induction newer generalizing h with
  | nil => exact ⟨h, run, fun hother => hother⟩
  | cons e newer ih =>
    cases run with
    | step run last =>
      obtain ⟨g, hg, hexchange⟩ := ih run
      exact ⟨g, hg, fun hother => .step (hexchange hother) last⟩

/-- A connection that has been dealt with came at some time, when it was decided what was to become
of it; one that was refused might as well not have come. -/
theorem Run.settled (run : Run limit (.settled verdict :: older) h) :
    ∃ between past, older = between ++ .arrived :: past ∧ (∀ e ∈ between, e = .left ∨ e = .judged) ∧
      verdict = .of limit (served past) ∧
      (verdict ≠ .admitted → Run limit (departures between ++ past) h) := by
  cases run with
  | step run last =>
    cases last with
    | settle settled =>
      obtain ⟨hjudged, hnext⟩ := settle_cases settled
      obtain ⟨between, past, hsplit, hstay, hverdict⟩ := run.sound.stay hjudged
      refine ⟨between, past, hsplit, hstay.passing, hverdict, fun hv => ?_⟩
      rcases hnext with ⟨hadmitted, -⟩ | ⟨-, rfl⟩
      · exact absurd hadmitted hv
      · exact hstay.run

/-- The entrance keeps the limit, whatever the order in which connections come and leave. The count
is that of the connections served, and one more while a connection stands at the entrance; those
served are the ones let in that have not left, and never more than the limit allows. A connection is
refused exactly if as many as allowed were served when it came, and then the hall is as if it had
never come. -/
theorem run_governed (run : Run limit events h) :
    h.count = h.live + (if h.entrance = .empty then 0 else 1) ∧
      (h.live : Int) = served events ∧
      (∀ n, limit = some n → h.live ≤ n) ∧
      ∀ newer verdict older, events = newer ++ .settled verdict :: older →
        ∃ between past before, older = between ++ .arrived :: past ∧
          (∀ e ∈ between, e = .left ∨ e = .judged) ∧ Run limit past before ∧
          (verdict ≠ .admitted ↔ ∃ n, limit = some n ∧ n ≤ before.live) ∧
          (verdict ≠ .admitted → Run limit (newer ++ (departures between ++ past)) h) := by
  refine ⟨?_, run.sound.live, run.sound.bounded, ?_⟩
  · have hcount := run.sound.count
    unfold waiting at hcount
    split at hcount
    case isTrue hempty => rw [if_pos hempty]; exact hcount
    case isFalse hguest => rw [if_neg hguest]; exact hcount
  · rintro newer verdict older rfl
    obtain ⟨g, hg, hexchange⟩ := run.cut
    obtain ⟨between, past, rfl, hpassing, hverdict, hsame⟩ := hg.settled
    rw [← List.cons_append, List.append_cons] at hg
    obtain ⟨before, hbefore, -⟩ := hg.cut
    refine ⟨between, past, before, rfl, hpassing, hbefore, ?_, fun hv => hexchange (hsame hv)⟩
    rw [hverdict, ← hbefore.sound.live, of_ne_admitted_iff]
    simp only [Int.ofNat_le]

/-- With room for one, a connection is refused that came while another was served, although that one
left before the verdict. Without it the hall would have come to be empty in the same way. -/
theorem run_governed_refusal :
    let first : List Event := [.settled .admitted, .judged, .arrived]
    let events : List Event := .settled (.refused 1 1) :: .judged :: .left :: .arrived :: first
    Run (some 1) events {} ∧ ∃ between past before,
      events = .settled (.refused 1 1) :: between ++ .arrived :: past ∧ Run (some 1) past before ∧
        1 ≤ before.live ∧ Run (some 1) (departures between ++ past) {} := by
  intro first events
  have one : Run (some 1) first { count := 1, live := 1 } :=
    .step (.step (.step .start (.arrive rfl)) (.judge rfl)) (.settle rfl)
  have run : Run (some 1) events {} :=
    .step (.step (.step (.step one (.arrive rfl)) (.leave (by decide))) (.judge rfl)) (.settle rfl)
  obtain ⟨-, -, -, hverdicts⟩ := run_governed run
  obtain ⟨between, past, before, hsplit, -, hbefore, hrefused, hsame⟩ := hverdicts [] _ _ rfl
  obtain ⟨n, hn, hle⟩ := hrefused.1 (by decide)
  cases hn
  exact ⟨run, between, past, before, congrArg (.settled (.refused 1 1) :: ·) hsplit, hbefore, hle,
    hsame (by decide)⟩

end Hall

end FileServer
