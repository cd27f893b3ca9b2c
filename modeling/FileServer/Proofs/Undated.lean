import FileServer.Proofs.Containment
import FileServer.Proofs.Framing
import FileServer.Wire.Connection

/-!
Which requests are answered. A request is given up only over a file that was changed in a year
without dates, since the date of a file goes into every answer about it. Where all files have dates,
every request has its answer, and every connection can be carried on to its end.
-/

namespace FileServer

open Calendar

/-- Every file was changed in a year that has dates. -/
def Disk.IsDated (d : Disk) : Prop := d.EveryFile fun _ modified => inRange modified = true

namespace Site

variable {s : Site} {d : Disk} {q : Request} {v : Visit} {o : Outcome} {u : Undatable}

/-- The request is to be answered with a file in the root that can be read and was changed at a time
without a date. -/
def FindsUndated (s : Site) (d : Disk) (q : Request) (modified : Instant) : Prop :=
  (q.method = "GET" ∨ q.method = "HEAD") ∧ inRange modified = false ∧
    ∃ path content, s.Yields d q.target.path (.file path content modified)

/-- Of all outcomes only a file without a date has no answer. -/
theorem answer_eq_error_iff : o.answer s v = .error u ↔
    inRange u.modified = false ∧ ∃ path content, o = .file path content u.modified := by
  cases o with
  | file path content modified =>
    rw [answer_file, HttpDate.write?]
    by_cases hrange : inRange modified = true
    · rw [if_pos hrange]
      refine iff_of_false (fun h => by cases h) ?_
      rintro ⟨hout, path', content', heq⟩
      cases heq
      exact absurd (hrange.symm.trans hout) (by decide)
    · rw [if_neg hrange]
      constructor
      · intro h
        cases h
        exact ⟨by simpa using hrange, path, content, rfl⟩
      · rintro ⟨-, path', content', heq⟩
        cases heq
        rfl
  | _ =>
    refine iff_of_false (fun h => by cases h) ?_
    rintro ⟨-, path, content, heq⟩
    cases heq

theorem serve_eq_error_iff : s.serve d v = .error u ↔ inRange u.modified = false ∧
    ∃ path content, s.Yields d v.path (.file path content u.modified) := by
  constructor
  · intro h
    obtain ⟨o, ho, hanswer⟩ := serve_answered s d v.path
    obtain ⟨hrange, path, content, rfl⟩ := answer_eq_error_iff.1 ((hanswer v rfl).symm.trans h)
    exact ⟨hrange, path, content, ho⟩
  · rintro ⟨hrange, path, content, hfile⟩
    rw [serve_of_file hfile]
    exact answer_eq_error_iff.2 ⟨hrange, path, content, rfl⟩

theorem dispatch_eq_error_iff : s.dispatch d q = .error u ↔ s.FindsUndated d q u.modified := by
  rcases dispatch_cases s d q with ⟨hmethod, heq⟩ | ⟨hmethod, heq⟩ | ⟨hmethod, heq⟩
  · rw [heq, serve_eq_error_iff]
    exact (and_iff_right hmethod).symm
  · rw [heq]
    refine iff_of_false (fun h => by cases h) fun h => ?_
    rcases h.1 with hget | hhead
    · exact absurd (hget.symm.trans hmethod) (by decide)
    · exact absurd (hhead.symm.trans hmethod) (by decide)
  · rw [heq]
    refine iff_of_false (fun h => by cases h) fun h => hmethod ?_
    rcases h.1 with hget | hhead
    · simp [hget]
    · simp [hhead]

theorem handle_eq_error_iff : s.handle d q = .error u ↔ s.FindsUndated d q u.modified := by
  rw [← dispatch_eq_error_iff, handle]
  cases s.dispatch d q with
  | ok a => exact iff_of_false (fun h => by cases h) (fun h => by cases h)
  | error u' => exact Iff.rfl

/-- Where all files have dates no request is given up. -/
theorem exists_handle (hd : d.IsDated) (q : Request) : ∃ a, s.handle d q = .ok a := by
  cases hanswer : s.handle d q with
  | ok a => exact ⟨a, rfl⟩
  | error u =>
    obtain ⟨-, hrange, path, content, hfile⟩ := handle_eq_error_iff.1 hanswer
    cases hfile with
    | file hchosen hr =>
      exact absurd ((hchosen.everyFile hd hr).symm.trans hrange) (by decide)

end Site

namespace Wire.Connection

variable {settings : Settings} {s : Site} {d : Disk} {m : Moment}

/-- An answer to a request is a turn of the connection. -/
theorem exists_answer (hd : d.IsDated) (c : Connection) (q : Request) (f : Framing)
    (rest : Bytes) : ∃ turn next, c.answer settings s d q f rest m = .ok (turn, next) := by
  obtain ⟨a, ha⟩ := Site.exists_handle (s := s) hd q
  rw [answer, ha]
  exact ⟨_, _, rfl⟩

/-- Where all files have dates a connection takes its turns until nothing is left to answer. -/
theorem exists_turns (hd : d.IsDated) (fuel : Nat) (c : Connection) :
    ∃ taken next, turns settings s d m fuel c = .ok (taken, next) := by
  induction fuel generalizing c with
  | zero => exact ⟨_, _, rfl⟩
  | succ fuel ih =>
    rw [turns]
    split
    · exact ⟨_, _, rfl⟩
    · split
      case h_1 => exact ⟨_, _, rfl⟩
      case h_2 => exact ⟨_, _, rfl⟩
      case h_3 q f rest _ =>
        obtain ⟨turn, c', hanswer⟩ : ∃ turn next, c.answer settings s d q f rest m =
            .ok (turn, next) := exists_answer hd c q f rest
        obtain ⟨more, last, hmore⟩ := ih c'
        rw [hanswer, ok_bind]
        dsimp only
        rw [hmore]
        exact ⟨_, _, rfl⟩

end Wire.Connection

namespace Site

/-- When a request is answered: it is given up exactly if it is to be answered with a file that has
no date, whatever else is on disk. Where all files have dates every connection can be carried on,
request by request, for as long as there is something to answer. -/
theorem handle_answered (s : Site) (d : Disk) :
    (∀ q u, s.handle d q = .error u ↔ s.FindsUndated d q u.modified) ∧
      (d.IsDated → ∀ settings m fuel c, ∃ taken next,
        Wire.Connection.turns settings s d m fuel c = .ok (taken, next)) :=
  ⟨fun _ _ => handle_eq_error_iff, fun hd _ _ fuel c => Wire.Connection.exists_turns hd fuel c⟩

/-- The small directory with one more page, changed in the first second that has no date. -/
def lateDisk : Disk :=
  sampleDisk.put (placeOf ["srv", "www", "late"])
    (.file (Utf8.ofString "<p>hi</p>") ⟨lastSecond + 1, 0⟩ {})

/-- The late page is not answered with, and the connection on which it is asked for takes no
turn. -/
theorem latePage_givenUp :
    let q : Request := { method := "GET", target := { path := "/late" } }
    sampleSite.handle lateDisk q = .error ⟨8210266876800, 0⟩ ∧
      Wire.Connection.answer { peer := "[::1]:9" } {} sampleSite lateDisk q { staysOpen := true } []
        {} = .error ⟨8210266876800, 0⟩ :=
  ⟨rfl, rfl⟩

/-- A connection to the small site takes its turn for the page, and the late page is a file without
a date. -/
theorem samplePage_turns :
    let request := Utf8.ofString "GET / HTTP/1.1\r\nhost: [::1]\r\n\r\n"
    sampleDisk.IsDated ∧
      (∃ taken next, Wire.Connection.turns {} sampleSite sampleDisk {} 1
        { peer := "[::1]:9", unread := request } = .ok (taken, next)) ∧
      sampleSite.FindsUndated lateDisk { method := "GET", target := { path := "/late" } }
        ⟨8210266876800, 0⟩ := by
  intro request
  have hd : sampleDisk.IsDated := Disk.everyFile_of_all (by decide +kernel)
  refine ⟨hd, (handle_answered sampleSite sampleDisk).2 hd _ _ _ _, ?_⟩
  exact ((handle_answered sampleSite lateDisk).1 _ ⟨8210266876800, 0⟩).1 rfl

end Site

end FileServer
