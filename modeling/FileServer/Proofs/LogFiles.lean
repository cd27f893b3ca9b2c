import FileServer.Journal.Desk
import FileServer.Proofs.Changes
import FileServer.Proofs.Utf8

/-!
Log files only grow. Opening the logs makes directories and empty files where nothing stood; after
that every call adds its line at the end of the file its log leads to. Two logs may lead to one file:
both add at its end, so nothing is written over and the lines stand in the order of the calls.

    access ──▶ logs/access.log ──┐
                                 ├──▶ one file: what it held, then line after line
    errors ──▶ errors (a link) ──┘
-/

namespace FileServer

namespace Journal

open Disk.Edit (OnlyGrows onlyGrows_pure onlyGrows_makeParents onlyGrows_openForWriting
  leadsToFile_of_openForWriting run_bind_eq_ok)

/-- A call that writes a line to a log. -/
structure Call where
  stream : Stream
  line : String
  time : Instant
  deriving Repr, DecidableEq

/-- The line of a call with its end. -/
def Call.bytes (c : Call) : Bytes := Utf8.ofString c.line ++ [10]

/-- The place to which the path of a log leads, if it has one. -/
def place? (d : Disk) (path : Option Path) : Option Location :=
  path.bind fun p => (d.canonical p).toOption

/-- The lines of the calls to those logs whose paths lead to a place, in the order of the calls. -/
def linesTo (d : Disk) (paths : Stream → Option Path) (place : Location) (calls : List Call) :
    Bytes :=
  (calls.filter fun c => place? d (paths c.stream) = some place).flatMap Call.bytes

/-- The lines of the calls to those logs that are written at a place, in the order of the calls. -/
def Writer.linesTo (w : Writer) (place : Location) (calls : List Call) : Bytes :=
  (calls.filter fun c => w.sink c.stream = .file place).flatMap Call.bytes

/-- Every file in which a log is written is there. -/
def Writer.HasFiles (w : Writer) (d : Disk) : Prop :=
  ∀ stream place, w.sink stream = .file place → d.HoldsFile place

/-- What calls leave of a tree: what stood in it, with their lines at the ends of the log files. -/
structure Writer.Adds (w : Writer) (calls : List Call) (d d' : Disk) : Prop where
  lasts : d.Lasts d'
  content : ∀ place, d'.contentAt place = d.contentAt place ++ w.linesTo place calls
  other : ∀ place, (∀ stream, w.sink stream ≠ .file place) → d'.node? place = d.node? place

variable {d d' : Disk} {w : Writer} {c : Call} {calls : List Call} {now : Instant} {p : Path}
  {place : Location}

theorem Writer.HasFiles.of_lasts (h : w.HasFiles d) (hlasts : d.Lasts d') : w.HasFiles d' :=
  fun stream place hsink => (h stream place hsink).of_lasts hlasts

/-! ### Opening the files -/

theorem onlyGrows_openSink (now : Instant) : ∀ path, OnlyGrows (Writer.openSink now path)
  | none => onlyGrows_pure _
  | some path => (onlyGrows_makeParents path).bind fun _ =>
      (onlyGrows_openForWriting path now).bind fun _ => onlyGrows_pure _

theorem onlyGrows_openFiles (now : Instant) (access errors : Option Path) :
    OnlyGrows (Writer.openFiles now access errors) :=
  (onlyGrows_openSink now access).bind fun _ => (onlyGrows_openSink now errors).bind fun _ =>
    onlyGrows_pure _

/-- Where a log goes: to the file its path leads to, and to the console if it has no path. -/
def Sink.Serves (d : Disk) : Sink → Option Path → Prop
  | .console, path => path = none
  | .file place, path => ∃ p, path = some p ∧ d.LeadsToFile p place

theorem Sink.Serves.of_lasts {path : Option Path} :
    ∀ {sink : Sink}, sink.Serves d path → d.Lasts d' → sink.Serves d' path
  | .console, h, _ => h
  | .file _, ⟨p, hpath, hleads⟩, hlasts => ⟨p, hpath, hleads.of_lasts hlasts⟩

theorem serves_of_openSink {sink : Sink} : ∀ {path : Option Path},
    (Writer.openSink now path).run d = (.ok sink, d') → sink.Serves d' path
  | none, h => by
    cases h
    rfl
  | some path, h => by
    obtain ⟨_, _, -, h⟩ := run_bind_eq_ok h
    obtain ⟨place, _, hopen, h⟩ := run_bind_eq_ok h
    cases h
    exact ⟨path, rfl, leadsToFile_of_openForWriting hopen⟩

/-- Where both logs have been opened, each goes where its path leads. -/
theorem serves_of_openFiles {paths : Stream → Option Path}
    (h : (Writer.openFiles now (paths .access) (paths .errors)).run d = (.ok w, d')) :
    ∀ stream, (w.sink stream).Serves d' (paths stream) := by
  obtain ⟨access, d₁, haccess, h⟩ := run_bind_eq_ok h
  obtain ⟨errors, d₂, herrors, h⟩ := run_bind_eq_ok h
  cases h
  have hlasts : d₁.Lasts d' := ((onlyGrows_openSink now (paths .errors)).grows herrors).lasts
  rintro (_ | _)
  · exact (serves_of_openSink haccess).of_lasts hlasts
  · exact serves_of_openSink herrors

theorem place?_of_leadsToFile (h : d.LeadsToFile p place) : place? d (some p) = some place := by
  rw [place?, Option.bind_some, h.canonical_eq_ok_iff.2 rfl]
  rfl

theorem Sink.Serves.eq_file_iff {sink : Sink} {path : Option Path} (h : sink.Serves d path) :
    sink = .file place ↔ place? d path = some place := by
  cases sink with
  | console =>
    cases h
    simp [place?]
  | file place' =>
    obtain ⟨p, rfl, hleads⟩ := h
    rw [place?_of_leadsToFile hleads, Sink.file.injEq, Option.some_inj]

theorem Sink.Serves.leadsToFile {sink : Sink} (h : sink.Serves d (some p)) :
    ∃ place, d.LeadsToFile p place := by
  cases sink with
  | console => cases h
  | file place =>
    obtain ⟨p, hpath, hleads⟩ := h
    cases hpath
    exact ⟨place, hleads⟩

theorem hasFiles_of_serves {paths : Stream → Option Path}
    (h : ∀ stream, (w.sink stream).Serves d (paths stream)) : w.HasFiles d := by
  intro stream place hsink
  have hserves := h stream
  rw [hsink] at hserves
  obtain ⟨p, -, hleads⟩ := hserves
  exact hleads.holdsFile

theorem Writer.linesTo_eq {paths : Stream → Option Path}
    (h : ∀ stream, (w.sink stream).Serves d (paths stream)) (place : Location)
    (calls : List Call) : w.linesTo place calls = Journal.linesTo d paths place calls := by
  have hsame : ∀ c ∈ calls, decide (w.sink c.stream = .file place) =
      decide (place? d (paths c.stream) = some place) := fun c _ => by
    rw [Bool.eq_iff_iff, decide_eq_true_iff, decide_eq_true_iff, (h c.stream).eq_file_iff]
  rw [linesTo, Journal.linesTo, List.filter_congr hsame]

/-! ### Writing to them -/

theorem Writer.linesTo_append (w : Writer) (place : Location) (calls calls' : List Call) :
    w.linesTo place (calls ++ calls') = w.linesTo place calls ++ w.linesTo place calls' := by
  rw [linesTo, List.filter_append, List.flatMap_append]
  rfl

theorem Writer.Adds.refl (w : Writer) (d : Disk) : w.Adds [] d d :=
  ⟨.refl d, fun _ => (List.append_nil _).symm, fun _ _ => rfl⟩

theorem Writer.Adds.trans {calls' : List Call} {d'' : Disk} (h : w.Adds calls d d')
    (h' : w.Adds calls' d' d'') : w.Adds (calls ++ calls') d d'' where
  lasts := h.lasts.trans h'.lasts
  content place := by rw [h'.content, h.content, linesTo_append, List.append_assoc]
  other place hplace := (h'.other place hplace).trans (h.other place hplace)

end Journal

namespace Desk

open Journal

/-- Writes the line of a call at its time. -/
def write (k : Desk) (c : Call) : Desk := { k with clock := c.time }.log c.stream c.line

/-- Writes the lines of calls one after the other. -/
def writeAll (k : Desk) (calls : List Call) : Desk := calls.foldl write k

variable {k : Desk} {w : Writer} {c : Call}

theorem disk_write (hw : k.writer = some w) (c : Call) :
    (k.write c).disk = match w.sink c.stream with
      | .console => k.disk
      | .file place => ((Disk.Edit.append place c.bytes c.time).run k.disk).2 := by
  have hbytes : c.bytes = Utf8.ofString (c.line ++ "\n") :=
    (Utf8.ofString_append c.line "\n").symm
  unfold write log
  rw [hbytes, hw, Option.getD_some]
  cases w.sink c.stream <;> cases c.stream <;> rfl

theorem writer_write (k : Desk) (c : Call) : (k.write c).writer = k.writer := by
  unfold write log
  split <;> rfl

/-- A call adds its line to the file of its log. -/
theorem adds_write (hw : k.writer = some w) (hfiles : w.HasFiles k.disk) (c : Call) :
    w.Adds [c] k.disk (k.write c).disk := by
  have hlines : ∀ place, w.linesTo place [c] =
      if w.sink c.stream = .file place then c.bytes else [] := by
    intro place
    by_cases h : w.sink c.stream = .file place <;> simp [Writer.linesTo, h]
  rw [disk_write hw]
  cases hsink : w.sink c.stream with
  | console =>
    refine ⟨.refl _, fun place => ?_, fun _ _ => rfl⟩
    rw [hlines, hsink, if_neg nofun, List.append_nil]
  | file file =>
    have hfile := hfiles c.stream file hsink
    refine ⟨Disk.Edit.lasts_append hfile _ _, fun place => ?_, fun place hplace => ?_⟩
    · rw [hlines, hsink]
      simp only [Sink.file.injEq]
      exact Disk.Edit.contentAt_append hfile _ _ place
    · have hne : place ≠ file := fun heq => hplace c.stream (heq ▸ hsink)
      exact Disk.Edit.node?_append hfile hne _ _

/-- So do all calls one after the other. -/
theorem adds_writeAll (w : Writer) : ∀ (calls : List Call) {k : Desk}, k.writer = some w →
    w.HasFiles k.disk → w.Adds calls k.disk (k.writeAll calls).disk
  | [], k, _, _ => .refl w k.disk
  | c :: calls, k, hw, hfiles => by
    have hstep := adds_write hw hfiles c
    have hw' : (k.write c).writer = some w := by rw [writer_write, hw]
    exact hstep.trans (adds_writeAll w calls hw' (hfiles.of_lasts hstep.lasts))

/-- Log files only grow, in the order of the calls. Whether or not the logs can be opened, what stood
in the tree stands there unchanged; where they are opened, each path leads in the end to a file that
holds what it held before and then the lines of the calls to the logs that lead there. -/
theorem logs_only_grow {d opened : Disk} {now : Instant} {paths : Stream → Option Path}
    {answer : Except Disk.Error Writer}
    (hopen : (Writer.openFiles now (paths .access) (paths .errors)).run d = (answer, opened)) :
    (∀ place node, d.node? place = some node → opened.node? place = some node) ∧
    (∀ p place node, d.locate p = .ok (place, node) → opened.locate p = .ok (place, node)) ∧
    ∀ w, answer = .ok w → ∀ k : Desk, k.disk = opened → k.writer = some w → ∀ calls : List Call,
      (∀ stream p, paths stream = some p → ∃ place modified access,
        place? opened (paths stream) = some place ∧
        (k.writeAll calls).disk.locate p = .ok (place,
          .file (d.contentAt place ++ linesTo opened paths place calls) modified access) ∧
        ∀ place' node, d.locate p = .ok (place', node) → place' = place) ∧
      (∀ place, (∀ stream, place? opened (paths stream) = some place) →
        (k.writeAll calls).disk.contentAt place =
          d.contentAt place ++ calls.flatMap Call.bytes) ∧
      ∀ place, (∀ stream, place? opened (paths stream) ≠ some place) →
        (k.writeAll calls).disk.node? place = opened.node? place := by
  have hgrows : d.Grows opened :=
    (onlyGrows_openFiles now (paths .access) (paths .errors)).grows hopen
  refine ⟨hgrows.node, fun p place node hlocate => hgrows.locate hlocate, ?_⟩
  rintro w rfl k rfl hw calls
  have hserves := serves_of_openFiles hopen
  have hadds := adds_writeAll w calls hw (hasFiles_of_serves hserves)
  have hcontent : ∀ place, (k.writeAll calls).disk.contentAt place =
      d.contentAt place ++ linesTo k.disk paths place calls := fun place => by
    rw [hadds.content, hgrows.content, Writer.linesTo_eq hserves]
  refine ⟨fun stream p hpath => ?_, fun place hplace => ?_, fun place hplace => ?_⟩
  · obtain ⟨place, hleads⟩ := (hpath ▸ hserves stream).leadsToFile
    obtain ⟨modified, access, hlocate⟩ := (hleads.of_lasts hadds.lasts).locate
    refine ⟨place, modified, access, hpath ▸ place?_of_leadsToFile hleads, ?_, ?_⟩
    · rw [hlocate, hcontent]
    · intro place' node hbefore
      obtain ⟨node', hnow, -⟩ := (hgrows.lasts.trans hadds.lasts).locate hbefore
      rw [hlocate] at hnow
      cases hnow
      rfl
  · rw [hcontent, linesTo, List.filter_eq_self.2 fun c _ => decide_eq_true (hplace c.stream)]
  · exact hadds.other place fun stream hsink =>
      hplace stream ((hserves stream).eq_file_iff.1 hsink)

/-- The place of the file in the directory below. -/
def allPlace : Location := [Utf8.ofString "logs", Utf8.ofString "all"]

/-- A directory with a file that holds a line, and a link to the file. -/
def logDisk : Disk where
  entries :=
    [([Utf8.ofString "logs"], .directory {}),
      (allPlace, .file (Utf8.ofString "old\n") ⟨0, 0⟩ {}),
      ([Utf8.ofString "errors"], .link (.ofString "logs/all"))]

/-- Two paths to the file: one through a directory that is missing, one through the link. -/
def logPaths : Stream → Option Path
  | .access => some (.ofString "new/../logs/all")
  | .errors => some (.ofString "errors")

/-- What is written to when the logs at these paths have been opened. -/
def logDesk : Desk where
  disk := ((Writer.openFiles ⟨1, 0⟩ (logPaths .access) (logPaths .errors)).run logDisk).2
  writer := some ⟨.file allPlace, .file allPlace⟩

def logCalls : List Call :=
  [⟨.access, "one", ⟨2, 0⟩⟩, ⟨.errors, "two", ⟨3, 0⟩⟩, ⟨.access, "three", ⟨4, 0⟩⟩]

/-- Both logs add to the one file behind what it held. -/
theorem logs_only_grow_one_file :
    (Writer.openFiles ⟨1, 0⟩ (logPaths .access) (logPaths .errors)).run logDisk =
        (.ok ⟨.file allPlace, .file allPlace⟩, logDesk.disk) ∧
      ∃ modified access, (logDesk.writeAll logCalls).disk.locate (.ofString "errors") =
        .ok (allPlace, .file (Utf8.ofString "old\none\ntwo\nthree\n") modified access) := by
  have hanswer : ((Writer.openFiles ⟨1, 0⟩ (logPaths .access) (logPaths .errors)).run
      logDisk).1 = .ok ⟨.file allPlace, .file allPlace⟩ := eq_ok_of_toOption (by decide +kernel)
  have hopen : (Writer.openFiles ⟨1, 0⟩ (logPaths .access) (logPaths .errors)).run logDisk =
      (.ok ⟨.file allPlace, .file allPlace⟩, logDesk.disk) := Prod.ext hanswer rfl
  obtain ⟨-, -, hopened⟩ := logs_only_grow hopen
  obtain ⟨hpaths, -, -⟩ := hopened _ rfl logDesk rfl rfl logCalls
  obtain ⟨place, modified, access, hplace, hlocate, -⟩ := hpaths .errors _ rfl
  have hall : place? logDesk.disk (logPaths .errors) = some allPlace := by decide +kernel
  have hcontent : logDisk.contentAt allPlace ++ linesTo logDesk.disk logPaths allPlace logCalls =
      Utf8.ofString "old\none\ntwo\nthree\n" := by decide +kernel
  rw [Option.some.inj (hplace.symm.trans hall), hcontent] at hlocate
  exact ⟨hopen, modified, access, hlocate⟩

/-- Where the second log cannot be opened, the first has been made already, with no content. -/
example :
    let run := (Writer.openFiles ⟨1, 0⟩ (some (.ofString "new/log"))
      (some (.ofString "logs/all/log"))).run logDisk
    run.1.toOption = none ∧
      run.2.node? allPlace = some (.file (Utf8.ofString "old\n") ⟨0, 0⟩ {}) ∧
      run.2.node? [Utf8.ofString "new", Utf8.ofString "log"] = some (.file [] ⟨1, 0⟩ {}) := by
  decide +kernel

end Desk

end FileServer
