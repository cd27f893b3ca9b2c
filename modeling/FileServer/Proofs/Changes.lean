import FileServer.Disk.Edit
import FileServer.Proofs.Growth

/-!
Changes that only let a tree grow. Directories and files are made at free places, so whatever stood
in the tree before stands there unchanged, also where a change fails half-way. Adding to a file
changes no other one, and leaves the file with what it held in front.
-/

namespace FileServer.Disk.Edit

variable {α β : Type} {d d' : Disk} {place : Location} {p : Path}

/-- A change lets every tree grow, also where it fails half-way. -/
def OnlyGrows (x : Edit α) : Prop := ∀ d : Disk, d.Grows (x.run d).2

theorem OnlyGrows.grows {x : Edit α} {answer : Except Error α} (hx : OnlyGrows x)
    (h : x.run d = (answer, d')) : d.Grows d' := by
  have hgrows := hx d
  rw [h] at hgrows
  exact hgrows

/-! ### Running changes -/

theorem run_bind (x : Edit α) (f : α → Edit β) (d : Disk) :
    (x >>= f).run d = match x.run d with
      | (.ok a, d') => (f a).run d'
      | (.error e, d') => (.error e, d') := by
  rw [ExceptT.run_bind]
  show StateT.run (x.run >>= _) d = _
  rw [StateT.run_bind, StateT.run]
  rcases x.run d with ⟨_ | _, _⟩ <;> rfl

theorem run_bind_eq_ok {x : Edit α} {f : α → Edit β} {b : β}
    (h : (x >>= f).run d = (.ok b, d')) :
    ∃ a d₁, x.run d = (.ok a, d₁) ∧ (f a).run d₁ = (.ok b, d') := by
  rw [run_bind] at h
  split at h
  case h_1 a d₁ hx => exact ⟨a, d₁, hx, h⟩
  case h_2 => cases h

theorem run_tryCatch (x : Edit α) (f : Error → Edit α) (d : Disk) :
    (tryCatch x f).run d = match x.run d with
      | (.ok a, d') => (.ok a, d')
      | (.error e, d') => (f e).run d' := by
  rw [ExceptT.run_tryCatch]
  show StateT.run (x.run >>= _) d = _
  rw [StateT.run_bind, StateT.run]
  rcases x.run d with ⟨_ | _, _⟩ <;> rfl

theorem run_get (d : Disk) : (get : Edit Disk).run d = (.ok d, d) := rfl

theorem run_ask (question : Disk → Except Error α) (d : Disk) :
    (ask question).run d = (question d, d) := by
  rw [ask, run_bind, run_get]
  dsimp only
  cases question d <;> rfl

theorem run_ask_eq_ok {question : Disk → Except Error α} {a : α}
    (h : (ask question).run d = (.ok a, d')) : question d = .ok a ∧ d' = d := by
  rw [run_ask] at h
  exact ⟨congrArg Prod.fst h, (congrArg Prod.snd h).symm⟩

/-! ### Directories and files that are made -/

theorem onlyGrows_pure (a : α) : OnlyGrows (pure a) := Grows.refl

theorem onlyGrows_throw (e : Error) : OnlyGrows (throw e : Edit α) := Grows.refl

theorem onlyGrows_ask (question : Disk → Except Error α) : OnlyGrows (ask question) := by
  intro d
  rw [run_ask]
  exact Grows.refl d

theorem OnlyGrows.bind {x : Edit α} {f : α → Edit β} (hx : OnlyGrows x)
    (hf : ∀ a, OnlyGrows (f a)) : OnlyGrows (x >>= f) := by
  intro d
  rw [run_bind]
  rcases hrun : x.run d with ⟨_ | a, d'⟩
  · exact hx.grows hrun
  · exact (hx.grows hrun).trans (hf a d')

theorem OnlyGrows.tryCatch {x : Edit α} {f : Error → Edit α} (hx : OnlyGrows x)
    (hf : ∀ e, OnlyGrows (f e)) : OnlyGrows (tryCatch x f) := by
  intro d
  rw [run_tryCatch]
  rcases hrun : x.run d with ⟨e | _, d'⟩
  · exact (hx.grows hrun).trans (hf e d')
  · exact hx.grows hrun

theorem onlyGrows_get : OnlyGrows (get : Edit Disk) := Grows.refl

theorem onlyGrows_unlessDirectory (p : Path) (e : Error) :
    OnlyGrows (do if (← get).isDirectory p then pure () else throw e) := by
  refine onlyGrows_get.bind fun d => ?_
  split
  · exact onlyGrows_pure ()
  · exact onlyGrows_throw e

/-- A directory is made at a free place. -/
theorem onlyGrows_makeDirectory (p : Path) : OnlyGrows (makeDirectory p) := by
  refine (onlyGrows_ask _).bind fun _ d => ?_
  rw [run_bind, run_ask]
  cases hfind : d.find false p with
  | error e => exact Grows.refl d
  | ok spot =>
    cases spot with
    | taken place node => exact Grows.refl d
    | free place => exact grows_put (node?_of_find hfind) rfl

theorem onlyGrows_ensureDirectory (p : Path) : OnlyGrows (ensureDirectory p) :=
  (onlyGrows_makeDirectory p).tryCatch fun e => onlyGrows_unlessDirectory p e

theorem onlyGrows_makeDirectories (fromTop : Bool) :
    ∀ names, OnlyGrows (makeDirectories fromTop names)
  | [] => onlyGrows_pure ()
  | name :: above => by
    rw [makeDirectories]
    refine (onlyGrows_makeDirectory _).tryCatch fun e => ?_
    split
    · exact (onlyGrows_makeDirectories fromTop above).bind fun _ => onlyGrows_ensureDirectory _
    · exact onlyGrows_unlessDirectory _ _

/-- The directories above a file are made. -/
theorem onlyGrows_makeParents (p : Path) : OnlyGrows (makeParents p) :=
  onlyGrows_makeDirectories _ _

/-- A file that is opened stands where the path leads, or is made there with no content. -/
theorem onlyGrows_openForWriting (p : Path) (now : Instant) : OnlyGrows (openForWriting p now) := by
  refine (onlyGrows_ask _).bind fun _ d => ?_
  rw [run_bind, run_ask]
  cases hfind : d.findFile p with
  | error e => exact Grows.refl d
  | ok spot =>
    rcases spot with ⟨place, ⟨_⟩ | _ | _⟩ | place
    · exact Grows.refl d
    · exact Grows.refl d
    · exact Grows.refl d
    · exact grows_put (node?_of_findFile hfind) rfl

/-- Where a file has been opened, the path leads to it. -/
theorem leadsToFile_of_openForWriting {now : Instant}
    (h : (openForWriting p now).run d = (.ok place, d')) : d'.LeadsToFile p place := by
  have hlasts : d.Lasts d' := ((onlyGrows_openForWriting p now).grows h).lasts
  obtain ⟨u, d₁, hlength, hrest⟩ := run_bind_eq_ok h
  obtain ⟨-, rfl⟩ := run_ask_eq_ok hlength
  obtain ⟨spot, d₂, hask, hopen⟩ := run_bind_eq_ok hrest
  obtain ⟨hfind, rfl⟩ := run_ask_eq_ok hask
  have hstands := node?_of_findFile hfind
  rcases spot with ⟨place, ⟨content, modified, access⟩ | _ | _⟩ | place
  · cases hopen
    exact ⟨_, _, _, hlasts.locate_of_findFile hfind hstands nofun⟩
  · cases hopen
  · cases hopen
  · cases hopen
    have hne : place ≠ [] := ne_nil_of_free hstands
    have hmade : (d₂.put place (.file [] now {})).node? place = some (.file [] now {}) := by
      rw [node?_put hne, if_pos rfl]
    exact ⟨_, _, _, hlasts.locate_of_findFile hfind hmade nofun⟩

/-! ### Adding to a file -/

theorem run_append {content bytes : Bytes} {modified now : Instant} {access : Access}
    (h : d.node? place = some (.file content modified access)) :
    (append place bytes now).run d =
      (.ok (), d.put place (.file (content ++ bytes) now access)) := by
  rw [append, run_bind, run_get]
  dsimp only
  rw [h]
  rfl

theorem lasts_append (h : d.HoldsFile place) (bytes : Bytes) (now : Instant) :
    d.Lasts ((append place bytes now).run d).2 := by
  have hne := h.ne_nil
  obtain ⟨content, modified, access, hnode⟩ := h
  rw [run_append hnode]
  refine ⟨rfl, fun q node hq => ?_⟩
  rw [node?_put hne]
  by_cases heq : q = place
  · subst heq
    have hnow : node = .file content modified access := Option.some.inj (hq.symm.trans hnode)
    exact ⟨_, if_pos rfl, by rw [hnow]; rfl⟩
  · exact ⟨node, by rw [if_neg heq, hq], rfl⟩

theorem node?_append (h : d.HoldsFile place) {q : Location} (hq : q ≠ place) (bytes : Bytes)
    (now : Instant) : ((append place bytes now).run d).2.node? q = d.node? q := by
  have hne := h.ne_nil
  obtain ⟨content, modified, access, hnode⟩ := h
  rw [run_append hnode, node?_put hne, if_neg hq]

/-- What is added to a file comes behind what it holds, and no other file is changed. -/
theorem contentAt_append (h : d.HoldsFile place) (bytes : Bytes) (now : Instant) (q : Location) :
    ((append place bytes now).run d).2.contentAt q =
      d.contentAt q ++ if place = q then bytes else [] := by
  by_cases hq : place = q
  · subst hq
    have hne := h.ne_nil
    obtain ⟨content, modified, access, hnode⟩ := h
    rw [run_append hnode, contentAt, contentAt, node?_put hne, if_pos rfl, if_pos rfl, hnode]
    rfl
  · rw [if_neg hq, List.append_nil, contentAt, contentAt, node?_append h (Ne.symm hq)]

end FileServer.Disk.Edit
