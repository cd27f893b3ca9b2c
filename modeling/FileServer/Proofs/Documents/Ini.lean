import FileServer.Proofs.WholeNumbers
import FileServer.Settings.Ini

/-!
Whole numbers in sections with names in square brackets. They stay texts.
-/

namespace FileServer.Ini

open Text

variable {n : Int} {c : Char} {cs ds rest : List Char} {stop : Char → Bool} {open_ : Bool}

/-! ### Numbers -/

theorem until_cons (h : c ≠ '\\') (cs : List Char) :
    until_ stop open_ (c :: cs) = if stop c then some ([], c :: cs)
      else (until_ stop open_ cs).map fun (s, rest) => (c :: s, rest) := by
  cases cs <;> simp [until_, h]

/-- What holds no backslash is read as it is. -/
theorem until_append (hds : ∀ c ∈ ds, c ≠ '\\' ∧ stop c = false) (h : c ≠ '\\')
    (hstop : stop c = true) : until_ stop open_ (ds ++ c :: cs) = some (ds, c :: cs) := by
  induction ds with
  | nil => rw [List.nil_append, until_cons h, if_pos hstop]
  | cons d ds ih =>
    obtain ⟨hd, hgoes⟩ := hds d List.mem_cons_self
    rw [List.cons_append, until_cons hd, if_neg (by simp [hgoes]),
      ih fun c hc => hds c (List.mem_cons_of_mem _ hc)]
    rfl

theorem isBlank_of_mem_toString (h : c ∈ (toString n).toList) : isBlank c = false := by
  rcases inNumeral_of_mem h with hdigit | rfl
  · have hbounds := toNat_of_isDigit hdigit
    unfold isBlank
    simp only [Bool.or_eq_false_iff, Bool.and_eq_false_iff, decide_eq_false_iff_not,
      beq_eq_false_iff_ne]
    omega
  · rfl

theorem trimStart_of_forall (h : ∀ c ∈ cs, isBlank c = false) : trimStart cs = cs := by
  cases cs with
  | nil => rfl
  | cons c cs => exact List.dropWhile_cons_of_neg (by simp [h c List.mem_cons_self])

theorem trim_toString (n : Int) : trim (toString n).toList = (toString n).toList := by
  rw [trim, trimStart_of_forall fun c hc => isBlank_of_mem_toString hc,
    trimStart_of_forall fun c hc => isBlank_of_mem_toString (List.mem_reverse.1 hc),
    List.reverse_reverse]

theorem value_toString (n : Int) (rest : List Char) :
    value (' ' :: ((toString n).toList ++ '\n' :: rest)) =
      some ((toString n).toList, '\n' :: rest) := by
  have hplain : ∀ c ∈ (toString n).toList, c ≠ '\\' ∧ endsLine c = false := by
    intro c hc
    have hnumeral := inNumeral_of_mem hc
    rw [endsLine, hnumeral.beq (by decide), hnumeral.beq (by decide)]
    exact ⟨hnumeral.ne (by decide), rfl⟩
  have hline : restOfLine ((toString n).toList ++ '\n' :: rest) = _ :=
    until_append hplain (by decide) rfl
  have hstart :
      ((toString n).toList ++ '\n' :: rest).dropWhile (fun c => isBlank c && !endsLine c) =
      (toString n).toList ++ '\n' :: rest := by
    obtain ⟨c, ds, -, hn | hn⟩ := toString_cases n
    · have hc : isBlank c = false := isBlank_of_mem_toString (n := n) (by rw [hn]; simp)
      rw [hn]
      exact List.dropWhile_cons_of_neg (by simp [hc])
    · rw [hn]
      rfl
  unfold value
  rw [List.dropWhile_cons_of_pos (by decide), hstart]
  dsimp only
  split
  case h_1 heq => exact absurd (head_toString_append heq) (by decide)
  case h_2 heq => exact absurd (head_toString_append heq) (by decide)
  case h_3 =>
    rw [hline]
    simp only [Option.bind_eq_bind, Option.bind_some, trim_toString]

/-! ### A document -/

theorem itemsFrom_succ {p : Progress} {blanks : List Char}
    (h : span isBlank cs = (blanks, c :: rest)) (fuel : Nat) : itemsFrom (fuel + 1) p cs =
      (item (p.behind blanks) (c :: rest)).bind fun r => itemsFrom fuel r.1 r.2 := by
  conv => lhs; unfold itemsFrom
  rw [h]
  rfl

theorem item_server (p : Progress) (cs : List Char) : item p ("[server]".toList ++ cs) =
    some (⟨(some "server", []) :: p.sections, false⟩, cs) := rfl

theorem item_port (p : Progress) (n : Int) (rest : List Char) :
    item p ("port =".toList ++ ' ' :: ((toString n).toList ++ '\n' :: rest)) =
      some (⟨addEntry "port" (.text (toString n)) p.sections, false⟩, '\n' :: rest) := by
  have hvalue := value_toString n rest
  generalize ' ' :: ((toString n).toList ++ '\n' :: rest) = cs at hvalue ⊢
  have hitem : item p ("port =".toList ++ cs) = (value cs).bind fun r =>
      some (⟨addEntry "port" (.text (String.ofList r.1)) p.sections, false⟩, r.2) := rfl
  rw [hitem, hvalue, Option.bind_some, String.ofList_toList]

/-- A section with a number as the port of the server. -/
theorem read?_port (n : Int) :
    read? ("[server]\nport = " ++ toString n ++ "\n") =
      some [("server", .table none [("port", .text (toString n))])] := by
  have htext : ("[server]\nport = " ++ toString n ++ "\n").toList = "[server]".toList ++
      '\n' :: ("port =".toList ++ ' ' :: ((toString n).toList ++ ['\n'])) := by
    simp only [String.toList_append, List.append_assoc]
    rfl
  have hport (p : Progress) := item_port p n []
  generalize ' ' :: ((toString n).toList ++ ['\n']) = cs at htext hport
  have hitems (fuel : Nat) : itemsFrom (fuel + 2) {} ("[server]".toList ++ '\n' ::
      ("port =".toList ++ cs)) =
      some [(some "server", [("port", .text (toString n))]), (none, [])] := by
    have hfirst : span isBlank ("[server]".toList ++ '\n' :: ("port =".toList ++ cs)) =
        ([], "[server]".toList ++ '\n' :: ("port =".toList ++ cs)) := rfl
    have hsecond : span isBlank ('\n' :: ("port =".toList ++ cs)) =
        (['\n'], "port =".toList ++ cs) := rfl
    have hlast : span isBlank ['\n'] = (['\n'], []) := rfl
    refine (itemsFrom_succ hfirst (fuel + 1)).trans ?_
    refine (congrArg (Option.bind · _) (item_server _ _)).trans ?_
    refine (itemsFrom_succ hsecond fuel).trans ?_
    refine (congrArg (Option.bind · _) (hport _)).trans ?_
    rw [Option.bind_some]
    unfold itemsFrom
    rw [hlast]
    rfl
  obtain ⟨fuel, hfuel⟩ : ∃ fuel,
      ("[server]\nport = " ++ toString n ++ "\n").length = fuel + 2 :=
    ⟨15 + (toString n).length, by
      rw [String.length_append, String.length_append]
      show 16 + (toString n).length + 1 = _
      omega⟩
  unfold read?
  rw [htext, hfuel, hitems]
  rfl

end FileServer.Ini
