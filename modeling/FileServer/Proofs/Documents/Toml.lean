import FileServer.Proofs.WholeNumbers
import FileServer.Settings.Toml.Document

/-!
Whole numbers in TOML. One that has 64 bits is read as it is, and any other one is refused.
-/

namespace FileServer.Toml

open Text

variable {n : Int} {cs ds rest : List Char}

/-! ### Numbers -/

theorem moreDigits_append (hrest : Ends rest) (hds : ∀ c ∈ ds, c.isDigit = true) :
    moreDigits Char.isDigit (ds ++ rest) = (ds, rest) := by
  induction ds with
  | nil =>
    rw [List.nil_append]
    unfold moreDigits
    split
    case h_1 => exact absurd rfl (hrest.ne (by decide))
    case h_2 c cs _ =>
      rw [if_neg (by simp [goesOn_isDigit c (hrest c rfl)])]
    case h_3 => rfl
  | cons d ds ih =>
    have hd := hds d List.mem_cons_self
    rw [List.cons_append]
    unfold moreDigits
    split
    case h_1 heq => exact absurd ((List.cons.inj heq).1 ▸ hd) (by decide)
    case h_2 heq =>
      obtain ⟨rfl, rfl⟩ := List.cons.inj heq
      rw [if_pos hd, ih fun c hc => hds c (List.mem_cons_of_mem _ hc)]
    case h_3 heq => cases heq

theorem wholeDigits_digitsOf (hrest : Ends rest) (n : Int) :
    wholeDigits (digitsOf n ++ rest) = some (digitsOf n, rest) := by
  unfold wholeDigits
  split
  case h_1 heq =>
    rcases digitsOf_eq_zero_or n with hzero | hhead
    · rw [hzero] at heq ⊢
      obtain rfl : rest = _ := (List.cons.inj heq).2
      rfl
    · obtain ⟨c, ds, hds⟩ := exists_digitsOf n
      rw [hds] at heq hhead
      exact absurd (congrArg some (List.cons.inj heq).1) hhead
  case h_2 =>
    obtain ⟨c, ds, hds⟩ := exists_digitsOf n
    have hdigits : ∀ d ∈ c :: ds, d.isDigit = true := fun d hd =>
      isDigit_of_mem_digitsOf (hds ▸ hd)
    rw [hds, List.cons_append, digits, if_pos (hdigits c List.mem_cons_self),
      moreDigits_append hrest fun d hd => hdigits d (List.mem_cons_of_mem _ hd)]

/-- A whole number has no power of ten and no fraction. -/
theorem float_toString (hrest : Ends rest) (n : Int) :
    float ((toString n).toList ++ rest) = none := by
  obtain ⟨c, ds, hds⟩ := exists_digitsOf n
  have hc : c.isDigit = true := isDigit_of_mem_digitsOf (hds ▸ List.mem_cons_self)
  have hfinite : ∀ negative, finiteFloat negative (digitsOf n ++ rest) = none := by
    intro negative
    rw [finiteFloat, wholeDigits_digitsOf hrest]
    cases rest with
    | nil => rfl
    | cons m cs =>
      have hmark : isPowerMark m = false := hrest.not_power
      simp only [Option.bind_eq_bind, Option.bind_some]
      split
      case h_1 heq => exact absurd (List.cons.inj heq).1 (hrest.ne (by decide))
      case h_2 heq =>
        obtain ⟨rfl, rfl⟩ := List.cons.inj heq
        rw [hmark]
        rfl
      case h_3 heq => cases heq
  unfold float
  rw [readSign_toString]
  dsimp only
  split
  case h_1 heq =>
    rw [hds] at heq
    exact absurd ((List.cons.inj heq).1 ▸ hc) (by decide)
  case h_2 heq =>
    rw [hds] at heq
    exact absurd ((List.cons.inj heq).1 ▸ hc) (by decide)
  case h_3 =>
    rw [hfinite]
    rfl

theorem mark_drop_digitsOf (hrest : Ends rest) {m : Char} (hm : endsNumber m = false)
    (hdigit : m.isDigit = false) (n : Int) (count : Nat) :
    mark m ((digitsOf n).drop count ++ rest) = none := by
  cases hdrop : (digitsOf n).drop count with
  | nil =>
    cases rest with
    | nil => rfl
    | cons c cs => exact if_neg (by simpa using hrest.ne hm)
  | cons d ds =>
    have hd : d.isDigit = true :=
      isDigit_of_mem_digitsOf (List.mem_of_mem_drop (hdrop ▸ List.mem_cons_self))
    refine if_neg ?_
    rw [beq_iff_eq]
    rintro rfl
    rw [hdigit] at hd
    cases hd

/-- Behind a given count of digits of a number stands no mark of a date or a time. -/
theorem mark_of_fixedNumber (hrest : Ends rest) {count value : Nat} {m : Char}
    (hm : endsNumber m = false) (hdigit : m.isDigit = false) (hcount : 0 < count)
    (h : fixedNumber count ((toString n).toList ++ rest) = some (value, cs)) :
    mark m cs = none := by
  unfold fixedNumber at h
  dsimp only at h
  split at h
  case isFalse => cases h
  case isTrue hall =>
    simp only [Bool.and_eq_true, decide_eq_true_eq, List.all_eq_true] at hall
    obtain ⟨hlength, hall⟩ := hall
    cases h
    rcases Int.lt_or_le n 0 with hn | hn
    · rw [toList_toString_of_neg hn] at hall
      obtain ⟨k, rfl⟩ := Nat.exists_eq_add_of_lt hcount
      exact absurd (hall '-' (by simp)) (by decide)
    · rw [toList_toString_of_nonneg hn] at hall hlength ⊢
      rcases Nat.lt_or_ge (digitsOf n).length count with hlong | hshort
      · -- the character behind the number would be one of the digits
        cases rest with
        | nil =>
          rw [List.append_nil, List.length_take] at hlength
          omega
        | cons c cs =>
          have hc : c ∈ (digitsOf n ++ c :: cs).take count := by
            rw [List.take_append, List.mem_append]
            obtain ⟨k, hk⟩ := Nat.exists_eq_add_of_lt hlong
            exact .inr (by rw [hk, Nat.add_assoc, Nat.add_sub_cancel_left]; simp)
          have := hall c hc
          rw [goesOn_isDigit c (hrest c rfl)] at this
          cases this
      · rw [List.drop_append_of_le_length hshort]
        exact mark_drop_digitsOf hrest hm hdigit n count

theorem moment_toString (hrest : Ends rest) (n : Int) :
    moment ((toString n).toList ++ rest) = none := by
  have hdate : date ((toString n).toList ++ rest) = none := by
    unfold date
    cases h : fixedNumber 4 ((toString n).toList ++ rest) with
    | none => rfl
    | some r =>
      have hmark : mark '-' r.2 = none :=
        mark_of_fixedNumber hrest (by decide) (by decide) (by decide) h
      simp [hmark]
  have htime : time ((toString n).toList ++ rest) = none := by
    unfold time
    cases h : fixedNumber 2 ((toString n).toList ++ rest) with
    | none => rfl
    | some r =>
      have hmark : mark ':' r.2 = none :=
        mark_of_fixedNumber hrest (by decide) (by decide) (by decide) h
      simp [hmark]
  rw [moment, hdate]
  dsimp only
  rw [htime]
  rfl

theorem integer_toString (hrest : Ends rest) (n : Int) :
    integer ((toString n).toList ++ rest) =
      (held? n).map fun s => (.scalar none s, rest) := by
  have hmark : ∀ {m : Char}, m.isDigit = false → endsNumber m = false →
      ∀ cs, (toString n).toList ++ rest ≠ '0' :: m :: cs := fun hm hm' =>
    toString_append_ne hrest (by decide) hm hm' n
  unfold integer
  split
  case h_1 heq => exact absurd heq (hmark (by decide) (by decide) _)
  case h_2 heq => exact absurd heq (hmark (by decide) (by decide) _)
  case h_3 heq => exact absurd heq (hmark (by decide) (by decide) _)
  case h_4 =>
    rw [readSign_toString]
    dsimp only
    rw [wholeDigits_digitsOf hrest]
    simp only [Option.bind_eq_bind, Option.bind_some, ofDigits_digitsOf, signed_natAbs]
    unfold integer64? held?
    split <;> rfl

theorem scalar_toString (hrest : Ends rest) (n : Int) :
    scalar ((toString n).toList ++ rest) =
      (held? n).map fun s => (.scalar none s, rest) := by
  unfold scalar
  split
  case h_1 heq => exact absurd (head_toString_append heq) (by decide)
  case h_2 heq => exact absurd (head_toString_append heq) (by decide)
  case h_3 heq => exact absurd (head_toString_append heq) (by decide)
  case h_4 heq => exact absurd (head_toString_append heq) (by decide)
  case h_5 =>
    rw [moment_toString hrest, float_toString hrest, integer_toString hrest]
    rfl

/-! ### A document -/

theorem value_toString (hrest : Ends rest) (depth : Nat) (n : Int) :
    value depth ((toString n).toList ++ rest) =
      (held? n).map fun s => (.scalar none s, rest) := by
  rw [← scalar_toString hrest]
  cases depth with
  | zero => rfl
  | succ depth =>
    unfold value
    split
    case h_1 heq => exact absurd (head_toString_append heq) (by decide)
    case h_2 heq => exact absurd (head_toString_append heq) (by decide)
    case h_3 => rfl

theorem blanks_toString (n : Int) (rest : List Char) :
    blanks ((toString n).toList ++ rest) = (toString n).toList ++ rest := by
  obtain ⟨c, cs, hcs, hc⟩ := exists_toString_append n rest
  rw [hcs]
  refine List.dropWhile_cons_of_neg ?_
  rw [isBlank, hc.beq (by decide), hc.beq (by decide)]
  decide

theorem lines_succ (fuel : Nat) (d : Draft) (h : cs ≠ []) :
    lines (fuel + 1) d cs = (line d cs).bind fun r => lines fuel r.1 r.2 := by
  cases cs with
  | nil => exact absurd rfl h
  | cons => rfl

/-- The line of a header. -/
theorem line_server (cs : List Char) :
    line {} ("[server]\n".toList ++ cs) = some ({ path := some ([], "server") }, cs) := rfl

/-- The line of a number. -/
theorem line_port (n : Int) (d : Draft) (rest : List Char) :
    line d ("port = ".toList ++ ((toString n).toList ++ '\n' :: rest)) =
      (held? n).bind fun s => (d.add [] "port" (.scalar none s)).map (·, rest) := by
  have hvalue := value_toString (ends_cons (c := '\n') (by decide) rest) depthLimit n
  have hblanks := blanks_toString n ('\n' :: rest)
  generalize (toString n).toList ++ '\n' :: rest = cs at hvalue hblanks ⊢
  have hline : blanks ("port = ".toList ++ cs) = "port = ".toList ++ cs := rfl
  have hcontent : lineEnd ("port = ".toList ++ cs) = none := rfl
  have hkey : key ("port = ".toList ++ cs) = some (([], "port"), "= ".toList ++ cs) := rfl
  have hequals : mark '=' (blanks ("= ".toList ++ cs)) = some (" ".toList ++ cs) := rfl
  have hpair : pair (value depthLimit) ("port = ".toList ++ cs) =
      (held? n).map fun s => ((([], "port"), .scalar none s), '\n' :: rest) := by
    have hafter : blanks (" ".toList ++ cs) = cs := hblanks
    simp only [pair, hkey, hequals, hafter, hvalue, Option.bind_eq_bind, Option.bind_some]
    cases held? n <;> rfl
  unfold line
  rw [hline]
  split
  case h_1 heq => exact absurd (List.cons.inj heq).1 (by decide)
  case h_2 heq => exact absurd (List.cons.inj heq).1 (by decide)
  case h_3 =>
    rw [hcontent, hpair]
    cases held? n with
    | none => rfl
    | some s =>
      show (d.add [] "port" (.scalar none s)).bind (fun d => some (d, rest)) =
        (d.add [] "port" (.scalar none s)).map (·, rest)
      rw [Option.map_eq_bind]
      rfl

/-- A table with a number as the port of the server. -/
theorem read?_port (n : Int) :
    read? ("[server]\nport = " ++ toString n ++ "\n") =
      (held? n).map fun s => [("server", .table none [("port", .scalar none s)])] := by
  have htext : ("[server]\nport = " ++ toString n ++ "\n").toList =
      "[server]\n".toList ++ ("port = ".toList ++ ((toString n).toList ++ ['\n'])) := by
    simp only [String.toList_append, List.append_assoc]
    rfl
  have hlines : ∀ fuel, lines (fuel + 2) {} ("[server]\n".toList ++
      ("port = ".toList ++ ((toString n).toList ++ ['\n']))) = (held? n).bind fun s =>
        some { path := some ([], "server"), current := [("port", .value (.scalar none s))] } := by
    intro fuel
    rw [lines_succ _ _ (by simp), line_server, Option.bind_some, lines_succ _ _ (by simp),
      line_port]
    cases held? n with
    | none => rfl
    | some s => exact lines.eq_1 fuel _
  obtain ⟨fuel, hfuel⟩ : ∃ fuel, ("[server]\n".toList ++
      ("port = ".toList ++ ((toString n).toList ++ ['\n']))).length = fuel + 2 :=
    ⟨((toString n).toList ++ ['\n']).length + 14, by simp⟩
  unfold read?
  rw [htext]
  split
  case h_1 heq => exact absurd (List.cons.inj heq).1 (by decide)
  case h_2 =>
    dsimp only
    rw [hfuel, hlines]
    cases held? n <;> rfl

end FileServer.Toml
