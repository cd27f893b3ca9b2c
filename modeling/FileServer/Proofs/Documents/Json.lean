import FileServer.Proofs.Documents.Listing
import FileServer.Proofs.Refusals
import FileServer.Proofs.WholeNumbers
import FileServer.Settings.Json.Document

/-!
Whole numbers in JSON. One that has 64 bits is read as it is. Of any other one the digits that fit
into 64 bits are taken and multiplied by a power of ten, which keeps its sign and its size; one that
is beyond all floating-point numbers is refused.
-/

namespace FileServer.Json

open Text

variable {n : Int} {c : Char} {ds rest : List Char}

/-! ### The digits that are taken -/

/-- Digits are left only where the number that was taken is too large for one more. -/
theorem collect_cases (hds : ∀ c ∈ ds, c.isDigit = true) (start count : Nat) :
    ∃ taken more, ds = taken ++ more ∧
      (∀ rest, Ends rest → collect start count (ds ++ rest) =
        (taken.foldl (fun n c => n * 10 + (c.toNat - '0'.toNat)) start, count + taken.length,
          more ++ rest)) ∧
      (more = [] ∨ Wide.greatestNatural <
        taken.foldl (fun n c => n * 10 + (c.toNat - '0'.toNat)) start * 10 + 10) := by
  induction ds generalizing start count with
  | nil =>
    refine ⟨[], [], rfl, fun rest hrest => ?_, .inl rfl⟩
    cases rest with
    | nil => rfl
    | cons c cs =>
      rw [List.nil_append, collect, if_neg (by simp [goesOn_isDigit c (hrest c rfl)])]
      rfl
  | cons d ds ih =>
    have hd := hds d List.mem_cons_self
    by_cases hfits : start * 10 + (d.toNat - '0'.toNat) ≤ Wide.greatestNatural
    · obtain ⟨taken, more, hsplit, hcollect, hmore⟩ :=
        ih (fun c hc => hds c (List.mem_cons_of_mem _ hc)) (start * 10 + (d.toNat - '0'.toNat))
          (count + 1)
      refine ⟨d :: taken, more, by rw [hsplit]; rfl, fun rest hrest => ?_, hmore⟩
      rw [List.cons_append, collect, if_pos hd]
      dsimp only
      rw [if_pos hfits, hcollect rest hrest, List.length_cons, Nat.add_assoc, Nat.add_comm 1]
      rfl
    · have hdigit := (digitChar_of_isDigit hd).2
      refine ⟨[], d :: ds, rfl, fun rest hrest => ?_, .inr (by rw [List.foldl_nil]; omega)⟩
      rw [List.cons_append, collect, if_pos hd]
      dsimp only
      rw [if_neg hfits]
      rfl

theorem le_foldl_digits {start start' : Nat} (h : start ≤ start') (ds : List Char) :
    start ≤ ds.foldl (fun n c => n * 10 + (c.toNat - '0'.toNat)) start' := by
  induction ds generalizing start' with
  | nil => exact h
  | cons d ds ih =>
    refine ih (Nat.le_trans h ?_)
    show start' ≤ start' * 10 + _
    omega

/-- The digits of a whole number, cut where what has been taken is too large for one more. -/
structure Collected (n : Int) (taken more : List Char) : Prop where
  digitsOf_eq : digitsOf n = taken ++ more
  collect_eq : ∀ rest, Ends rest →
    collect 0 0 (digitsOf n ++ rest) = (ofDigits taken, taken.length, more ++ rest)
  full : more = [] ∨ Wide.greatestNatural < ofDigits taken * 10 + 10

theorem exists_collected (n : Int) : ∃ taken more, Collected n taken more := by
  obtain ⟨taken, more, hsplit, hcollect, hfull⟩ :=
    collect_cases (fun c hc => isDigit_of_mem_digitsOf (n := n) hc) 0 0
  exact ⟨taken, more, hsplit, fun rest hrest => by rw [hcollect rest hrest, Nat.zero_add]; rfl,
    hfull⟩

namespace Collected

variable {taken more : List Char}

/-- A first digit is always taken. -/
theorem length_pos (h : Collected n taken more) : 0 < taken.length := by
  rw [List.length_pos_iff]
  rintro rfl
  rcases h.full with rfl | hfull
  · exact Nat.toDigits_ne_nil h.digitsOf_eq
  · exact absurd hfull (by decide)

/-- A zero is not followed by other digits. -/
theorem not_zero_in_front (h : Collected n taken more) (rest : List Char) :
    ((digitsOf n ++ rest).head? == some '0' && decide (1 < taken.length)) = false := by
  obtain ⟨c, ds, hds⟩ := exists_digitsOf n
  rw [hds, List.cons_append, List.head?_cons, Bool.and_eq_false_iff]
  rcases digitsOf_eq_zero_or n with hzero | hhead
  · have hlength := congrArg List.length (h.digitsOf_eq.symm.trans hzero)
    rw [List.length_append, List.length_singleton] at hlength
    exact .inr (decide_eq_false (by omega))
  · rw [hds] at hhead
    exact .inl (beq_false_of_ne hhead)

theorem dropWhile_more (h : Collected n taken more) (hrest : Ends rest) :
    (more ++ rest).dropWhile Char.isDigit = rest :=
  congrArg Prod.snd (hrest.span goesOn_isDigit fun _ hc =>
    isDigit_of_mem_digitsOf (n := n) (h.digitsOf_eq ▸ List.mem_append_right _ hc))

theorem ofDigits_taken (h : Collected n taken []) : ofDigits taken = n.natAbs := by
  rw [← ofDigits_digitsOf, h.digitsOf_eq, List.append_nil]

/-- A number that goes on behind what fits into 64 bits is beyond them, and what has been taken of
it is large too. -/
theorem beyond (h : Collected n taken (c :: more)) :
    (n < Wide.least ∨ Wide.greatest < n) ∧ 2 ^ 16 ≤ ofDigits taken := by
  have hfull := h.full.resolve_left (List.cons_ne_nil _ _)
  have hle : ofDigits taken * 10 ≤ n.natAbs := by
    rw [← ofDigits_digitsOf, h.digitsOf_eq, ofDigits, ofDigits, List.foldl_append, List.foldl_cons]
    exact le_foldl_digits (Nat.le_add_right _ _) more
  unfold Wide.greatestNatural at hfull
  unfold Wide.least Wide.greatest
  omega

end Collected

/-- What a whole number is read as. -/
def whole? (n : Int) : Option Scalar :=
  let (significand, _, more) := collect 0 0 (digitsOf n)
  if more.isEmpty then
    some (if Wide.holds n then .integer n
      else .floating (signed (decide (n < 0)) (.ofNat significand)))
  else (scaled significand more.length).map fun x => .floating (signed (decide (n < 0)) x)

theorem Collected.whole?_eq {taken more : List Char} (h : Collected n taken more) : whole? n =
    if more.isEmpty then
      some (if Wide.holds n then .integer n
        else .floating (signed (decide (n < 0)) (.ofNat (ofDigits taken))))
    else (scaled (ofDigits taken) more.length).map fun x =>
      .floating (signed (decide (n < 0)) x) := by
  have halone := h.collect_eq [] ends_nil
  rw [List.append_nil, List.append_nil] at halone
  unfold whole?
  rw [halone]

/-! ### What it stands for -/

/-- What is multiplied by a power of ten is not made less. -/
theorem atLeast_of_scaled {significand count k : Nat} {x : Binary64} (h : 2 ^ k ≤ significand)
    (hx : scaled significand count = some x) : x.AtLeast (2 ^ k) := by
  have hnumber := Binary64.atLeast_ofNat h
  have hpower : (powerOfTen count).AtLeast 1 := by
    have hten : 2 ^ 0 * 1 ≤ 10 ^ count := Nat.pow_pos (by decide)
    exact Binary64.atLeast_ofFraction Nat.one_pos hten
  have hproduct := hnumber.mul hpower
  unfold scaled at hx
  dsimp only at hx
  rw [if_neg (by omega), Int.toNat_natCast] at hx
  split at hx
  · split at hx
    · cases hx
    · exact Option.some.inj hx ▸ hnumber
  · split at hx
    · cases hx
    · exact Option.some.inj hx ▸ hproduct

/-- A floating-point number that is large in its size stands for a number with its sign. -/
theorem standsFor_signed {x : Binary64} (hx : x.AtLeast (2 ^ 16))
    (hn : n < Wide.least ∨ Wide.greatest < n) :
    StandsFor n (.floating (signed (decide (n < 0)) x)) := by
  rcases hn with hbelow | habove
  · have hneg : n < 0 := Int.lt_trans hbelow (by decide)
    rw [decide_eq_true hneg]
    exact .below hbelow hx.isNegative_neg
  · have hpos : ¬n < 0 := Int.not_lt.2 (Int.le_trans (by decide) (Int.le_of_lt habove))
    rw [decide_eq_false hpos]
    exact .above habove hx

/-- What a whole number is read as stands for it, and only a number beyond 64 bits is refused. -/
theorem whole?_cases (n : Int) :
    (∃ s, whole? n = some s ∧ StandsFor n s) ∨ whole? n = none ∧ Wide.holds n ≠ true := by
  obtain ⟨taken, more, h⟩ := exists_collected n
  rw [h.whole?_eq]
  cases more with
  | nil =>
    refine .inl ⟨_, rfl, ?_⟩
    rw [h.ofDigits_taken]
    by_cases hn : Wide.holds n = true
    · rw [if_pos hn]
      exact .itself hn
    · rw [if_neg hn]
      have hbeyond := beyond_of_not_holds hn
      refine standsFor_signed (Binary64.atLeast_ofNat ?_) hbeyond
      unfold Wide.least Wide.greatest at hbeyond
      omega
  | cons c more =>
    obtain ⟨hbeyond, hlarge⟩ := h.beyond
    have hholds : Wide.holds n ≠ true := fun hn => by
      have := holds_iff.1 hn
      omega
    cases hscaled : scaled (ofDigits taken) _ with
    | none => exact .inr ⟨rfl, hholds⟩
    | some x => exact .inl ⟨_, rfl, standsFor_signed (atLeast_of_scaled hlarge hscaled) hbeyond⟩

/-! ### Reading it -/

theorem withPower_of_ends (hrest : Ends rest) (negative : Bool) (significand : Nat) (base : Int) :
    withPower negative significand base rest =
      (scaled significand base).map fun x => (.floating (signed negative x), rest) := by
  unfold withPower
  split
  case h_1 c cs =>
    rw [hrest.not_power, if_neg (by decide)]
    cases scaled significand base <;> rfl
  case h_2 => cases scaled significand base <;> rfl

theorem number_toString (hrest : Ends rest) (n : Int) :
    number ((toString n).toList ++ rest) = (whole? n).map fun s => (.scalar none s, rest) := by
  obtain ⟨taken, more, h⟩ := exists_collected n
  unfold number
  split
  rename_i negative cs hsign
  obtain ⟨rfl, rfl⟩ : decide (n < 0) = negative ∧ digitsOf n ++ rest = cs := by
    rw [← Prod.mk.injEq, ← readSign_toString n rest, ← hsign]
    split
    case h_1 heq =>
      rw [heq]
      rfl
    case h_2 hminus =>
      unfold Binary64.readSign
      split
      case h_1 heq => exact absurd heq (hminus _)
      case h_2 heq => exact absurd (head_toString_append heq) (by decide)
      case h_3 => rfl
  rw [h.collect_eq rest hrest]
  dsimp only
  rw [h.dropWhile_more hrest, h.not_zero_in_front, List.length_append, Nat.add_sub_cancel,
    h.whole?_eq]
  simp only [guard_of_pos h.length_pos, guard_of_pos Bool.not_false, Option.bind_eq_bind,
    Option.bind_some]
  have hend : (rest.head?.any fun c => c == 'e' || c == 'E') = false := by
    cases rest with
    | nil => rfl
    | cons c cs => exact hrest.not_power
  split
  case h_1 => exact absurd rfl (hrest.ne (by decide))
  case h_2 =>
    rw [hend, withPower_of_ends hrest]
    cases more with
    | nil =>
      have hsign : (decide (n < 0) && decide (n.natAbs = 0)) = false := by
        rw [Bool.and_eq_false_iff, decide_eq_false_iff_not, decide_eq_false_iff_not]
        omega
      rw [h.ofDigits_taken, signed_natAbs, hsign]
      cases Wide.holds n <;> rfl
    | cons c cs =>
      generalize scaled _ _ = x?
      cases x? <;> rfl

theorem scalar_toString (hrest : Ends rest) (n : Int) :
    scalar ((toString n).toList ++ rest) = (whole? n).map fun s => (.scalar none s, rest) := by
  unfold scalar
  split
  case h_1 heq => exact absurd (head_toString_append heq) (by decide)
  case h_2 heq => exact absurd (head_toString_append heq) (by decide)
  case h_3 heq => exact absurd (head_toString_append heq) (by decide)
  case h_4 heq => exact absurd (head_toString_append heq) (by decide)
  case h_5 => exact number_toString hrest n

/-! ### A document -/

theorem value_toString (hrest : Ends rest) (depth : Nat) (n : Int) :
    value depth ((toString n).toList ++ rest) =
      (whole? n).map fun s => (.scalar none s, rest) := by
  rw [← scalar_toString hrest]
  cases depth with
  | zero => rfl
  | succ depth =>
    unfold value
    split
    case h_1 heq => exact absurd (head_toString_append heq) (by decide)
    case h_2 heq => exact absurd (head_toString_append heq) (by decide)
    case h_3 => rfl

theorem blanks_toString (n : Int) (rest : List Char) :
    blanks ((toString n).toList ++ rest) = (toString n).toList ++ rest := by
  obtain ⟨c, cs, hcs, hc⟩ := exists_toString_append n rest
  rw [hcs]
  refine List.dropWhile_cons_of_neg ?_
  rw [hc.beq (by decide), hc.beq (by decide), hc.beq (by decide), hc.beq (by decide)]
  decide

/-- A table with one entry. -/
theorem value_entry {α : Type} {x? : Option α} {v : α → Value} {depth : Nat} {name : String}
    {cs inner : List Char} (hname : string ('"' :: cs) = some (name, ": ".toList ++ inner))
    (hblanks : blanks inner = inner)
    (hvalue : value depth inner = x?.map fun x => (v x, '\x7d' :: rest)) :
    value (depth + 1) ('\x7b' :: '"' :: cs) =
      x?.map fun x => (.table none [(name, v x)], rest) := by
  have hmember : member (value depth) ('"' :: cs) =
      x?.map fun x => ((name, v x), '\x7d' :: rest) := by
    have hcolon : mark ':' (blanks (": ".toList ++ inner)) = some (' ' :: inner) := rfl
    have hblank : blanks (' ' :: inner) = inner := hblanks
    simp only [member, hname, hcolon, hblank, hvalue, Option.bind_eq_bind, Option.bind_some]
    cases x? <;> rfl
  have hlisting : listing (some ∘ blanks) '\x7d' false (member (value depth)) ('"' :: cs) =
      x?.map fun x => ([(name, v x)], rest) := by
    have hskip : (some ∘ blanks) ('"' :: cs) = some ('"' :: cs) := rfl
    have hafter : (some ∘ blanks) ('\x7d' :: rest) = some ('\x7d' :: rest) := rfl
    exact listing_single hskip rfl hmember hafter (List.cons_ne_nil _ _)
  show (listing (some ∘ blanks) '\x7d' false (member (value depth)) ('"' :: cs)).bind _ = _
  rw [hlisting]
  cases x? <;> rfl

/-- A table with a number as the port of the server. -/
theorem read?_port (n : Int) :
    read? ("\x7b\"server\": \x7b\"port\": " ++ toString n ++ "\x7d\x7d\n") =
      (whole? n).map fun s => .table none [("server", .table none [("port", .scalar none s)])] := by
  have htext : ("\x7b\"server\": \x7b\"port\": " ++ toString n ++ "\x7d\x7d\n").toList =
      '\x7b' :: '"' :: ("server\": ".toList ++ ('\x7b' :: '"' :: ("port\": ".toList ++
        ((toString n).toList ++ ['\x7d', '\x7d', '\n'])))) := by
    simp only [String.toList_append, List.append_assoc]
    rfl
  have hport (cs : List Char) : string ('"' :: ("port\": ".toList ++ cs)) =
      some ("port", ": ".toList ++ cs) := rfl
  have hserver (cs : List Char) : string ('"' :: ("server\": ".toList ++ cs)) =
      some ("server", ": ".toList ++ cs) := rfl
  have hnumber := value_toString (ends_cons (c := '\x7d') (by decide) ['\x7d', '\n']) 125 n
  have hinner := value_entry (hport _) (blanks_toString n _) hnumber
  have houter := value_entry (hserver _) rfl hinner
  have hstart (cs : List Char) : blanks ('\x7b' :: cs) = '\x7b' :: cs := rfl
  unfold read? depthLimit
  rw [htext, hstart, houter]
  cases whole? n <;> rfl

end FileServer.Json
