import FileServer.Proofs.Letters
import FileServer.Proofs.Magnitudes
import FileServer.Proofs.Numerals
import FileServer.Settings.Environment
import Mathlib.Data.Option.Basic

/-!
Whole numbers as they are written in settings. Each way to give a setting has a reader of its own,
and what it takes a whole number for depends on the number alone:

    TOML, relaxed JSON     the number if it has 64 bits, else nothing
    YAML, RON, variables   the number if it has 64 bits, else the nearest floating-point number
    JSON                   as before, but nothing if it is beyond all floating-point numbers
    INI                    its text
-/

namespace FileServer

open Text

variable {n : Int} {c : Char} {cs ds rest : List Char} {p : Char → Bool}

/-! ### The digits of a whole number -/

/-- The digits of a whole number, without its sign. -/
def digitsOf (n : Int) : List Char := Nat.toDigits 10 n.natAbs

theorem ofDigits_digitsOf (n : Int) : ofDigits (digitsOf n) = n.natAbs := ofDigits_toDigits _

theorem isDigit_of_mem_digitsOf (h : c ∈ digitsOf n) : c.isDigit = true := isDigit_of_mem_toDigits h

theorem exists_digitsOf (n : Int) : ∃ c ds, digitsOf n = c :: ds :=
  List.exists_cons_of_ne_nil Nat.toDigits_ne_nil

/-- There is no zero in front of other digits. -/
theorem digitsOf_eq_zero_or (n : Int) : digitsOf n = ['0'] ∨ (digitsOf n).head? ≠ some '0' :=
  (toDigits_ofDigits_iff (fun _ h => isDigit_of_mem_digitsOf h) Nat.toDigits_ne_nil).1
    (by rw [ofDigits_digitsOf]; rfl)

theorem toList_toString_of_nonneg (h : 0 ≤ n) : (toString n).toList = digitsOf n := by
  obtain ⟨m, rfl⟩ := Int.eq_ofNat_of_zero_le h
  exact toList_toString_natCast m

theorem toList_toString_of_neg (h : n < 0) : (toString n).toList = '-' :: digitsOf n := by
  obtain ⟨m, rfl, hm⟩ : ∃ m : Nat, n = -(m : Int) ∧ 0 < m := ⟨n.natAbs, by omega, by omega⟩
  rw [toList_toString_neg hm, digitsOf, Int.natAbs_neg, Int.natAbs_natCast]

/-- A character with which whole numbers are written. -/
def InNumeral (c : Char) : Prop := c.isDigit = true ∨ c = '-'

instance (c : Char) : Decidable (InNumeral c) := inferInstanceAs (Decidable (_ ∨ _))

theorem InNumeral.ne {m : Char} (h : InNumeral c) (hm : ¬InNumeral m) : c ≠ m :=
  fun heq => hm (heq ▸ h)

theorem InNumeral.beq {m : Char} (h : InNumeral c) (hm : ¬InNumeral m) : (c == m) = false :=
  beq_false_of_ne (h.ne hm)

theorem inNumeral_of_mem (h : c ∈ (toString n).toList) : InNumeral c := by
  rcases Int.lt_or_le n 0 with hn | hn
  · rw [toList_toString_of_neg hn] at h
    exact (List.mem_cons.1 h).elim .inr fun h => .inl (isDigit_of_mem_digitsOf h)
  · rw [toList_toString_of_nonneg hn] at h
    exact .inl (isDigit_of_mem_digitsOf h)

/-- A number that is read from its digits behind its sign. -/
theorem signed_natAbs (n : Int) :
    (if decide (n < 0) = true then -(n.natAbs : Int) else n.natAbs) = n := by
  split
  case isTrue h =>
    have := of_decide_eq_true h
    omega
  case isFalse h =>
    have : ¬n < 0 := fun hn => h (decide_eq_true hn)
    omega

theorem readSign_of_isDigit (h : c.isDigit = true) :
    Binary64.readSign (c :: cs) = (false, c :: cs) := by
  unfold Binary64.readSign
  split
  case h_1 heq => exact absurd ((List.cons.inj heq).1 ▸ h) (by decide)
  case h_2 heq => exact absurd ((List.cons.inj heq).1 ▸ h) (by decide)
  case h_3 => rfl

theorem readSign_toString (n : Int) (rest : List Char) :
    Binary64.readSign ((toString n).toList ++ rest) = (decide (n < 0), digitsOf n ++ rest) := by
  rcases Int.lt_or_le n 0 with hn | hn
  · rw [toList_toString_of_neg hn, decide_eq_true hn]
    rfl
  · obtain ⟨c, ds, hds⟩ := exists_digitsOf n
    have hc : c.isDigit = true := isDigit_of_mem_digitsOf (hds ▸ List.mem_cons_self)
    rw [toList_toString_of_nonneg hn, hds, List.cons_append, readSign_of_isDigit hc,
      decide_eq_false (Int.not_lt.2 hn)]

/-- A whole number starts with a digit or with a minus sign and a digit. -/
theorem toString_cases (n : Int) : ∃ c ds, c.isDigit = true ∧
    ((toString n).toList = c :: ds ∨ (toString n).toList = '-' :: c :: ds) := by
  obtain ⟨c, ds, hds⟩ := exists_digitsOf n
  refine ⟨c, ds, isDigit_of_mem_digitsOf (hds ▸ List.mem_cons_self), ?_⟩
  rcases Int.lt_or_le n 0 with hn | hn
  · exact .inr (by rw [toList_toString_of_neg hn, hds])
  · exact .inl (by rw [toList_toString_of_nonneg hn, hds])

/-- Whether characters start as no whole number does. -/
def startsApart : List Char → Bool
  | c :: d :: _ => !c.isDigit && (c != '-' || !d.isDigit)
  | [c] => !c.isDigit && c != '-'
  | [] => false

theorem isPrefixOf_toString {w : List Char} (h : startsApart w = true) (n : Int)
    (rest : List Char) : w.isPrefixOf ((toString n).toList ++ rest) = false := by
  obtain ⟨c, ds, hc, hcases⟩ := toString_cases n
  have hne : ∀ x : Char, x.isDigit = false → (x == c) = false := fun x hx =>
    beq_false_of_ne fun heq => by rw [heq, hc] at hx; cases hx
  rcases hcases with hn | hn <;> rw [hn]
  all_goals
    match w, h with
    | [x], h =>
      simp only [startsApart, Bool.and_eq_true, Bool.not_eq_true', bne_iff_ne] at h
      simp [List.isPrefixOf, hne x h.1, h.2]
    | x :: y :: _, h =>
      simp only [startsApart, Bool.and_eq_true, Bool.not_eq_true', Bool.or_eq_true,
        bne_iff_ne] at h
      rcases h with ⟨hx, hx' | hy⟩
      · simp [List.isPrefixOf, hne x hx, hx']
      · simp [List.isPrefixOf, hne x hx, hne y hy]

/-! ### What follows a number -/

/-- Characters with which a number does not go on. -/
def endsNumber (c : Char) : Bool :=
  !(c.isAlphanum || c == '.' || c == '_' || c == '+' || c == '-' || c == ':')

/-- Characters that follow a number do not go on with it. -/
def Ends (rest : List Char) : Prop := ∀ c ∈ rest.head?, endsNumber c = true

theorem ends_nil : Ends [] := fun _ h => nomatch h

theorem ends_cons (h : endsNumber c = true) (cs : List Char) : Ends (c :: cs) := fun _ hd =>
  Option.some.inj hd ▸ h

/-- A class of characters with which a number may go on. -/
def GoesOn (p : Char → Bool) : Prop := ∀ c, endsNumber c = true → p c = false

theorem goesOn_isDigit : GoesOn Char.isDigit := fun c h => by
  simp only [endsNumber, Char.isAlphanum, Bool.not_eq_true', Bool.or_eq_false_iff] at h
  exact h.1.1.1.1.1.2

theorem Ends.ne {m : Char} (h : Ends (c :: cs)) (hm : endsNumber m = false) : c ≠ m := by
  rintro rfl
  have hc := h c rfl
  rw [hm] at hc
  cases hc

/-- No power of ten follows. -/
theorem Ends.not_power (h : Ends (c :: cs)) : (c == 'e' || c == 'E') = false := by
  rw [beq_false_of_ne (h.ne (by decide)), beq_false_of_ne (h.ne (by decide))]
  rfl

theorem Ends.span (hrest : Ends rest) (hp : GoesOn p) (hds : ∀ c ∈ ds, p c = true) :
    Text.span p (ds ++ rest) = (ds, rest) := by
  have hstop : rest.takeWhile p = [] ∧ rest.dropWhile p = rest := by
    cases rest with
    | nil => exact ⟨rfl, rfl⟩
    | cons c cs =>
      have hc : p c = false := hp c (hrest c rfl)
      exact ⟨List.takeWhile_cons_of_neg (by simp [hc]), List.dropWhile_cons_of_neg (by simp [hc])⟩
  rw [Text.span, List.takeWhile_append_of_pos hds, List.dropWhile_append_of_pos hds, hstop.1,
    hstop.2, List.append_nil]

theorem Ends.span_digitsOf (hrest : Ends rest) (n : Int) :
    Text.span Char.isDigit (digitsOf n ++ rest) = (digitsOf n, rest) :=
  hrest.span goesOn_isDigit fun _ => isDigit_of_mem_digitsOf

/-! ### The number itself and the nearest floating-point number -/

theorem readInt?_toString (low high n : Int) :
    readInt? low high (toString n) = if low ≤ n ∧ n ≤ high then some n else none := by
  have hall : (digitsOf n).all Char.isDigit = true :=
    List.all_eq_true.2 fun c hc => isDigit_of_mem_digitsOf hc
  have hne : (digitsOf n).isEmpty = false := by
    obtain ⟨c, ds, hds⟩ := exists_digitsOf n
    rw [hds]
    rfl
  have hsigned := readSign_toString n []
  rw [List.append_nil, List.append_nil] at hsigned
  unfold readInt?
  split
  rename_i negative digits hread
  obtain ⟨rfl, rfl⟩ : decide (n < 0) = negative ∧ digitsOf n = digits := by
    rw [← Prod.mk.injEq, ← hsigned, ← hread]
    generalize (toString n).toList = cs
    split
    case h_1 => rfl
    case h_2 => rfl
    case h_3 hplus hminus =>
      unfold Binary64.readSign
      split
      case h_1 rest => exact absurd rfl (hminus rest)
      case h_2 rest => exact absurd rfl (hplus rest)
      case h_3 => rfl
  dsimp only
  rw [hall, hne, ofDigits_digitsOf, signed_natAbs]
  rfl

theorem holds_iff : Wide.holds n = true ↔ Wide.least ≤ n ∧ n ≤ Wide.greatest := by
  rw [Wide.holds, Bool.and_eq_true, decide_eq_true_iff, decide_eq_true_iff]

theorem read?_toString (n : Int) :
    Wide.read? (toString n) = if Wide.holds n then some n else none := by
  rw [Wide.read?, readInt?_toString]
  simp only [holds_iff]

/-- The floating-point number nearest to a whole number. -/
def nearestTo (n : Int) : Binary64 := .ofDecimal (decide (n < 0)) n.natAbs 0

/-- The decimal form of a whole number is read, and nothing behind it. -/
theorem readDecimal_toString (hrest : Ends rest) (n : Int) :
    ∃ d : Binary64.Decimal, Binary64.readDecimal ((toString n).toList ++ rest) = some (d, rest) ∧
      d.value = nearestTo n ∧ d.whole = digitsOf n := by
  obtain ⟨c, ds, hds⟩ := exists_digitsOf n
  refine ⟨⟨decide (n < 0), digitsOf n, [], 0⟩, ?_, ?_, rfl⟩
  · have hpower : Binary64.readPower rest = some (0, rest) := by
      unfold Binary64.readPower
      split
      case h_1 c cs =>
        rw [hrest.not_power]
        rfl
      case h_2 => rfl
    unfold Binary64.readDecimal
    rw [readSign_toString]
    dsimp only
    rw [hrest.span_digitsOf]
    dsimp only
    split
    case h_1 => exact absurd rfl (hrest.ne (by decide))
    case h_2 =>
      dsimp only
      rw [hpower, hds]
      rfl
  · rw [Binary64.Decimal.value, nearestTo]
    simp [ofDigits_digitsOf]

theorem toString_ne {w : String} (h : startsApart w.toList = true) (n : Int) :
    toString n ≠ w := by
  rintro rfl
  have hself := isPrefixOf_toString h n []
  rw [List.append_nil, List.isPrefixOf_iff_prefix.2 (List.prefix_refl _)] at hself
  cases hself

/-- Only a number without a sign is read as one. -/
theorem readNatural?_toString (n : Int) : Wide.readNatural? (toString n) =
    if 0 ≤ n ∧ n ≤ Wide.greatestNatural then some n.toNat else none := by
  unfold Wide.readNatural?
  rcases Int.lt_or_le n 0 with hn | hn
  · rw [if_neg (by omega)]
    unfold readNat?
    rw [toList_toString_of_neg hn]
    rfl
  · obtain ⟨m, rfl⟩ := Int.eq_ofNat_of_zero_le hn
    rw [show toString (m : Int) = toString m from rfl, readNat?_toString_eq]
    simp only [Int.toNat_natCast, Int.ofNat_le, hn, true_and]

theorem toLower_of_isDigit (h : c.isDigit = true) : c.toLower = c := by
  have hbounds := toNat_of_isDigit h
  unfold Char.toLower
  split
  case isTrue hcapital =>
    have := UInt32.le_iff_toNat_le.1 hcapital.1
    have hA : 'A'.val.toNat = 65 := rfl
    have hc : c.val.toNat = c.toNat := rfl
    omega
  case isFalse => rfl

theorem toLower_digitsOf (n : Int) : (digitsOf n).map Char.toLower = digitsOf n :=
  (List.map_congr_left fun _ hc => toLower_of_isDigit (isDigit_of_mem_digitsOf hc)).trans
    (List.map_id _)

theorem ofText?_toString (n : Int) : Binary64.ofText? (toString n) = some (nearestTo n) := by
  have hsigned := readSign_toString n []
  rw [List.append_nil, List.append_nil] at hsigned
  obtain ⟨d, hread, hvalue, -⟩ := readDecimal_toString ends_nil n
  rw [List.append_nil] at hread
  -- the digits alone are no name either
  have hname : String.ofList ((digitsOf n).map Char.toLower) = toString (n.natAbs : Int) := by
    rw [toLower_digitsOf, ← String.toList_inj, String.toList_ofList, toList_toString_natCast]
    rfl
  unfold Binary64.ofText?
  rw [hsigned, hread]
  dsimp only
  rw [hname, hvalue]
  split
  case h_1 heq => exact absurd heq (toString_ne (by decide) _)
  case h_2 heq => exact absurd heq (toString_ne (by decide) _)
  case h_3 heq => exact absurd heq (toString_ne (by decide) _)
  case h_4 => rfl

/-! ### What a whole number is taken for -/

/-- What a whole number may be taken for: the number itself, its text, or, if it has more than 64
bits, a floating-point number on its side. -/
inductive StandsFor (n : Int) : Scalar → Prop
  | itself (h : Wide.holds n = true) : StandsFor n (.integer n)
  | text : StandsFor n (.string (toString n))
  | below {x : Binary64} (h : n < Wide.least) (hx : x.IsNegative) : StandsFor n (.floating x)
  | above {x : Binary64} (h : Wide.greatest < n) (hx : x.AtLeast (2 ^ 16)) :
    StandsFor n (.floating x)

/-- The whole number if it has 64 bits. -/
def held? (n : Int) : Option Scalar := if Wide.holds n then some (.integer n) else none

/-- The whole number if it has 64 bits, or else the floating-point number nearest to it. -/
def rounded (n : Int) : Scalar :=
  if Wide.holds n then .integer n else .floating (nearestTo n)

theorem beyond_of_not_holds (h : Wide.holds n ≠ true) : n < Wide.least ∨ Wide.greatest < n := by
  rw [Ne, holds_iff] at h
  omega

theorem standsFor_rounded (n : Int) : StandsFor n (rounded n) := by
  unfold rounded
  split
  case isTrue h => exact .itself h
  case isFalse h =>
    rcases beyond_of_not_holds h with hbelow | habove
    · refine .below hbelow ?_
      have hneg : n < 0 := Int.lt_trans hbelow (by decide)
      rw [nearestTo, decide_eq_true hneg]
      exact Binary64.isNegative_ofDecimal _ _
    · refine .above habove ?_
      have hpos : ¬n < 0 := Int.not_lt.2 (Int.le_trans (by decide) (Int.le_of_lt habove))
      rw [nearestTo, decide_eq_false hpos]
      refine Binary64.atLeast_ofDecimal ?_
      unfold Wide.greatest at habove
      omega

theorem standsFor_of_held? {s : Scalar} (h : held? n = some s) : StandsFor n s := by
  unfold held? at h
  split at h
  case isTrue hn => exact Option.some.inj h ▸ .itself hn
  case isFalse => cases h

theorem not_holds_of_held? (h : held? n = none) : Wide.holds n ≠ true := by
  intro hn
  rw [held?, if_pos hn] at h
  cases h

/-! ### Variables -/

theorem lower_toString (n : Int) : lower (toString n) = toString n := by
  have hplain : ∀ c ∈ (toString n).toList, c.toNat < 128 ∧ c.toLower = c := by
    intro c hc
    rcases inNumeral_of_mem hc with hdigit | rfl
    · have hbounds := toNat_of_isDigit hdigit
      exact ⟨by omega, toLower_of_isDigit hdigit⟩
    · decide
  refine lower_small (fun c hc => (hplain c hc).1) ?_
  exact (List.map_congr_left fun c hc => (hplain c hc).2).trans (List.map_id _)

/-- A whole number in the environment. -/
theorem scalarOf_toString (n : Int) : Environment.scalarOf (toString n) = rounded n := by
  unfold Environment.scalarOf rounded
  rw [lower_toString, read?_toString]
  split
  case h_1 heq => exact absurd heq (toString_ne (by decide) n)
  case h_2 heq => exact absurd heq (toString_ne (by decide) n)
  case h_3 =>
    by_cases hn : Wide.holds n = true
    · rw [if_pos hn, if_pos hn]
    · rw [if_neg hn, if_neg hn, ofText?_toString]

/-! ### The first two characters -/

theorem digitsOf_append_ne (hrest : Ends rest) {a m : Char} (hm : m.isDigit = false)
    (hm' : endsNumber m = false) (n : Int) (cs : List Char) :
    digitsOf n ++ rest ≠ a :: m :: cs := by
  intro h
  obtain ⟨c, ds, hds⟩ := exists_digitsOf n
  rw [hds, List.cons_append] at h
  have htail := (List.cons.inj h).2
  cases ds with
  | nil =>
    obtain rfl : rest = m :: cs := htail
    exact hrest.ne hm' rfl
  | cons d ds =>
    obtain rfl := (List.cons.inj htail).1
    have hd : d.isDigit = true := isDigit_of_mem_digitsOf (n := n) (by simp [hds])
    rw [hm] at hd
    cases hd

/-- Behind a digit at the front stands a digit or the end of the number. -/
theorem toString_append_ne (hrest : Ends rest) {a m : Char} (ha : a ≠ '-') (hm : m.isDigit = false)
    (hm' : endsNumber m = false) (n : Int) (cs : List Char) :
    (toString n).toList ++ rest ≠ a :: m :: cs := by
  rcases Int.lt_or_le n 0 with hn | hn
  · rw [toList_toString_of_neg hn]
    exact fun h => ha (List.cons.inj h).1.symm
  · rw [toList_toString_of_nonneg hn]
    exact digitsOf_append_ne hrest hm hm' n cs

theorem exists_toString_append (n : Int) (rest : List Char) :
    ∃ c cs, (toString n).toList ++ rest = c :: cs ∧ InNumeral c := by
  obtain ⟨c, cs, hc, hn | hn⟩ := toString_cases n
  · exact ⟨c, cs ++ rest, by rw [hn]; rfl, .inl hc⟩
  · exact ⟨'-', c :: cs ++ rest, by rw [hn]; rfl, .inr rfl⟩

theorem head_toString_append (h : (toString n).toList ++ rest = c :: cs) : InNumeral c := by
  obtain ⟨d, ds, hds, hd⟩ := exists_toString_append n rest
  rw [hds] at h
  exact (List.cons.inj h).1 ▸ hd

/-! ### Digits of other bases -/

theorem hexValue?_of_isDigit (h : c.isDigit = true) :
    hexValue? c = some (c.toNat - '0'.toNat) ∧ c.toNat - '0'.toNat < 10 :=
  ⟨if_pos h, (digitChar_of_isDigit h).2⟩

/-- Decimal digits are digits of any base above nine. -/
theorem foldlM_hexValue? (hds : ∀ c ∈ ds, c.isDigit = true) (start : Nat) :
    ds.foldlM (fun n c => do
      let d ← hexValue? c
      if d < 10 then some (n * 10 + d) else none) start =
      some (ds.foldl (fun n c => n * 10 + (c.toNat - '0'.toNat)) start) := by
  induction ds generalizing start with
  | nil => rfl
  | cons c ds ih =>
    obtain ⟨hvalue, hlt⟩ := hexValue?_of_isDigit (hds c List.mem_cons_self)
    rw [List.foldlM_cons, hvalue]
    simp only [Option.bind_eq_bind, Option.bind_some, if_pos hlt]
    exact ih (fun c hc => hds c (List.mem_cons_of_mem _ hc)) _

end FileServer
