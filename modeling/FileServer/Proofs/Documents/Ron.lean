import FileServer.Proofs.Documents.Listing
import FileServer.Proofs.Refusals
import FileServer.Proofs.WholeNumbers
import FileServer.Settings.Ron.Document

/-!
Whole numbers in the object notation with round brackets. One that has 64 bits is read as it is, and
any other one as the nearest floating-point number.
-/

namespace FileServer.Ron

open Text

variable {n : Int} {c : Char} {rest : List Char}

/-! ### Numbers -/

theorem isAlphanum_of_hexValue? (h : (hexValue? c).isSome = true) : c.isAlphanum = true := by
  unfold hexValue? at h
  split at h
  case isTrue hdigit => rw [Char.isAlphanum, hdigit, Bool.or_true]
  split at h
  case isTrue hsmall =>
    have hlow : c.val ≥ 'a'.val := hsmall.1
    have hhigh : c.val ≤ 'z'.val := UInt32.le_trans hsmall.2 (by decide)
    have hlower : c.isLower = true :=
      Bool.and_eq_true_iff.2 ⟨decide_eq_true hlow, decide_eq_true hhigh⟩
    show ((c.isUpper || c.isLower) || c.isDigit) = true
    rw [hlower, Bool.or_true]
    rfl
  split at h
  case isTrue hcapital =>
    have hhigh : c.val ≤ 'Z'.val := UInt32.le_trans hcapital.2 (by decide)
    have hupper : c.isUpper = true := decide_eq_true ⟨hcapital.1, hhigh⟩
    show ((c.isUpper || c.isLower) || c.isDigit) = true
    rw [hupper]
    rfl
  case isFalse => cases h

theorem goesOn_isWholeChar : GoesOn isWholeChar := fun c h => by
  cases hwhole : isWholeChar c with
  | false => rfl
  | true =>
    rw [isWholeChar, Bool.or_eq_true, beq_iff_eq] at hwhole
    rcases hwhole with hhex | rfl
    · rw [endsNumber, isAlphanum_of_hexValue? hhex] at h
      cases h
    · exact absurd h (by decide)

theorem goesOn_isFloatingChar : GoesOn isFloatingChar := fun c h => by
  have hdigit := goesOn_isDigit c h
  have hne : ∀ m, endsNumber m = false → (c == m) = false := fun m hm =>
    beq_false_of_ne (by rintro rfl; rw [hm] at h; cases h)
  simp only [isFloatingChar, hdigit, hne 'e' (by decide), hne 'E' (by decide), hne '.' (by decide),
    hne '+' (by decide), hne '-' (by decide), hne '_' (by decide), Bool.or_false]

theorem isWholeChar_of_isDigit (h : c.isDigit = true) : isWholeChar c = true := by
  rw [isWholeChar, (hexValue?_of_isDigit h).1]
  rfl

theorem span_isWholeChar (hrest : Ends rest) (n : Int) :
    span isWholeChar (digitsOf n ++ rest) = (digitsOf n, rest) :=
  hrest.span goesOn_isWholeChar fun _ hc => isWholeChar_of_isDigit (isDigit_of_mem_digitsOf hc)

theorem isFloatingChar_of_isDigit (h : c.isDigit = true) : isFloatingChar c = true := by
  simp only [isFloatingChar, h, Bool.true_or]

theorem boundedWord_toString {w : String} (h : startsApart w.toList = true) (n : Int)
    (rest : List Char) : boundedWord w ((toString n).toList ++ rest) = none := by
  rw [boundedWord, word, isPrefixOf_toString h]
  rfl

theorem ofGrouped?_digitsOf (n : Int) : ofGrouped? 10 (digitsOf n) = some n.natAbs := by
  have hfold := foldlM_hexValue? (fun c hc => isDigit_of_mem_digitsOf (n := n) hc) 0
  rw [← ofDigits, ofDigits_digitsOf] at hfold
  have hplain : ∀ c ∈ digitsOf n, c ≠ '_' := by
    rintro c hc rfl
    exact absurd (isDigit_of_mem_digitsOf hc) (by decide)
  have hfilter : (digitsOf n).filter (· != '_') = digitsOf n :=
    List.filter_eq_self.2 fun c hc => by simpa using hplain c hc
  obtain ⟨c, ds, hds⟩ := exists_digitsOf n
  have hhead : ((digitsOf n).isEmpty || (digitsOf n).head? == some '_') = false := by
    rw [hds]
    exact beq_false_of_ne fun h => hplain c (hds ▸ List.mem_cons_self) (Option.some.inj h)
  rw [ofGrouped?, hhead, hfilter]
  exact hfold

theorem base_digitsOf (hrest : Ends rest) (n : Int) :
    base (digitsOf n ++ rest) = (10, digitsOf n ++ rest) := by
  unfold base
  split
  case h_1 heq => exact absurd heq (digitsOf_append_ne hrest (by decide) (by decide) n _)
  case h_2 heq => exact absurd heq (digitsOf_append_ne hrest (by decide) (by decide) n _)
  case h_3 heq => exact absurd heq (digitsOf_append_ne hrest (by decide) (by decide) n _)
  case h_4 => rfl

theorem floating_toString (hrest : Ends rest) (n : Int) :
    floating ((toString n).toList ++ rest) = some (.floating (nearestTo n), rest) := by
  have hspan : span isFloatingChar ((toString n).toList ++ rest) = ((toString n).toList, rest) :=
    hrest.span goesOn_isFloatingChar fun c hc => by
      rcases inNumeral_of_mem hc with hdigit | rfl
      · exact isFloatingChar_of_isDigit hdigit
      · rfl
  rw [floating, List.findSome?_eq_none_iff.2]
  · dsimp only
    rw [hspan]
    dsimp only
    rw [String.ofList_toList, ofText?_toString]
    rfl
  · rintro ⟨w, x⟩ hmem
    have hapart : ∀ p ∈ unbounded, startsApart p.1.toList = true := by decide
    dsimp only
    rw [boundedWord_toString (hapart _ hmem)]
    rfl

/-- A number of 64 bits without a sign is rounded as any other one. -/
theorem unsigned_natAbs (hn : 0 ≤ n) (hfits : n.natAbs ≤ Wide.greatestNatural) :
    unsigned n.natAbs = .scalar none (rounded n) := by
  have hcast : (n.natAbs : Int) = n := by omega
  rw [unsigned, hcast, rounded]
  by_cases hholds : Wide.holds n = true
  · rw [if_pos hholds, if_pos hholds]
    rfl
  · have hpositive : 0 < n.natAbs := by
      refine Nat.pos_of_ne_zero fun hzero => hholds ?_
      rw [Int.natAbs_eq_zero.1 hzero]
      decide
    have hlt : n.natAbs < 10 ^ 20 := Nat.lt_of_le_of_lt hfits (by decide)
    have hlength : (Nat.toDigits 10 n.natAbs).length ≤ 20 :=
      (Nat.length_toDigits_le_iff (by omega) (by omega)).2 hlt
    rw [if_neg hholds, if_neg hholds, nearestTo, decide_eq_false (Int.not_lt.2 hn),
      Binary64.ofDecimal_eq_ofNat hpositive (by omega)]
    rfl

/-- What is refused as a whole number is read as a floating-point number. -/
theorem whole_or_toString (hrest : Ends rest) (n : Int) :
    (whole ((toString n).toList ++ rest)).or (some (.floating (nearestTo n), rest)) =
      some (.scalar none (rounded n), rest) := by
  have hspan := span_isWholeChar hrest n
  unfold whole
  rw [readSign_toString]
  dsimp only
  rw [base_digitsOf hrest]
  dsimp only
  rw [hspan]
  simp only [ofGrouped?_digitsOf, Option.bind_eq_bind, Option.bind_some, signed_natAbs]
  split
  case h_1 heq => exact absurd (head_toString_append heq) (by decide)
  case h_2 =>
    unfold rounded
    cases Wide.holds n <;> rfl
  case h_3 _ hminus =>
    have hn : 0 ≤ n := by
      refine Int.not_lt.1 fun hn => ?_
      rw [toList_toString_of_neg hn] at hminus
      exact hminus _ rfl
    by_cases hfits : n.natAbs ≤ Wide.greatestNatural
    · rw [guard_of_pos hfits, unsigned_natAbs hn hfits]
      rfl
    · have hholds : ¬Wide.holds n = true := by
        rw [holds_iff]
        unfold Wide.least Wide.greatest
        unfold Wide.greatestNatural at hfits
        omega
      rw [guard_of_neg hfits, rounded, if_neg hholds]
      rfl

theorem number_toString (hrest : Ends rest) (n : Int) :
    number ((toString n).toList ++ rest) = some (.scalar none (rounded n), rest) := by
  have hwhole := span_isWholeChar hrest n
  have hfloating : span isFloatingChar (digitsOf n ++ rest) = (digitsOf n, rest) :=
    hrest.span goesOn_isFloatingChar fun c hc =>
      isFloatingChar_of_isDigit (isDigit_of_mem_digitsOf hc)
  -- the longer of the two runs of characters decides, and both are the digits
  unfold number
  rw [readSign_toString]
  dsimp only
  rw [show (digitsOf n ++ rest).takeWhile isWholeChar = digitsOf n from congrArg Prod.fst hwhole,
    show (digitsOf n ++ rest).takeWhile isFloatingChar = digitsOf n from
      congrArg Prod.fst hfloating,
    if_neg (Nat.lt_irrefl _), floating_toString hrest, whole_or_toString hrest]

theorem wordValue_toString (n : Int) (rest : List Char) :
    wordValue ((toString n).toList ++ rest) = none := by
  rw [wordValue, List.findSome?_eq_none_iff]
  rintro ⟨w, v⟩ hmem
  have hapart : ∀ p ∈ wordValues.map (·.1), startsApart p.toList = true := by decide
  dsimp only
  rw [boundedWord_toString (hapart w (List.mem_map_of_mem hmem))]
  rfl

theorem isAlpha_of_isDigit (h : c.isDigit = true) : c.isAlpha = false := by
  have hbounds := toNat_of_isDigit h
  cases halpha : c.isAlpha with
  | false => rfl
  | true =>
    have hvalue : c.val.toNat = c.toNat := rfl
    have hA : 'A'.val.toNat = 65 := rfl
    have ha : 'a'.val.toNat = 97 := rfl
    rcases Bool.or_eq_true_iff.1 halpha with hupper | hlower
    · have := UInt32.le_iff_toNat_le.1 (of_decide_eq_true hupper).1
      omega
    · have := UInt32.le_iff_toNat_le.1 (of_decide_eq_true (Bool.and_eq_true_iff.1 hlower).1)
      omega

theorem name_toString (n : Int) (rest : List Char) : name ((toString n).toList ++ rest) = none := by
  unfold name
  split
  case h_1 heq => exact absurd (head_toString_append heq) (by decide)
  case h_2 heq => exact absurd (head_toString_append heq) (by decide)
  case h_3 heq =>
    rcases head_toString_append heq with hdigit | rfl
    · rw [isAlpha_of_isDigit hdigit,
        beq_false_of_ne (by rintro rfl; exact absurd hdigit (by decide))]
      rfl
    · rfl
  case h_4 => rfl

theorem leaf_toString (hrest : Ends rest) (n : Int) :
    leaf ((toString n).toList ++ rest) = some (.scalar none (rounded n), rest) := by
  rw [← number_toString hrest]
  unfold leaf
  rw [wordValue_toString, name_toString]
  show Option.or none _ = _
  rw [Option.none_or]
  split
  case h_1 heq => exact absurd (head_toString_append heq) (by decide)
  case h_2 heq => exact absurd (head_toString_append heq) (by decide)
  case h_3 heq => exact absurd (head_toString_append heq) (by decide)
  case h_4 heq => exact absurd (head_toString_append heq) (by decide)
  case h_5 heq =>
    refine if_pos ?_
    rcases head_toString_append heq with hdigit | rfl
    · rw [hdigit]
      rfl
    · rfl
  case h_6 heq =>
    obtain ⟨c, ds, -, hn | hn⟩ := toString_cases n <;> rw [hn] at heq <;> cases heq

/-! ### A document -/

theorem value_toString (hrest : Ends rest) (bare : Bool) (depth : Nat) (n : Int) :
    value bare depth ((toString n).toList ++ rest) = some (.scalar none (rounded n), rest) := by
  have hover : ∀ inner marked, valueOver bare inner marked ((toString n).toList ++ rest) =
      leaf ((toString n).toList ++ rest) := by
    intro inner marked
    unfold valueOver
    rw [wordValue_toString, boundedWord_toString (by decide), name_toString]
    split
    case h_1 heq => exact absurd (head_toString_append heq) (by decide)
    case h_2 heq => exact absurd (head_toString_append heq) (by decide)
    case h_3 heq => exact absurd (head_toString_append heq) (by decide)
    case h_4 heq => exact absurd (head_toString_append heq) (by decide)
    case h_5 => rfl
  rw [← leaf_toString hrest]
  match depth with
  | 0 => rfl
  | 1 => exact hover _ _
  | _ + 2 => exact hover _ _

theorem gap_toString (n : Int) (rest : List Char) :
    gap ((toString n).toList ++ rest) = some ((toString n).toList ++ rest) := by
  obtain ⟨c, cs, hcs, hc⟩ := exists_toString_append n rest
  rw [hcs]
  have hslash : c ≠ '/' := hc.ne (by decide)
  have hblank : isBlank c = false := by
    rw [isBlank, hc.beq (by decide), hc.beq (by decide), hc.beq (by decide), hc.beq (by decide)]
    rfl
  simp [gap, gapFrom, hslash, hblank]

/-- A group with one named part. -/
theorem value_entry {v : Value} {bare : Bool} {depth : Nat} {key : String} {c : Char}
    {cs inner : List Char} (hclose : c ≠ ')') (hstart : gap (c :: cs) = some (c :: cs))
    (hname : name (c :: cs) = some (key, ": ".toList ++ inner)) (hgap : gap inner = some inner)
    (hvalue : value bare depth inner = some (v, ')' :: rest)) :
    value bare (depth + 2) ('(' :: c :: cs) = some (.table none [(key, v)], rest) := by
  have hcolon : gap (": ".toList ++ inner) = some (": ".toList ++ inner) := rfl
  have hinner : gap (' ' :: inner) = some inner := hgap
  have hpart : part (value bare depth) (c :: cs) =
      (some ()).map fun _ => ((key, v), ')' :: rest) := by
    have hmark : mark ':' (": ".toList ++ inner) = some (' ' :: inner) := rfl
    simp only [part, hname, hcolon, hmark, hinner, hvalue, Option.bind_eq_bind, Option.bind_some]
    rfl
  have hlisting : listing gap ')' true (part (value bare depth)) (c :: cs) =
      (some ()).map fun _ => ([(key, v)], rest) :=
    listing_single hstart (mark_of_ne hclose _) hpart rfl (List.cons_ne_nil _ _)
  have hgroup : group (value bare depth) (c :: cs) = some (.table none [(key, v)], rest) := by
    simp only [group, hstart, hname, hcolon, hlisting, Option.bind_eq_bind, Option.bind_some]
    rfl
  show valueOver bare (value bare depth) (value bare (depth + 1)) _ = _
  rw [← hgroup]
  unfold valueOver
  split
  case h_1 heq => exact absurd (List.cons.inj (List.cons.inj heq).2).1 hclose
  case h_2 heq => rw [(List.cons.inj heq).2]
  case h_3 heq => exact absurd (List.cons.inj heq).1 (by decide)
  case h_4 heq => exact absurd (List.cons.inj heq).1 (by decide)
  case h_5 hgroup _ _ => exact absurd rfl (hgroup _)

/-- A group with a number as the port of the server. -/
theorem read?_port (n : Int) :
    read? ("(server: (port: " ++ toString n ++ "))\n") =
      some (.table none [("server", .table none [("port", .scalar none (rounded n))])]) := by
  have htext : ("(server: (port: " ++ toString n ++ "))\n").toList =
      '(' :: 's' :: ("erver: ".toList ++ ('(' :: 'p' :: ("ort: ".toList ++
        ((toString n).toList ++ [')', ')', '\n'])))) := by
    simp only [String.toList_append, List.append_assoc]
    rfl
  have hport (cs : List Char) : name ('p' :: ("ort: ".toList ++ cs)) =
      some ("port", ": ".toList ++ cs) := rfl
  have hserver (cs : List Char) : name ('s' :: ("erver: ".toList ++ cs)) =
      some ("server", ": ".toList ++ cs) := rfl
  have hread : value false (124 + 2 + 2) _ = _ :=
    value_entry (by decide) rfl (hserver _) rfl (value_entry (by decide) rfl (hport _)
      (gap_toString n _)
      (value_toString (ends_cons (c := ')') (by decide) [')', '\n']) false 124 n))
  have hstart (cs : List Char) : gap ('(' :: cs) = some ('(' :: cs) := rfl
  have hswitches (fuel : Nat) (cs : List Char) :
      allSwitches fuel ('(' :: cs) = some ([], '(' :: cs) := by
    cases fuel <;> rfl
  unfold read? depthLimit
  rw [htext, hstart]
  simp only [Option.bind_eq_bind, Option.bind_some, hswitches]
  rw [show List.contains [] Switch.barePresence = false from rfl, hread]
  rfl

end FileServer.Ron
