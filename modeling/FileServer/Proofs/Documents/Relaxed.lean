import FileServer.Proofs.Documents.Listing
import FileServer.Proofs.WholeNumbers
import FileServer.Settings.Json.Relaxed

/-!
Whole numbers in the relaxed form of JSON. One that has 64 bits is read as it is, and any other one
is refused.
-/

namespace FileServer.Json.Relaxed

open Text

variable {n : Int} {rest : List Char}

/-! ### Numbers -/

theorem decimalValue?_toString (n : Int) (d : Binary64.Decimal) :
    decimalValue? (toString n).toList d = (held? n).map (.scalar none) := by
  have hnone : ((toString n).toList.any fun c => c == '.' || c == 'e' || c == 'E') = false := by
    rw [List.any_eq_false]
    intro c hc
    have hnumeral := inNumeral_of_mem hc
    rw [hnumeral.beq (by decide), hnumeral.beq (by decide), hnumeral.beq (by decide)]
    decide
  rw [decimalValue?, hnone, String.ofList_toList, read?_toString, held?]
  cases Wide.holds n <;> rfl

theorem number_toString (hrest : Ends rest) (n : Int) :
    number ((toString n).toList ++ rest) = (held? n).map fun s => (.scalar none s, rest) := by
  obtain ⟨c, ds, hds⟩ := exists_digitsOf n
  have hc : c.isDigit = true := isDigit_of_mem_digitsOf (hds ▸ List.mem_cons_self)
  obtain ⟨d, hread, -, hwhole⟩ := readDecimal_toString hrest n
  have hzero : ((decide (1 < d.whole.length)) && d.whole.head? == some '0') = false := by
    rw [hwhole, Bool.and_eq_false_iff]
    rcases digitsOf_eq_zero_or n with hzero | hhead
    · exact .inl (by rw [hzero]; rfl)
    · exact .inr (beq_false_of_ne hhead)
  have htake : ((toString n).toList ++ rest).take
      (((toString n).toList ++ rest).length - rest.length) = (toString n).toList := by
    rw [List.length_append, Nat.add_sub_cancel, List.take_left]
  unfold number
  rw [readSign_toString]
  dsimp only
  split
  case h_1 heq =>
    rw [hds] at heq
    exact absurd ((List.cons.inj heq).1 ▸ hc) (by decide)
  case h_2 heq =>
    rw [hds] at heq
    exact absurd ((List.cons.inj heq).1 ▸ hc) (by decide)
  case h_3 heq => exact absurd heq (digitsOf_append_ne hrest (by decide) (by decide) n _)
  case h_4 heq => exact absurd heq (digitsOf_append_ne hrest (by decide) (by decide) n _)
  case h_5 =>
    rw [hread]
    simp only [Option.bind_eq_bind, Option.bind_some, hzero, htake, decimalValue?_toString]
    cases held? n <;> rfl

theorem scalar_toString (hrest : Ends rest) (n : Int) :
    scalar ((toString n).toList ++ rest) = (held? n).map fun s => (.scalar none s, rest) := by
  unfold scalar
  split
  case h_1 heq => exact absurd (head_toString_append heq) (by decide)
  case h_2 heq => exact absurd (head_toString_append heq) (by decide)
  case h_3 heq => exact absurd (head_toString_append heq) (by decide)
  case h_4 heq => exact absurd (head_toString_append heq) (by decide)
  case h_5 heq => exact absurd (head_toString_append heq) (by decide)
  case h_6 => exact number_toString hrest n

/-! ### A document -/

theorem value_toString (hrest : Ends rest) (depth : Nat) (n : Int) :
    value depth ((toString n).toList ++ rest) =
      (held? n).map fun s => (.scalar none s, rest) := by
  rw [← scalar_toString hrest]
  cases depth with
  | zero => rfl
  | succ depth =>
    unfold value
    split
    case h_1 heq => exact absurd (head_toString_append heq) (by decide)
    case h_2 heq => exact absurd (head_toString_append heq) (by decide)
    case h_3 => rfl

theorem isBlank_of_inNumeral {c : Char} (h : InNumeral c) : isBlank c = false := by
  rcases h with hdigit | rfl
  · have hbounds := toNat_of_isDigit hdigit
    unfold isBlank
    simp only [Bool.or_eq_false_iff, Bool.and_eq_false_iff, decide_eq_false_iff_not,
      beq_eq_false_iff_ne]
    omega
  · rfl

theorem gap_toString (n : Int) (rest : List Char) :
    gap ((toString n).toList ++ rest) = some ((toString n).toList ++ rest) := by
  obtain ⟨c, cs, hcs, hc⟩ := exists_toString_append n rest
  rw [hcs]
  have hslash : c ≠ '/' := hc.ne (by decide)
  unfold gap gapFrom
  split
  case h_1 heq => exact absurd (List.cons.inj heq).1 hslash
  case h_2 heq => exact absurd (List.cons.inj heq).1 hslash
  case h_3 heq =>
    obtain ⟨rfl, rfl⟩ := List.cons.inj heq
    rw [isBlank_of_inNumeral hc]
    rfl
  all_goals contradiction

/-- A table with one entry. -/
theorem value_entry {α : Type} {x? : Option α} {v : α → Value} {depth : Nat} {key : String}
    {cs inner : List Char} (hname : name ('"' :: cs) = some (key, ": ".toList ++ inner))
    (hgap : gap inner = some inner)
    (hvalue : value depth inner = x?.map fun x => (v x, '\x7d' :: rest)) :
    value (depth + 1) ('\x7b' :: '"' :: cs) =
      x?.map fun x => (.table none [(key, v x)], rest) := by
  have hmember : member (value depth) ('"' :: cs) =
      x?.map fun x => ((key, v x), '\x7d' :: rest) := by
    have hcolon : (gap (": ".toList ++ inner)).bind (mark ':') = some (' ' :: inner) := rfl
    have hinner : gap (' ' :: inner) = some inner := hgap
    simp only [member, hname, Option.bind_eq_bind, Option.bind_some]
    rw [← Option.bind_assoc, hcolon, Option.bind_some, hinner, Option.bind_some, hvalue]
    cases x? <;> rfl
  have hlisting : listing gap '\x7d' true (member (value depth)) ('"' :: cs) =
      x?.map fun x => ([(key, v x)], rest) :=
    listing_single rfl rfl hmember rfl (List.cons_ne_nil _ _)
  show (listing gap '\x7d' true (member (value depth)) ('"' :: cs)).bind _ = _
  rw [hlisting]
  cases x? <;> rfl

/-- A table with a number as the port of the server. -/
theorem read?_port (n : Int) :
    read? ("\x7b\"server\": \x7b\"port\": " ++ toString n ++ "\x7d\x7d\n") =
      (held? n).map fun s => .table none [("server", .table none [("port", .scalar none s)])] := by
  have htext : ("\x7b\"server\": \x7b\"port\": " ++ toString n ++ "\x7d\x7d\n").toList =
      '\x7b' :: '"' :: ("server\": ".toList ++ ('\x7b' :: '"' :: ("port\": ".toList ++
        ((toString n).toList ++ ['\x7d', '\x7d', '\n'])))) := by
    simp only [String.toList_append, List.append_assoc]
    rfl
  have hport (cs : List Char) : name ('"' :: ("port\": ".toList ++ cs)) =
      some ("port", ": ".toList ++ cs) := rfl
  have hserver (cs : List Char) : name ('"' :: ("server\": ".toList ++ cs)) =
      some ("server", ": ".toList ++ cs) := rfl
  have hread (depth : Nat) : value (depth + 1 + 1) _ = _ :=
    value_entry (hserver _) rfl (value_entry (hport _) (gap_toString n _)
      (value_toString (ends_cons (c := '\x7d') (by decide) ['\x7d', '\n']) depth n))
  -- the text is longer than its values are deep
  obtain ⟨depth, hdepth⟩ : ∃ depth, ("\x7b\"server\": \x7b\"port\": " ++ toString n ++
      "\x7d\x7d\n").length = depth + 1 + 1 :=
    ⟨20 + (toString n).length + 1, by rw [String.length_append, String.length_append]; rfl⟩
  have hstart (cs : List Char) : gap ('\x7b' :: cs) = some ('\x7b' :: cs) := rfl
  unfold read?
  rw [htext, hdepth, hstart]
  show (value (depth + 1 + 1) _).bind _ = _
  rw [hread]
  cases held? n <;> rfl

end FileServer.Json.Relaxed
