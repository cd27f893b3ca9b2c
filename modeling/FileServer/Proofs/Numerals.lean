import FileServer.Number.Wide
import FileServer.Proofs.Printable

/-!
Numbers that are written in decimal are read back.
-/

namespace FileServer

variable {cs : List Char} {n width : Nat}

namespace Text

/-- Digits are counted in the same way as by the library, with the factors the other way round. -/
theorem ofDigits_eq (cs : List Char) : ofDigits cs = Nat.ofDigitChars 10 cs 0 := by
  unfold ofDigits Nat.ofDigitChars
  congr 1
  funext n c
  rw [Nat.mul_comm]

theorem ofDigits_toDigits (n : Nat) : ofDigits (Nat.toDigits 10 n) = n := by
  rw [ofDigits_eq]
  exact Nat.ofDigitChars_toDigits (by omega) (by omega)

theorem isDigit_of_mem_toDigits {c : Char} (h : c ∈ Nat.toDigits 10 n) : c.isDigit = true :=
  Nat.isDigit_of_mem_toDigits (by omega) (by omega) h

/-- A number as it is written is read back, unless it is too large. -/
theorem readNat?_toString_eq (max n : Nat) :
    readNat? max (toString n) = if n ≤ max then some n else none := by
  unfold readNat?
  extract_lets digits value
  have hdigits : digits = Nat.toDigits 10 n := by
    have htext : (toString n).toList = Nat.toDigits 10 n := by
      rw [Nat.toString_eq_ofList_toDigits, String.toList_ofList]
    unfold digits
    split
    case h_1 rest heq =>
      have hplus : '+' ∈ Nat.toDigits 10 n := htext ▸ heq ▸ List.mem_cons_self
      exact absurd (isDigit_of_mem_toDigits hplus) (by decide)
    case h_2 => exact htext
  have hall : (Nat.toDigits 10 n).all Char.isDigit = true :=
    List.all_eq_true.2 fun c hc => isDigit_of_mem_toDigits hc
  have hvalue : value = n := by
    unfold value
    rw [hdigits, ofDigits_toDigits]
  rw [hdigits, hvalue, if_neg (by simp [hall])]

theorem readNat?_toString {max : Nat} (h : n ≤ max) : readNat? max (toString n) = some n := by
  rw [readNat?_toString_eq, if_pos h]

/-! ### Numerals without superfluous zeros -/

theorem toNat_of_isDigit {c : Char} (h : c.isDigit = true) : 48 ≤ c.toNat ∧ c.toNat ≤ 57 := by
  simpa [Char.isDigit, UInt32.le_iff_toNat_le] using h

theorem digitChar_of_isDigit {c : Char} (h : c.isDigit = true) :
    Nat.digitChar (c.toNat - '0'.toNat) = c ∧ c.toNat - '0'.toNat < 10 := by
  have hbounds := toNat_of_isDigit h
  have hlt : c.toNat - '0'.toNat < 10 := by
    show c.toNat - 48 < 10
    omega
  refine ⟨Char.toNat_inj.1 ?_, hlt⟩
  rw [Nat.toNat_digitChar_of_lt_ten hlt]
  show 48 + (c.toNat - 48) = c.toNat
  omega

/-- Digits that are read on after a number are written on behind it. -/
theorem toDigits_append (hdigits : ∀ c ∈ cs, c.isDigit = true) (hn : 0 < n) :
    Nat.toDigits 10 n ++ cs =
      Nat.toDigits 10 (cs.foldl (fun n c => n * 10 + (c.toNat - '0'.toNat)) n) := by
  induction cs generalizing n with
  | nil => exact List.append_nil _
  | cons c rest ih =>
    obtain ⟨hchar, hlt⟩ := digitChar_of_isDigit (hdigits c List.mem_cons_self)
    have hone : Nat.toDigits 10 n ++ [c] = Nat.toDigits 10 (n * 10 + (c.toNat - '0'.toNat)) := by
      rw [Nat.mul_comm, ← Nat.toDigits_append_toDigits (by omega) hn hlt,
        Nat.toDigits_of_lt_base hlt, hchar]
    have hrest := ih (fun c hc => hdigits c (List.mem_cons_of_mem _ hc))
      (n := n * 10 + (c.toNat - '0'.toNat)) (by omega)
    rw [List.foldl_cons, ← hrest, ← hone, List.append_assoc]
    rfl

/-- A number other than zero does not begin with a zero. -/
theorem head?_toDigits (hn : 0 < n) : (Nat.toDigits 10 n).head? ≠ some '0' := by
  induction n using Nat.strongRecOn with
  | ind n ih =>
    by_cases hlt : n < 10
    · rw [Nat.toDigits_of_lt_base hlt]
      intro h
      exact absurd (Nat.digitChar_eq_zero.1 (Option.some.inj h)) (by omega)
    · have habove := ih (n / 10) (by omega) (by omega)
      obtain ⟨c, rest, hcons⟩ : ∃ c rest, Nat.toDigits 10 (n / 10) = c :: rest :=
        List.exists_cons_of_ne_nil Nat.toDigits_ne_nil
      rw [Nat.toDigits_of_base_le (by omega) (by omega), hcons]
      rw [hcons] at habove
      exact habove

/-- Digits are written as they are read exactly if there is no superfluous zero in front. -/
theorem toDigits_ofDigits_iff (hdigits : ∀ c ∈ cs, c.isDigit = true) (hne : cs ≠ []) :
    Nat.toDigits 10 (ofDigits cs) = cs ↔ cs = ['0'] ∨ cs.head? ≠ some '0' := by
  constructor
  · intro h
    by_cases hzero : ofDigits cs = 0
    · rw [hzero] at h
      exact .inl h.symm
    · exact .inr (h ▸ head?_toDigits (by omega))
  · rintro (rfl | hhead)
    · rfl
    · obtain ⟨c, rest, rfl⟩ := List.exists_cons_of_ne_nil hne
      -- the first digit is a number other than zero, and the others are written on behind it
      obtain ⟨hchar, hlt⟩ := digitChar_of_isDigit (hdigits c List.mem_cons_self)
      have hpositive : 0 < c.toNat - '0'.toNat := by
        refine Nat.pos_of_ne_zero fun hzero => hhead ?_
        rw [hzero] at hchar
        exact congrArg some hchar.symm
      have hrest := toDigits_append (fun c hc => hdigits c (List.mem_cons_of_mem _ hc)) hpositive
      rw [Nat.toDigits_of_lt_base hlt, hchar] at hrest
      rw [ofDigits, List.foldl_cons, Nat.zero_mul, Nat.zero_add, ← hrest]
      rfl

/-! ### Numbers with a sign -/

/-- A numeral with nothing superfluous: no plus sign, no zero in front of other digits, and no sign
before zero. -/
def IsPlainNumeral : List Char → Prop
  | '+' :: _ => False
  | '-' :: digits => digits.head? ≠ some '0'
  | digits => digits = ['0'] ∨ digits.head? ≠ some '0'

/-- What a text is that a number with a sign is read from. -/
theorem readInt?_cases {low high i : Int} {s : String} (h : readInt? low high s = some i) :
    ∃ digits, digits ≠ [] ∧ (∀ c ∈ digits, c.isDigit = true) ∧
      (s.toList = '+' :: digits ∧ i = ofDigits digits ∨
        s.toList = '-' :: digits ∧ i = -(ofDigits digits : Int) ∨
        s.toList = digits ∧ i = ofDigits digits) := by
  unfold readInt? at h
  split at h
  rename_i negative digits hsign
  split at h
  · cases h
  rename_i hall
  obtain ⟨hne, hdigits⟩ : digits ≠ [] ∧ ∀ c ∈ digits, c.isDigit = true := by simpa using hall
  have hi : (if negative then -(ofDigits digits : Int) else ofDigits digits) = i := by
    dsimp only at h
    generalize (if negative then -(ofDigits digits : Int) else ofDigits digits) = k at h ⊢
    split at h
    · exact Option.some.inj h
    · cases h
  refine ⟨digits, hne, hdigits, ?_⟩
  split at hsign
  case h_1 rest heq =>
    cases hsign
    exact .inl ⟨heq, hi.symm⟩
  case h_2 rest heq =>
    cases hsign
    exact .inr (.inl ⟨heq, hi.symm⟩)
  case h_3 =>
    cases hsign
    exact .inr (.inr ⟨rfl, hi.symm⟩)

theorem toList_toString_natCast (n : Nat) : (toString (n : Int)).toList = Nat.toDigits 10 n := by
  rw [Int.toString_eq_repr, Int.repr_eq_if]
  simp

theorem toList_toString_neg (hn : 0 < n) :
    (toString (-(n : Int))).toList = '-' :: Nat.toDigits 10 n := by
  rw [Int.toString_eq_repr, Int.repr_eq_if]
  simp [Nat.ne_of_gt hn]

theorem isPlainNumeral_of_digits (hdigits : ∀ c ∈ cs, c.isDigit = true) :
    IsPlainNumeral cs ↔ cs = ['0'] ∨ cs.head? ≠ some '0' := by
  unfold IsPlainNumeral
  split
  case h_1 => exact absurd (hdigits '+' List.mem_cons_self) (by decide)
  case h_2 => exact absurd (hdigits '-' List.mem_cons_self) (by decide)
  case h_3 => exact Iff.rfl

/-- A number is written as it was read exactly if its numeral has nothing superfluous. -/
theorem toString_eq_iff {low high i : Int} {s : String} (h : readInt? low high s = some i) :
    toString i = s ↔ IsPlainNumeral s.toList := by
  obtain ⟨digits, hne, hdigits, hcases⟩ := readInt?_cases h
  have hwritten := toDigits_ofDigits_iff hdigits hne
  rw [← String.toList_inj]
  rcases hcases with ⟨hs, rfl⟩ | ⟨hs, rfl⟩ | ⟨hs, rfl⟩
  · rw [hs, toList_toString_natCast]
    refine iff_of_false (fun heq => ?_) (fun hplain => hplain)
    have hplus : '+' ∈ Nat.toDigits 10 (ofDigits digits) := heq ▸ List.mem_cons_self
    exact absurd (isDigit_of_mem_toDigits hplus) (by decide)
  · rw [hs]
    show _ ↔ digits.head? ≠ some '0'
    by_cases hzero : ofDigits digits = 0
    · have hnegative : (toString (-(ofDigits digits : Int))).toList = ['0'] := by
        rw [hzero]
        rfl
      rw [hnegative]
      refine iff_of_false (fun heq => absurd (List.cons.inj heq).1 (by decide)) fun hhead => ?_
      have hdigit := hwritten.2 (.inr hhead)
      rw [hzero] at hdigit
      exact hhead (hdigit ▸ rfl)
    · rw [toList_toString_neg (by omega), List.cons.injEq, and_iff_right rfl, hwritten]
      refine or_iff_right ?_
      rintro rfl
      exact hzero rfl
  · rw [hs, toList_toString_natCast, hwritten, isPlainNumeral_of_digits hdigits]

/-! ### Numerals of fixed width -/

theorem length_padded (h : (Nat.toDigits 10 n).length ≤ width) :
    (padded width n).length = width := by
  rw [padded, List.length_append, List.length_replicate]
  omega

theorem length_padded_two (h : n < 100) : (padded 2 n).length = 2 :=
  length_padded ((Nat.length_toDigits_le_iff (by omega) (by omega)).2 h)

theorem length_padded_four (h : n < 10000) : (padded 4 n).length = 4 :=
  length_padded ((Nat.length_toDigits_le_iff (by omega) (by omega)).2 h)

theorem isDigit_of_mem_padded {c : Char} (h : c ∈ padded width n) : c.isDigit = true := by
  rcases List.mem_append.1 h with hzero | hdigit
  · rw [(List.mem_replicate.1 hzero).2]
    rfl
  · exact isDigit_of_mem_toDigits hdigit

/-- Zeros in front do not count. -/
theorem ofDigits_padded (width n : Nat) : ofDigits (padded width n) = n := by
  have hzeros : ∀ k, ofDigits (List.replicate k '0') = 0 := fun k => by
    induction k with
    | zero => rfl
    | succ k ih => exact ih
  rw [padded, ofDigits, List.foldl_append, ← ofDigits, hzeros]
  exact ofDigits_toDigits n

end Text

/-! ### Values of headers -/

/-- A text of printable characters can be taken out of a header again. -/
theorem visibleText?_encode (h : AllPrintable cs) :
    visibleText? (Utf8.encode cs) = some (String.ofList cs) := by
  have hbyte : ∀ c ∈ cs, (UInt8.ofNat c.toNat).toNat = c.toNat := fun c hc => by
    have := (h c hc).2
    rw [UInt8.toNat_ofNat']
    omega
  have hchars : (cs.map fun c => UInt8.ofNat c.toNat).map (fun b => Char.ofNat b.toNat) = cs := by
    rw [List.map_map]
    refine (List.map_congr_left fun c hc => ?_).trans (List.map_id cs)
    show Char.ofNat (UInt8.ofNat c.toNat).toNat = c
    rw [hbyte c hc, Char.ofNat_toNat]
  have hvisible : ((cs.map fun c => UInt8.ofNat c.toNat).all
      fun b => b == 9 || (32 ≤ b && b < 127)) = true := by
    rw [List.all_map, List.all_eq_true]
    intro c hc
    have hlow : (32 : UInt8) ≤ UInt8.ofNat c.toNat := by
      rw [UInt8.le_iff_toNat_le, hbyte c hc]
      exact (h c hc).1
    have hhigh : UInt8.ofNat c.toNat < 127 := by
      rw [UInt8.lt_iff_toNat_lt, hbyte c hc]
      exact (h c hc).2
    simp [hlow, hhigh]
  rw [Utf8.encode_of_forall_lt fun c hc => Nat.lt_trans (h c hc).2 (by omega), visibleText?,
    if_pos hvisible, hchars]

end FileServer
