import FileServer.Text.Utf8

/-!
What is encoded is read back, character by character and whatever follows it, and a well-formed text
is read the same in front of any other. Conversely bytes that are read as characters are what these
characters are encoded in.
-/

namespace FileServer.Utf8

/-! ### Encoding -/

theorem encode_append (cs ds : List Char) : encode (cs ++ ds) = encode cs ++ encode ds :=
  List.flatMap_append

theorem ofString_append (s t : String) : ofString (s ++ t) = ofString s ++ ofString t := by
  rw [ofString, String.toList_append, encode_append]
  rfl

@[simp]
theorem ofString_ofList (cs : List Char) : ofString (String.ofList cs) = encode cs := by
  rw [ofString, String.toList_ofList]

/-- The bytes of a text are those in which it is kept; where a text is given, they need not be
computed from its characters. -/
theorem ofString_eq_toByteArray (s : String) : ofString s = s.toByteArray.data.toList := by
  rw [ofString, encode, ← String.utf8Encode_toList, List.utf8Encode]
  simp

/-- A character of ASCII is a single byte. -/
theorem utf8EncodeChar_of_lt {c : Char} (h : c.toNat < 128) :
    String.utf8EncodeChar c = [UInt8.ofNat c.toNat] := by
  have hc : c.val.toNat ≤ 127 := Nat.le_of_lt_succ h
  rw [String.utf8EncodeChar, if_pos hc]
  rfl

/-- Characters of ASCII are single bytes. -/
theorem encode_of_forall_lt : ∀ {cs : List Char}, (∀ c ∈ cs, c.toNat < 128) →
    encode cs = cs.map fun c => UInt8.ofNat c.toNat
  | [], _ => rfl
  | c :: cs, h => by
    have ih := encode_of_forall_lt fun x hx => h x (List.mem_cons_of_mem _ hx)
    rw [encode, List.flatMap_cons, ← encode, ih, utf8EncodeChar_of_lt (h c List.mem_cons_self)]
    rfl

/-! ### Forms of one to four bytes -/

theorem isTail_iff {b : UInt8} : isTail b = true ↔ 128 ≤ b.toNat ∧ b.toNat ≤ 191 := by
  simp [isTail, UInt8.le_iff_toNat_le]

theorem startsTwo_iff {b₀ b₁ : UInt8} :
    startsTwo b₀ b₁ = true ↔ 194 ≤ b₀.toNat ∧ b₀.toNat ≤ 223 ∧ isTail b₁ = true := by
  simp [startsTwo, UInt8.le_iff_toNat_le, and_assoc]

theorem startsThree_iff {b₀ b₁ : UInt8} :
    startsThree b₀ b₁ = true ↔ 224 ≤ b₀.toNat ∧ b₀.toNat ≤ 239 ∧ isTail b₁ = true ∧
      (b₀.toNat = 224 → 160 ≤ b₁.toNat) ∧ (b₀.toNat = 237 → b₁.toNat ≤ 159) := by
  simp [startsThree, UInt8.le_iff_toNat_le, and_assoc, ← UInt8.toNat_inj, Decidable.imp_iff_not_or]

theorem startsFour_iff {b₀ b₁ : UInt8} :
    startsFour b₀ b₁ = true ↔ 240 ≤ b₀.toNat ∧ b₀.toNat ≤ 244 ∧ isTail b₁ = true ∧
      (b₀.toNat = 240 → 144 ≤ b₁.toNat) ∧ (b₀.toNat = 244 → b₁.toNat ≤ 143) := by
  simp [startsFour, UInt8.le_iff_toNat_le, and_assoc, ← UInt8.toNat_inj, Decidable.imp_iff_not_or]

theorem lt_iff {b : UInt8} : b < 0x80 ↔ b.toNat < 128 := by
  rw [UInt8.lt_iff_toNat_lt]
  rfl

/-! ### Reading one character -/

theorem symbols_one {b₀ : UInt8} (h : b₀.toNat < 128) (rest : Bytes) :
    symbols (b₀ :: rest) = some (Char.ofNat b₀.toNat) :: symbols rest := by
  rw [symbols.eq_def]
  dsimp only
  rw [if_pos (lt_iff.2 h)]

theorem symbols_two {b₀ b₁ : UInt8} (h : startsTwo b₀ b₁ = true) (rest : Bytes) :
    symbols (b₀ :: b₁ :: rest) = some (scalar (b₀.toNat % 32) [b₁]) :: symbols rest := by
  have hone : ¬b₀ < 0x80 := fun hlt => by
    have := lt_iff.1 hlt
    have := (startsTwo_iff.1 h).1
    omega
  rw [symbols.eq_def]
  dsimp only
  rw [if_neg hone, if_pos h]

theorem symbols_three {b₀ b₁ b₂ : UInt8} (h : startsThree b₀ b₁ = true) (h₂ : isTail b₂ = true)
    (rest : Bytes) :
    symbols (b₀ :: b₁ :: b₂ :: rest) =
      some (scalar (b₀.toNat % 16) [b₁, b₂]) :: symbols rest := by
  have hb₀ := (startsThree_iff.1 h).1
  have hone : ¬b₀ < 0x80 := fun hlt => by
    have := lt_iff.1 hlt
    omega
  have htwo : ¬startsTwo b₀ b₁ = true := fun h => by
    have := (startsTwo_iff.1 h).2.1
    omega
  rw [symbols.eq_def]
  dsimp only
  rw [if_neg hone, if_neg htwo, if_pos h, if_pos h₂]

theorem symbols_four {b₀ b₁ b₂ b₃ : UInt8} (h : startsFour b₀ b₁ = true) (h₂ : isTail b₂ = true)
    (h₃ : isTail b₃ = true) (rest : Bytes) :
    symbols (b₀ :: b₁ :: b₂ :: b₃ :: rest) =
      some (scalar (b₀.toNat % 8) [b₁, b₂, b₃]) :: symbols rest := by
  have hb₀ := (startsFour_iff.1 h).1
  have hone : ¬b₀ < 0x80 := fun hlt => by
    have := lt_iff.1 hlt
    omega
  have htwo : ¬startsTwo b₀ b₁ = true := fun h => by
    have := (startsTwo_iff.1 h).2.1
    omega
  have hthree : ¬startsThree b₀ b₁ = true := fun h => by
    have := (startsThree_iff.1 h).2.1
    omega
  rw [symbols.eq_def]
  dsimp only
  rw [if_neg hone, if_neg htwo, if_neg hthree, if_pos h, if_pos h₂, if_pos h₃]

/-! ### Reading back what is encoded -/

/-- A tail byte holds six bits of a character. -/
theorem toNat_tail (n : Nat) : (UInt8.ofNat (n % 64 + 128)).toNat = n % 64 + 128 := by
  rw [UInt8.toNat_ofNat']
  omega

theorem isTail_tail (n : Nat) : isTail (UInt8.ofNat (n % 64 + 128)) = true := by
  rw [isTail_iff, toNat_tail]
  omega

/-- No character has a code point between the two ranges of scalar values. -/
theorem char_range (c : Char) :
    c.val.toNat < 0xD800 ∨ 0xDFFF < c.val.toNat ∧ c.val.toNat < 0x110000 := c.valid

/-- A code point in two bytes is read back. -/
theorem symbols_twoBytes {v : Nat} (hlow : 127 < v) (hhigh : v ≤ 0x7FF) (rest : Bytes) :
    symbols (UInt8.ofNat (v / 64 % 32 + 192) :: UInt8.ofNat (v % 64 + 128) :: rest) =
      some (Char.ofNat v) :: symbols rest := by
  have hb : (UInt8.ofNat (v / 64 % 32 + 192)).toNat = v / 64 + 192 := by
    rw [UInt8.toNat_ofNat']
    omega
  have hstart : startsTwo (UInt8.ofNat (v / 64 % 32 + 192)) (UInt8.ofNat (v % 64 + 128)) := by
    rw [startsTwo_iff, hb]
    exact ⟨by omega, by omega, isTail_tail v⟩
  have hvalue : (v / 64 + 192) % 32 * 64 + (v % 64 + 128) % 64 = v := by omega
  rw [symbols_two hstart]
  simp only [scalar, List.foldl_cons, List.foldl_nil, hb, toNat_tail, hvalue]

/-- A code point in three bytes is read back. -/
theorem symbols_threeBytes {v : Nat} (hlow : 0x7FF < v) (hhigh : v ≤ 0xFFFF)
    (hrange : v < 0xD800 ∨ 0xDFFF < v) (rest : Bytes) :
    symbols (UInt8.ofNat (v / 4096 % 16 + 224) :: UInt8.ofNat (v / 64 % 64 + 128) ::
        UInt8.ofNat (v % 64 + 128) :: rest) =
      some (Char.ofNat v) :: symbols rest := by
  have hb : (UInt8.ofNat (v / 4096 % 16 + 224)).toNat = v / 4096 + 224 := by
    rw [UInt8.toNat_ofNat']
    omega
  have hstart : startsThree (UInt8.ofNat (v / 4096 % 16 + 224))
      (UInt8.ofNat (v / 64 % 64 + 128)) := by
    rw [startsThree_iff, hb, toNat_tail]
    exact ⟨by omega, by omega, isTail_tail _, by omega, by omega⟩
  have hvalue : ((v / 4096 + 224) % 16 * 64 + (v / 64 % 64 + 128) % 64) * 64 +
      (v % 64 + 128) % 64 = v := by omega
  rw [symbols_three hstart (isTail_tail v)]
  simp only [scalar, List.foldl_cons, List.foldl_nil, hb, toNat_tail, hvalue]

/-- A code point in four bytes is read back. -/
theorem symbols_fourBytes {v : Nat} (hlow : 0xFFFF < v) (hhigh : v < 0x110000) (rest : Bytes) :
    symbols (UInt8.ofNat (v / 262144 % 8 + 240) :: UInt8.ofNat (v / 4096 % 64 + 128) ::
        UInt8.ofNat (v / 64 % 64 + 128) :: UInt8.ofNat (v % 64 + 128) :: rest) =
      some (Char.ofNat v) :: symbols rest := by
  have hb : (UInt8.ofNat (v / 262144 % 8 + 240)).toNat = v / 262144 + 240 := by
    rw [UInt8.toNat_ofNat']
    omega
  have hstart : startsFour (UInt8.ofNat (v / 262144 % 8 + 240))
      (UInt8.ofNat (v / 4096 % 64 + 128)) := by
    rw [startsFour_iff, hb, toNat_tail]
    exact ⟨by omega, by omega, isTail_tail _, by omega, by omega⟩
  have hvalue : (((v / 262144 + 240) % 8 * 64 + (v / 4096 % 64 + 128) % 64) * 64 +
      (v / 64 % 64 + 128) % 64) * 64 + (v % 64 + 128) % 64 = v := by omega
  rw [symbols_four hstart (isTail_tail _) (isTail_tail v)]
  simp only [scalar, List.foldl_cons, List.foldl_nil, hb, toNat_tail, hvalue]

/-- A character is read back, whatever follows it. -/
theorem symbols_utf8EncodeChar (c : Char) (rest : Bytes) :
    symbols (String.utf8EncodeChar c ++ rest) = some c :: symbols rest := by
  have hrange := char_range c
  have hc : Char.ofNat c.val.toNat = c := Char.ofNat_toNat c
  unfold String.utf8EncodeChar
  dsimp only
  generalize c.val.toNat = v at hrange hc
  rw [← hc]
  split
  case isTrue hone =>
    have hb : (UInt8.ofNat v).toNat = v := by
      rw [UInt8.toNat_ofNat']
      omega
    rw [List.singleton_append, symbols_one (by omega), hb]
  case isFalse hone =>
    split
    case isTrue htwo => exact symbols_twoBytes (by omega) htwo rest
    case isFalse htwo =>
      split
      case isTrue hthree => exact symbols_threeBytes (by omega) hthree (by omega) rest
      case isFalse hthree => exact symbols_fourBytes (by omega) (by omega) rest

/-- A text is read back, whatever follows it. -/
theorem symbols_encode_append (rest : Bytes) : ∀ cs : List Char,
    symbols (encode cs ++ rest) = cs.map some ++ symbols rest
  | [] => rfl
  | c :: cs => by
    rw [encode, List.flatMap_cons, List.append_assoc, symbols_utf8EncodeChar,
      ← encode, symbols_encode_append rest cs, List.map_cons, List.cons_append]

theorem symbols_encode (cs : List Char) : symbols (encode cs) = cs.map some := by
  have h := symbols_encode_append [] cs
  rwa [List.append_nil, symbols, List.append_nil] at h

theorem decodeLossy_encode (cs : List Char) : decodeLossy (encode cs) = cs := by
  rw [decodeLossy, symbols_encode, List.map_map]
  exact List.map_id cs

/-- The bytes of a text spell that text. -/
theorem toStringLossy_ofString (s : String) : toStringLossy (ofString s) = s := by
  rw [toStringLossy, ofString, decodeLossy_encode, String.ofList_toList]

/-! ### Well-formed texts side by side -/

theorem mapM_id_eq_some_iff {α : Type} {cs : List α} : ∀ {l : List (Option α)},
    l.mapM id = some cs ↔ l = cs.map some
  | [] => by cases cs <;> simp
  | none :: l => by cases cs <;> simp
  | some a :: l => by
    rw [List.mapM_cons, id, Option.bind_eq_bind, Option.bind_some]
    cases cs with
    | nil => simp [Option.bind_eq_some_iff]
    | cons c cs =>
      rw [Option.bind_eq_bind, Option.bind_eq_some_iff, List.map_cons, List.cons.injEq,
        Option.some.injEq]
      constructor
      · rintro ⟨tail, htail, heq⟩
        cases heq
        exact ⟨rfl, mapM_id_eq_some_iff.1 htail⟩
      · rintro ⟨rfl, htail⟩
        exact ⟨cs, mapM_id_eq_some_iff.2 htail, rfl⟩

/-- A text is well formed if every part of it is a character. -/
theorem decode?_eq_some_iff {bs : Bytes} {cs : List Char} :
    decode? bs = some cs ↔ symbols bs = cs.map some := mapM_id_eq_some_iff

/-- A well-formed text is read the same in front of any other. -/
theorem symbols_append {bs : Bytes} (rest : Bytes) (h : none ∉ symbols bs) :
    symbols (bs ++ rest) = symbols bs ++ symbols rest := by
  fun_induction symbols bs with
  | case1 => rfl
  | case2 b₀ r₀ hone ih =>
    rw [List.mem_cons, not_or] at h
    rw [List.cons_append, symbols_one (lt_iff.1 hone), ih h.2, List.cons_append]
  | case4 b₀ hone b₁ r₁ htwo ih =>
    rw [List.mem_cons, not_or] at h
    rw [List.cons_append, List.cons_append, symbols_two htwo, ih h.2, List.cons_append]
  | case6 b₀ hone b₁ htwo hthree b₂ r₂ htail ih =>
    rw [List.mem_cons, not_or] at h
    rw [List.cons_append, List.cons_append, List.cons_append, symbols_three hthree htail, ih h.2,
      List.cons_append]
  | case10 b₀ hone b₁ htwo hthree hfour b₂ htail b₃ r₃ htail' ih =>
    rw [List.mem_cons, not_or] at h
    rw [List.cons_append, List.cons_append, List.cons_append, List.cons_append,
      symbols_four hfour htail htail', ih h.2, List.cons_append]
  | _ => simp at h

/-- Well-formed texts one after the other are well formed. -/
theorem decode?_append {as bs : Bytes} {cs ds : List Char} (ha : decode? as = some cs)
    (hb : decode? bs = some ds) : decode? (as ++ bs) = some (cs ++ ds) := by
  rw [decode?_eq_some_iff] at ha hb ⊢
  rw [symbols_append bs (by simp [ha]), ha, hb, List.map_append]

theorem decode?_ofString (s : String) : decode? (ofString s) = some s.toList :=
  decode?_eq_some_iff.2 (symbols_encode s.toList)

/-! ### Encoding back what is read -/

/-- A scalar value is the code point of its character. -/
theorem toNat_charOfNat {v : Nat} (h : v < 0xD800 ∨ 0xDFFF < v ∧ v < 0x110000) :
    (Char.ofNat v).val.toNat = v := by
  have hvalid : v.isValidChar := h
  rw [Char.ofNat, dif_pos hvalid]
  rfl

/-- A byte is known by its number. -/
theorem byte_eq {n : Nat} {b : UInt8} (h : n = b.toNat) : UInt8.ofNat n = b := by
  rw [h, UInt8.ofNat_toNat]

/-! The characters of one to four bytes are encoded in these bytes. -/

theorem encodeChar_one {b₀ : UInt8} (h : b₀.toNat < 128) :
    String.utf8EncodeChar (Char.ofNat b₀.toNat) = [b₀] := by
  rw [String.utf8EncodeChar, toNat_charOfNat (.inl (by omega)), if_pos (by omega), byte_eq rfl]

theorem encodeChar_two {b₀ b₁ : UInt8} (h : startsTwo b₀ b₁ = true) :
    String.utf8EncodeChar (scalar (b₀.toNat % 32) [b₁]) = [b₀, b₁] := by
  rw [startsTwo_iff, isTail_iff] at h
  rw [scalar, List.foldl_cons, List.foldl_nil, String.utf8EncodeChar,
    toNat_charOfNat (.inl (by omega)), if_neg (by omega), if_pos (by omega)]
  simp only [List.cons.injEq, and_true]
  exact ⟨byte_eq (by omega), byte_eq (by omega)⟩

theorem encodeChar_three {b₀ b₁ b₂ : UInt8} (h : startsThree b₀ b₁ = true)
    (h₂ : isTail b₂ = true) :
    String.utf8EncodeChar (scalar (b₀.toNat % 16) [b₁, b₂]) = [b₀, b₁, b₂] := by
  rw [startsThree_iff, isTail_iff] at h
  rw [isTail_iff] at h₂
  rw [scalar, List.foldl_cons, List.foldl_cons, List.foldl_nil, String.utf8EncodeChar,
    toNat_charOfNat (by omega), if_neg (by omega), if_neg (by omega), if_pos (by omega)]
  simp only [List.cons.injEq, and_true]
  exact ⟨byte_eq (by omega), byte_eq (by omega), byte_eq (by omega)⟩

theorem encodeChar_four {b₀ b₁ b₂ b₃ : UInt8} (h : startsFour b₀ b₁ = true)
    (h₂ : isTail b₂ = true) (h₃ : isTail b₃ = true) :
    String.utf8EncodeChar (scalar (b₀.toNat % 8) [b₁, b₂, b₃]) = [b₀, b₁, b₂, b₃] := by
  rw [startsFour_iff, isTail_iff] at h
  rw [isTail_iff] at h₂ h₃
  rw [scalar, List.foldl_cons, List.foldl_cons, List.foldl_cons, List.foldl_nil,
    String.utf8EncodeChar, toNat_charOfNat (by omega), if_neg (by omega), if_neg (by omega),
    if_neg (by omega)]
  simp only [List.cons.injEq, and_true]
  exact ⟨byte_eq (by omega), byte_eq (by omega), byte_eq (by omega), byte_eq (by omega)⟩

/-- Bytes of which every part is a character are the encoding of these characters. -/
theorem encode_of_symbols {bs : Bytes} {cs : List Char} (h : symbols bs = cs.map some) :
    encode cs = bs := by
  fun_induction symbols bs generalizing cs with
  | case1 =>
    cases cs with
    | nil => rfl
    | cons => simp at h
  | case2 b₀ r₀ hone ih =>
    obtain ⟨c, cs, rfl, hc, hcs⟩ := List.map_eq_cons_iff.1 h.symm
    rw [encode, List.flatMap_cons, ← encode, ih hcs.symm, Option.some.inj hc,
      encodeChar_one (lt_iff.1 hone), List.singleton_append]
  | case4 b₀ hone b₁ r₁ htwo ih =>
    obtain ⟨c, cs, rfl, hc, hcs⟩ := List.map_eq_cons_iff.1 h.symm
    rw [encode, List.flatMap_cons, ← encode, ih hcs.symm, Option.some.inj hc, encodeChar_two htwo]
    rfl
  | case6 b₀ hone b₁ htwo hthree b₂ r₂ htail ih =>
    obtain ⟨c, cs, rfl, hc, hcs⟩ := List.map_eq_cons_iff.1 h.symm
    rw [encode, List.flatMap_cons, ← encode, ih hcs.symm, Option.some.inj hc,
      encodeChar_three hthree htail]
    rfl
  | case10 b₀ hone b₁ htwo hthree hfour b₂ htail b₃ r₃ htail' ih =>
    obtain ⟨c, cs, rfl, hc, hcs⟩ := List.map_eq_cons_iff.1 h.symm
    rw [encode, List.flatMap_cons, ← encode, ih hcs.symm, Option.some.inj hc,
      encodeChar_four hfour htail htail']
    rfl
  | _ =>
    cases cs <;> simp at h

/-- One symbol and those behind it: if their characters stand in the bytes of each, all stand in the
bytes of both. -/
theorem subset_append_of_mem_cons {rest : Bytes} {symbol : Option Char} {c : Char} (front : Bytes)
    (hsymbol : symbol = some c → String.utf8EncodeChar c ⊆ front)
    (ih : some c ∈ symbols rest → String.utf8EncodeChar c ⊆ rest)
    (h : some c ∈ symbol :: symbols rest) : String.utf8EncodeChar c ⊆ front ++ rest := by
  rcases List.mem_cons.1 h with h | h
  · exact List.subset_append_of_subset_left rest (hsymbol h.symm)
  · exact List.subset_append_of_subset_right front (ih h)

/-- A character that is read stands in the bytes, whatever ill-formed parts stand around it. -/
theorem subset_of_mem_symbols {bs : Bytes} {c : Char} (h : some c ∈ symbols bs) :
    String.utf8EncodeChar c ⊆ bs := by
  fun_induction symbols bs with
  | case1 => cases h
  | case2 b₀ r₀ hone ih =>
    refine subset_append_of_mem_cons [b₀] (fun hc => ?_) ih h
    rw [← Option.some.inj hc, encodeChar_one (lt_iff.1 hone)]
    exact List.Subset.refl _
  | case4 b₀ hone b₁ r₁ htwo ih =>
    refine subset_append_of_mem_cons [b₀, b₁] (fun hc => ?_) ih h
    rw [← Option.some.inj hc, encodeChar_two htwo]
    exact List.Subset.refl _
  | case6 b₀ hone b₁ htwo hthree b₂ r₂ htail ih =>
    refine subset_append_of_mem_cons [b₀, b₁, b₂] (fun hc => ?_) ih h
    rw [← Option.some.inj hc, encodeChar_three hthree htail]
    exact List.Subset.refl _
  | case10 b₀ hone b₁ htwo hthree hfour b₂ htail b₃ r₃ htail' ih =>
    refine subset_append_of_mem_cons [b₀, b₁, b₂, b₃] (fun hc => ?_) ih h
    rw [← Option.some.inj hc, encodeChar_four hfour htail htail']
    exact List.Subset.refl _
  | case3 | case5 | case8 | case9 => simp at h
  -- the bytes of an ill-formed part give no character
  | case7 b₀ hone b₁ htwo hthree b₂ r₂ htail ih =>
    exact subset_append_of_mem_cons [b₀, b₁] (by simp) ih h
  | case11 b₀ hone b₁ htwo hthree hfour b₂ htail b₃ r₃ htail' ih =>
    exact subset_append_of_mem_cons [b₀, b₁, b₂] (by simp) ih h
  | case12 b₀ hone b₁ htwo hthree hfour b₂ r₂ htail ih =>
    exact subset_append_of_mem_cons [b₀, b₁] (by simp) ih h
  | case13 b₀ hone b₁ r₁ htwo hthree hfour ih =>
    exact subset_append_of_mem_cons [b₀] (by simp) ih h

/-- The byte of a character of ASCII stands among the bytes of a text that holds the character. -/
theorem mem_ofString_of_mem {s : String} {c : Char} (hascii : c.toNat < 128) (h : c ∈ s.toList) :
    UInt8.ofNat c.toNat ∈ ofString s := by
  refine List.mem_flatMap.2 ⟨c, h, ?_⟩
  rw [utf8EncodeChar_of_lt hascii]
  exact List.mem_singleton_self _

/-- A character of ASCII that is read stands among the bytes, whatever else is read. -/
theorem mem_of_mem_toStringLossy {bs : Bytes} {c : Char} (hascii : c.toNat < 128)
    (h : c ∈ (toStringLossy bs).toList) : UInt8.ofNat c.toNat ∈ bs := by
  rw [toStringLossy, String.toList_ofList, decodeLossy, List.mem_map] at h
  obtain ⟨symbol, hsymbol, rfl⟩ := h
  cases symbol with
  | none => exact absurd hascii (by decide)
  | some c =>
    rw [Option.getD_some] at hascii ⊢
    refine subset_of_mem_symbols hsymbol ?_
    rw [utf8EncodeChar_of_lt hascii]
    exact List.mem_singleton_self _

/-- The text that bytes spell has these bytes. -/
theorem ofString_of_toString? {bs : Bytes} {s : String} (h : toString? bs = some s) :
    ofString s = bs := by
  obtain ⟨cs, hcs, rfl⟩ := Option.map_eq_some_iff.1 h
  rw [ofString_ofList, encode_of_symbols (decode?_eq_some_iff.1 hcs)]

/-- Bytes are well formed if they are those of a text. -/
theorem exists_decode?_iff {bs : Bytes} :
    (∃ cs, decode? bs = some cs) ↔ ∃ s : String, ofString s = bs := by
  constructor
  · rintro ⟨cs, hcs⟩
    exact ⟨String.ofList cs, ofString_of_toString? (by rw [toString?, hcs, Option.map_some])⟩
  · rintro ⟨s, rfl⟩
    exact ⟨s.toList, decode?_ofString s⟩

end FileServer.Utf8
