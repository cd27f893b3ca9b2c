import FileServer.Disk.Path
import FileServer.Proofs.Utf8
import FileServer.Uri.Percent

/-!
Decoding undoes encoding, whatever follows, and what is decoded in front of a slash does not depend
on what comes behind it. An encoded text without slashes is made of unreserved characters and
escapes.
-/

namespace FileServer.Percent

variable {b : UInt8}

/-! ### Bytes and digits -/

/-- A property of bytes holds of all of them if it does for the numbers below 256. -/
theorem forall_byte {P : UInt8 → Prop} (h : ∀ n < 256, P (UInt8.ofNat n)) (b : UInt8) : P b := by
  have hb := h b.toNat b.toNat_lt
  rwa [UInt8.ofNat_toNat] at hb

/-- A character that may stand in a link beside escapes: no slash. -/
def IsUnreserved (c : Char) : Prop := c.isAlphanum = true ∨ c ∈ ['-', '.', '_', '~']

instance (c : Char) : Decidable (IsUnreserved c) := inferInstanceAs (Decidable (_ ∨ _))

/-- A hexadecimal digit as it is written in an escape. -/
def IsHexDigit (c : Char) : Prop := c ∈ "0123456789ABCDEF".toList

/-- A part of a link that stands for one byte. -/
inductive IsUnit : List Char → Prop
  | unreserved {c : Char} (h : IsUnreserved c) : IsUnit [c]
  | escape {hi lo : Char} (hhi : IsHexDigit hi) (hlo : IsHexDigit lo) : IsUnit ['%', hi, lo]

/-- The byte of an ASCII character. -/
def byteOf (c : Char) : UInt8 := UInt8.ofNat c.toNat

theorem plain_ascii : ∀ b : UInt8, isPlain b = true →
    (Char.ofNat b.toNat).toNat < 128 ∧ byteOf (Char.ofNat b.toNat) = b ∧ b ≠ 37 :=
  forall_byte (by decide +kernel)

theorem unreserved_of_plain : ∀ b : UInt8, isPlain b = true → b ≠ slash →
    IsUnreserved (Char.ofNat b.toNat) :=
  forall_byte (by decide +kernel)

theorem isHexDigit_hexDigit : ∀ n < 16, IsHexDigit (hexDigit n) := by
  unfold IsHexDigit
  decide

/-- A digit is read back. -/
theorem digit?_hexDigit : ∀ n < 16, (hexDigit n).toNat < 128 ∧
    digit? (byteOf (hexDigit n)) = some (UInt8.ofNat n) := by decide

/-! ### Encoding -/

/-- One byte of a text is one part of the link. -/
theorem isUnit_encodeByte (h : b ≠ slash) : IsUnit (encodeByte b) := by
  have hb := b.toNat_lt
  unfold encodeByte
  split
  case isTrue hplain => exact .unreserved (unreserved_of_plain b hplain h)
  case isFalse =>
    exact .escape (isHexDigit_hexDigit _ (by omega)) (isHexDigit_hexDigit _ (by omega))

theorem encodeByte_slash : encodeByte slash = ['/'] := by decide

/-- The bytes of an encoded byte are its own, or those of an escape. -/
theorem encode_encodeByte (b : UInt8) : Utf8.encode (encodeByte b) =
    if isPlain b then [b]
    else [37, byteOf (hexDigit (b.toNat / 16)), byteOf (hexDigit (b.toNat % 16))] := by
  have hb := b.toNat_lt
  unfold encodeByte
  split
  case isTrue hplain =>
    obtain ⟨hlt, hbyte, -⟩ := plain_ascii b hplain
    rw [Utf8.encode_of_forall_lt (by simpa using hlt), List.map_singleton]
    exact congrArg ([·]) hbyte
  case isFalse =>
    have hhi := (digit?_hexDigit (b.toNat / 16) (by omega)).1
    have hlo := (digit?_hexDigit (b.toNat % 16) (by omega)).1
    rw [Utf8.encode_of_forall_lt (by simp [hhi, hlo])]
    rfl

theorem ofString_encode (s : String) :
    Utf8.ofString (encode s) = (Utf8.ofString s).flatMap fun b => Utf8.encode (encodeByte b) := by
  rw [encode, Utf8.ofString_ofList, Utf8.encode, List.flatMap_assoc]
  rfl

/-! ### Decoding -/

/-- A percent sign and two digits come first. -/
def StartsEscape (bs : Bytes) : Prop :=
  ∃ hi lo tail h l, bs = 37 :: hi :: lo :: tail ∧ digit? hi = some h ∧ digit? lo = some l

/-- A byte that starts no escape stands for itself. -/
theorem decodeBytes_literal {rest : Bytes} (h : ¬StartsEscape (b :: rest)) :
    decodeBytes (b :: rest) = b :: decodeBytes rest := by
  rw [decodeBytes.eq_def]
  split
  case h_1 hi lo tail heq =>
    split
    case h_1 h' l' hhi hlo => exact absurd ⟨hi, lo, tail, h', l', heq, hhi, hlo⟩ h
    case h_2 =>
      cases heq
      rfl
  case h_2 heq =>
    cases heq
    rfl
  case h_3 heq => cases heq

/-- An escape stands for the byte of its digits. -/
theorem decodeBytes_escape {hi lo h l : UInt8} (hhi : digit? hi = some h) (hlo : digit? lo = some l)
    (rest : Bytes) : decodeBytes (37 :: hi :: lo :: rest) = (h * 16 + l) :: decodeBytes rest := by
  rw [decodeBytes, hhi, hlo]

/-- An encoded byte is read back, whatever follows it. -/
theorem decodeBytes_encodeByte (b : UInt8) (rest : Bytes) :
    decodeBytes (Utf8.encode (encodeByte b) ++ rest) = b :: decodeBytes rest := by
  have hb := b.toNat_lt
  rw [encode_encodeByte]
  split
  case isTrue hplain =>
    refine decodeBytes_literal ?_
    rintro ⟨hi, lo, tail, h, l, heq, -⟩
    exact (plain_ascii b hplain).2.2 (List.cons.inj heq).1
  case isFalse =>
    have hhi := (digit?_hexDigit (b.toNat / 16) (by omega)).2
    have hlo := (digit?_hexDigit (b.toNat % 16) (by omega)).2
    have hvalue : UInt8.ofNat (b.toNat / 16) * 16 + UInt8.ofNat (b.toNat % 16) = b := by
      rw [← UInt8.toNat_inj, UInt8.toNat_add, UInt8.toNat_mul, UInt8.toNat_ofNat',
        UInt8.toNat_ofNat']
      show (b.toNat / 16 % 2 ^ 8 * 16 % 2 ^ 8 + b.toNat % 16 % 2 ^ 8) % 2 ^ 8 = b.toNat
      omega
    rw [List.cons_append, List.cons_append, List.singleton_append, decodeBytes_escape hhi hlo,
      hvalue]

/-- Encoded bytes are read back, whatever follows them. -/
theorem decodeBytes_encode (rest : Bytes) : ∀ bs : Bytes,
    decodeBytes (bs.flatMap (fun b => Utf8.encode (encodeByte b)) ++ rest) =
      bs ++ decodeBytes rest
  | [] => rfl
  | b :: bs => by
    rw [List.flatMap_cons, List.append_assoc, decodeBytes_encodeByte, decodeBytes_encode rest bs]
    rfl

/-- An encoded text is read back. -/
theorem decode_encode (s : String) : decode (encode s) = Utf8.ofString s := by
  have h := decodeBytes_encode [] (Utf8.ofString s)
  rwa [List.append_nil, ← ofString_encode, decodeBytes, List.append_nil] at h

/-- No escape reaches over a slash. -/
theorem startsEscape_of_append_slash {after rest : Bytes}
    (h : StartsEscape (b :: rest ++ slash :: after)) : StartsEscape (b :: rest) := by
  have hslash : digit? slash = none := by decide
  obtain ⟨hi, lo, tail, h, l, heq, hhi, hlo⟩ := h
  cases rest with
  | nil =>
    cases heq
    rw [hslash] at hhi
    cases hhi
  | cons c rest =>
    cases rest with
    | nil =>
      cases heq
      rw [hslash] at hlo
      cases hlo
    | cons e rest =>
      cases heq
      exact ⟨hi, lo, rest, h, l, rfl, hhi, hlo⟩

/-- Both sides of a slash are decoded on their own. -/
theorem decodeBytes_append_slash (after : Bytes) : ∀ before : Bytes,
    decodeBytes (before ++ slash :: after) = decodeBytes before ++ slash :: decodeBytes after
  | [] => by
    refine decodeBytes_literal ?_
    rintro ⟨hi, lo, tail, h, l, heq, -⟩
    cases heq
  | b :: rest => by
    by_cases hescape : StartsEscape (b :: rest)
    · obtain ⟨hi, lo, tail, h, l, heq, hhi, hlo⟩ := hescape
      cases heq
      rw [List.cons_append, List.cons_append, List.cons_append, decodeBytes_escape hhi hlo,
        decodeBytes_escape hhi hlo, decodeBytes_append_slash after tail]
      rfl
    · have hlonger : ¬StartsEscape (b :: (rest ++ slash :: after)) := fun h =>
        hescape (startsEscape_of_append_slash h)
      rw [List.cons_append, decodeBytes_literal hlonger, decodeBytes_literal hescape,
        decodeBytes_append_slash after rest]
      rfl

/-! ### What escapes are -/

/-- A byte is the hexadecimal digit of a number, a letter being a capital or a small one. -/
def IsDigitOf (n b : UInt8) : Prop :=
  n.toNat < 16 ∧ (b = byteOf (hexDigit n.toNat) ∨ b = byteOf (hexDigit n.toNat).toLower)

instance (n b : UInt8) : Decidable (IsDigitOf n b) := inferInstanceAs (Decidable (_ ∧ _))

/-- Two digits behind a percent sign stand for a byte. -/
def IsEscapeOf (value hi lo : UInt8) : Prop :=
  ∃ h l, IsDigitOf h hi ∧ IsDigitOf l lo ∧ value = h * 16 + l

/-- What a text stands for, read once from its front to its end: an escape stands for its byte, and
a byte that starts no escape for itself. -/
inductive Decodes : Bytes → Bytes → Prop
  | nil : Decodes [] []
  | escape {value hi lo : UInt8} {rest bs : Bytes} (h : IsEscapeOf value hi lo)
      (hrest : Decodes rest bs) : Decodes (37 :: hi :: lo :: rest) (value :: bs)
  | literal {b : UInt8} {rest bs : Bytes}
      (h : ∀ value hi lo tail, b :: rest = 37 :: hi :: lo :: tail → ¬IsEscapeOf value hi lo)
      (hrest : Decodes rest bs) : Decodes (b :: rest) (b :: bs)

theorem isDigitOf_of_digit? : ∀ b : UInt8, ∀ n ∈ digit? b, IsDigitOf n b :=
  forall_byte (by decide +kernel)

theorem digit?_byteOf : ∀ n < 16, digit? (byteOf (hexDigit n)) = some (UInt8.ofNat n) ∧
    digit? (byteOf (hexDigit n).toLower) = some (UInt8.ofNat n) := by
  decide

/-- The digits that are read are the hexadecimal ones. -/
theorem digit?_eq_some_iff {n : UInt8} : digit? b = some n ↔ IsDigitOf n b := by
  constructor
  · intro h
    exact isDigitOf_of_digit? b n h
  · rintro ⟨hn, rfl | rfl⟩
    · simpa using (digit?_byteOf n.toNat hn).1
    · simpa using (digit?_byteOf n.toNat hn).2

/-- A text starts with an escape if two digits follow a percent sign. -/
theorem startsEscape_iff {bs : Bytes} :
    StartsEscape bs ↔ ∃ value hi lo tail, bs = 37 :: hi :: lo :: tail ∧ IsEscapeOf value hi lo := by
  constructor
  · rintro ⟨hi, lo, tail, h, l, rfl, hhi, hlo⟩
    exact ⟨_, hi, lo, tail, rfl, h, l, digit?_eq_some_iff.1 hhi, digit?_eq_some_iff.1 hlo, rfl⟩
  · rintro ⟨_, hi, lo, tail, rfl, h, l, hhi, hlo, rfl⟩
    exact ⟨hi, lo, tail, h, l, rfl, digit?_eq_some_iff.2 hhi, digit?_eq_some_iff.2 hlo⟩

theorem decodes_decodeBytes : ∀ text : Bytes, Decodes text (decodeBytes text)
  | [] => .nil
  | b :: rest => by
    by_cases hescape : StartsEscape (b :: rest)
    · obtain ⟨hi, lo, tail, h, l, heq, hhi, hlo⟩ := hescape
      cases heq
      rw [decodeBytes_escape hhi hlo]
      have hvalue : IsEscapeOf (h * 16 + l) hi lo :=
        ⟨h, l, digit?_eq_some_iff.1 hhi, digit?_eq_some_iff.1 hlo, rfl⟩
      exact .escape hvalue (decodes_decodeBytes tail)
    · rw [decodeBytes_literal hescape]
      refine .literal ?_ (decodes_decodeBytes rest)
      intro value hi lo tail heq hvalue
      exact hescape (startsEscape_iff.2 ⟨value, hi, lo, tail, heq, hvalue⟩)

/-- A text stands for the bytes that are decoded of it, and for no others. -/
theorem decodes_iff {text bs : Bytes} : Decodes text bs ↔ bs = decodeBytes text := by
  constructor
  · intro h
    induction h with
    | nil => rfl
    | escape h hrest ih =>
      obtain ⟨h, l, hhi, hlo, rfl⟩ := h
      rw [decodeBytes_escape (digit?_eq_some_iff.2 hhi) (digit?_eq_some_iff.2 hlo), ih]
    | literal h hrest ih =>
      have hescape : ¬StartsEscape _ := fun hstarts => by
        obtain ⟨value, hi, lo, tail, heq, hvalue⟩ := startsEscape_iff.1 hstarts
        exact h value hi lo tail heq hvalue
      rw [decodeBytes_literal hescape, ih]
  · rintro rfl
    exact decodes_decodeBytes text

end FileServer.Percent
