import FileServer.Message.Response

/-!
The pieces in which a body is sent. They make up the body, so that its size is that of its bytes,
and those of a file are neither empty nor too large, whatever the size of the file.
-/

namespace FileServer.Body

/-- The number of bytes that are sent. -/
def size (b : Body) : Nat := b.pieces.flatten.length

variable {most : Nat} {piece : Bytes}

/-- Cutting loses nothing as long as there may be enough cuts. -/
theorem flatten_cut : ∀ {fuel : Nat} {bytes : Bytes}, bytes.length ≤ fuel * most →
    (cut most fuel bytes).flatten = bytes
  | 0, bytes, h => by
    rw [Nat.zero_mul, Nat.le_zero, List.length_eq_zero_iff] at h
    rw [h]
    rfl
  | fuel + 1, bytes, h => by
    rw [cut]
    split
    case isTrue hempty => rw [List.isEmpty_iff.1 hempty, List.flatten_nil]
    case isFalse =>
      have hrest : (bytes.drop most).length ≤ fuel * most := by
        rw [Nat.succ_mul] at h
        rw [List.length_drop]
        omega
      rw [List.flatten_cons, flatten_cut hrest, List.take_append_drop]

/-- No piece is empty or larger than allowed. -/
theorem length_mem_cut (hmost : 0 < most) : ∀ {fuel : Nat} {bytes : Bytes},
    piece ∈ cut most fuel bytes → 1 ≤ piece.length ∧ piece.length ≤ most
  | 0, _, h => by cases h
  | fuel + 1, bytes, h => by
    rw [cut] at h
    split at h
    case isTrue => cases h
    case isFalse hempty =>
      rcases List.mem_cons.1 h with rfl | h
      · have hpos : 0 < bytes.length := List.length_pos_iff.2 (by simpa using hempty)
        rw [List.length_take]
        omega
      · exact length_mem_cut hmost h

/-- The pieces make up the body. -/
theorem flatten_pieces (b : Body) : b.pieces.flatten = b.bytes := by
  cases b with
  | held bytes =>
    rw [pieces]
    split
    case isTrue hempty => exact (List.isEmpty_iff.1 hempty).symm
    case isFalse => exact List.append_nil bytes
  | streamed content =>
    refine flatten_cut ?_
    have := Nat.lt_div_mul_add (a := content.length) (b := pieceSize) (by decide)
    rw [Nat.succ_mul]
    omega

theorem size_eq (b : Body) : b.size = b.bytes.length := by
  rw [size, flatten_pieces]

/-- A file is sent in pieces of 1 to 65536 bytes, which make it up. -/
structure Streams (b : Body) (content : Bytes) : Prop where
  flatten : b.pieces.flatten = content
  bounded : ∀ piece ∈ b.pieces, 1 ≤ piece.length ∧ piece.length ≤ 65536

theorem streams_streamed (content : Bytes) : (streamed content).Streams content :=
  ⟨flatten_pieces _, fun _ h => length_mem_cut (by decide) h⟩

end FileServer.Body
