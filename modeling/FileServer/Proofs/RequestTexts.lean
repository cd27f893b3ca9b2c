import FileServer.Message.Request
import FileServer.Proofs.Refusals
import FileServer.Proofs.Targets

/-!
The texts of an accepted request. Method, path and query are read from bytes of one class each, and a
character of ASCII stands in a text only if its byte stands among those that were read. So no
character gets into a text that the class of its bytes leaves out.
-/

namespace FileServer.Request

variable {q : Request} {method target : Bytes} {version : Version} {fields : List (Bytes × Bytes)}
  {c : Char}

/-- The method and the target of a request are read from the bytes that are accepted as one. -/
theorem parts_of_make (h : make method target version fields = .ok q) :
    isMethod method = true ∧ q.method = Utf8.toStringLossy method ∧
      Target.ofBytes target = .ok q.target := by
  unfold make at h
  split at h
  case isFalse => cases h
  case isTrue hmethod =>
    obtain ⟨t, ht, h⟩ := bind_eq_ok_iff.1 h
    obtain ⟨headers, -, h⟩ := bind_eq_ok_iff.1 h
    cases h
    exact ⟨hmethod, rfl, mapError_eq_ok_iff.1 ht⟩

/-- The byte of a character of ASCII is the number of the character. -/
theorem ofNat_toNat_byte (hascii : c.toNat < 128) : Char.ofNat (UInt8.ofNat c.toNat).toNat = c := by
  have hmod : c.toNat % 2 ^ 8 = c.toNat := Nat.mod_eq_of_lt (by omega)
  rw [UInt8.toNat_ofNat', hmod, Char.ofNat_toNat]

/-- A method holds characters of tokens only. -/
theorem notMem_method (h : make method target version fields = .ok q) (hascii : c.toNat < 128)
    (hclass : isTokenChar c = false) : c ∉ q.method.toList := by
  obtain ⟨hmethod, heq, -⟩ := parts_of_make h
  rw [isMethod, Bool.and_eq_true, List.all_eq_true] at hmethod
  intro hc
  rw [heq] at hc
  have htoken := hmethod.2 _ (Utf8.mem_of_mem_toStringLossy hascii hc)
  rw [ofNat_toNat_byte hascii, hclass] at htoken
  cases htoken

/-- Of ASCII a path holds characters of its class only. -/
theorem notMem_path (h : make method target version fields = .ok q) (hascii : c.toNat < 128)
    (hclass : Target.isPathByte (UInt8.ofNat c.toNat) = false) : c ∉ q.target.path.toList := by
  obtain ⟨-, -, htarget⟩ := parts_of_make h
  intro hc
  have hbyte := (Target.isRead_ofBytes htarget).path _ (Utf8.mem_ofString_of_mem hascii hc)
  rw [hclass] at hbyte
  cases hbyte

/-- Of ASCII a query holds characters of its class only. -/
theorem notMem_query (h : make method target version fields = .ok q) (hascii : c.toNat < 128)
    (hclass : Target.isQueryByte (UInt8.ofNat c.toNat) = false) :
    ∀ query, q.target.query = some query → c ∉ query.toList := by
  obtain ⟨-, -, htarget⟩ := parts_of_make h
  intro query hquery hc
  have hbyte := (Target.isRead_ofBytes htarget).query query hquery _
    (Utf8.mem_ofString_of_mem hascii hc)
  rw [hclass] at hbyte
  exact absurd hbyte.1 Bool.false_ne_true

end FileServer.Request
