import FileServer.Calendar.HttpDate
import FileServer.Message.Headers
import FileServer.Proofs.PlainTexts
import FileServer.Proofs.Utf8

/-!
Texts of printable characters, which may always stand in a header: numbers and dates.
-/

namespace FileServer

/-- From the blank to the tilde. -/
def IsPrintable (c : Char) : Prop := 32 ≤ c.toNat ∧ c.toNat < 127

instance (c : Char) : Decidable (IsPrintable c) := inferInstanceAs (Decidable (_ ∧ _))

/-- A list of printable characters. -/
def AllPrintable (cs : List Char) : Prop := ∀ c ∈ cs, IsPrintable c

instance (cs : List Char) : Decidable (AllPrintable cs) :=
  List.decidableBAll _ cs

variable {cs ds : List Char} {c : Char}

/-- A printable text may stand in a header. -/
theorem isHeaderValue_encode (h : AllPrintable cs) : isHeaderValue (Utf8.encode cs) = true := by
  rw [Utf8.encode_of_forall_lt fun c hc => Nat.lt_trans (h c hc).2 (by omega), isHeaderValue,
    List.all_map, List.all_eq_true]
  intro c hc
  obtain ⟨hlow, hhigh⟩ := h c hc
  have hb : (UInt8.ofNat c.toNat).toNat = c.toNat := by
    rw [UInt8.toNat_ofNat']
    omega
  have hle : (32 : UInt8) ≤ UInt8.ofNat c.toNat := by
    rw [UInt8.le_iff_toNat_le, hb]
    exact hlow
  have hne : UInt8.ofNat c.toNat ≠ 127 := fun heq => by
    have hdel := congrArg UInt8.toNat heq
    rw [hb, show (127 : UInt8).toNat = 127 from rfl] at hdel
    omega
  simp [hle, hne]

/-- Every character of a printable text has one byte. -/
theorem length_encode (h : AllPrintable cs) : (Utf8.encode cs).length = cs.length := by
  rw [Utf8.encode_of_forall_lt fun c hc => Nat.lt_trans (h c hc).2 (by omega), List.length_map]

/-! ### Numbers -/

/-- What is plain is printable. -/
theorem IsPlain.isPrintable (h : IsPlain c) : IsPrintable c := by
  rcases h with hname | hmark
  · rcases Bool.or_eq_true_iff.1 hname with hletter | hdigit
    · rcases Bool.or_eq_true_iff.1 hletter with hcapital | hsmall
      · obtain ⟨hlow, hhigh⟩ : 65 ≤ c.toNat ∧ c.toNat ≤ 90 := of_decide_eq_true hcapital
        exact ⟨by omega, by omega⟩
      · obtain ⟨hlow, hhigh⟩ := Bool.and_eq_true_iff.1 hsmall
        have hfrom : 97 ≤ c.toNat := of_decide_eq_true hlow
        have hto : c.toNat ≤ 122 := of_decide_eq_true hhigh
        exact ⟨by omega, by omega⟩
    · obtain ⟨hlow, hhigh⟩ := Bool.and_eq_true_iff.1 hdigit
      have hfrom : 48 ≤ c.toNat := of_decide_eq_true hlow
      have hto : c.toNat ≤ 57 := of_decide_eq_true hhigh
      exact ⟨by omega, by omega⟩
  · exact (show AllPrintable ['+', '-', '.', '/', ':'] by decide) c hmark

theorem AllPlain.allPrintable (h : AllPlain cs) : AllPrintable cs := fun c hc =>
  (h c hc).isPrintable

theorem allPrintable_decimal (n : Nat) : AllPrintable (Nat.toDigits 10 n) :=
  (allPlain_toDigits (by decide) (by decide) n).allPrintable

/-! ### Dates -/

theorem AllPrintable.append (h : AllPrintable cs) (h' : AllPrintable ds) :
    AllPrintable (cs ++ ds) := List.forall_mem_append.2 ⟨h, h'⟩

theorem AllPrintable.cons (hc : IsPrintable c) (h : AllPrintable cs) : AllPrintable (c :: cs) :=
  List.forall_mem_cons.2 ⟨hc, h⟩

/-- A date is printable. -/
theorem allPrintable_date {t : Instant} {date : String}
    (h : Calendar.HttpDate.write? t = some date) : AllPrintable date.toList := by
  unfold Calendar.HttpDate.write? at h
  split at h
  case isFalse => cases h
  case isTrue =>
    rw [← Option.some.inj h, String.toList_ofList]
    have hblank : IsPrintable ' ' := by decide
    refine .append (.append (.append (.append (.append (.append ?_ ?_) ?_) ?_) ?_) ?_) ?_
    · exact (allPlain_dayName _).allPrintable
    · decide
    · exact (allPlain_padded _ _).allPrintable
    · exact .cons hblank (allPlain_monthName _).allPrintable
    · exact .cons hblank (allPlain_yearText _).allPrintable
    · exact .cons hblank (allPlain_timeText _).allPrintable
    · decide

/-- A date may stand in a header. -/
theorem isHeaderValue_date {t : Instant} {date : String}
    (h : Calendar.HttpDate.write? t = some date) :
    isHeaderValue (Utf8.ofString date) = true := isHeaderValue_encode (allPrintable_date h)

end FileServer
