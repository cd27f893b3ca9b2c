import FileServer.Text.LowerCase

/-!
Small letters of plain text. Of the runs of capitals only the first lies among the characters of
seven bits, so such a text is lower-cased letter by letter, like one where only A to Z have case.
-/

namespace FileServer.Text

variable {c : Char} {cs : List Char} {s : String}

/-- All characters have seven bits. -/
def IsPlain (cs : List Char) : Prop := ∀ c ∈ cs, c.toNat < 128

-- the characters of the text are gone through, not all characters that there are
instance (cs : List Char) : Decidable (IsPlain cs) :=
  List.decidableBAll (fun c : Char => c.toNat < 128) cs

theorem smallLetter_plain (h : c.toNat < 128) : smallLetter c = c.toLower := by
  obtain ⟨rest, hruns, hrest⟩ : ∃ rest, caseRuns = ⟨0x41, 0x5A, 1, 32⟩ :: rest ∧
      ∀ run ∈ rest, 128 ≤ run.first := ⟨caseRuns.tail, rfl, by decide +kernel⟩
  have hnone : rest.find? (·.holds c.toNat) = none := by
    rw [List.find?_eq_none]
    intro run hrun hholds
    have hfirst := hrest run hrun
    simp only [CaseRun.holds, Bool.and_eq_true, decide_eq_true_eq] at hholds
    omega
  have hletters : ∀ n < 128, (if 65 ≤ n ∧ n ≤ 90 then Char.ofNat (n + 32) else Char.ofNat n) =
      (Char.ofNat n).toLower := by decide
  have hletter := hletters c.toNat h
  rw [Char.ofNat_toNat] at hletter
  rw [smallLetter, hruns, List.find?_cons, hnone, ← hletter]
  by_cases hcapital : 65 ≤ c.toNat ∧ c.toNat ≤ 90
  · simp [CaseRun.holds, hcapital, Nat.mod_one]
    rfl
  · have hfirst : CaseRun.holds ⟨0x41, 0x5A, 1, 32⟩ c.toNat = false := by
      simp [CaseRun.holds]
      omega
    rw [hfirst, if_neg hcapital]

theorem lowerAfter_plain (h : IsPlain cs) (before : List Char) :
    lowerAfter before cs = cs.map Char.toLower := by
  induction cs generalizing before with
  | nil => rfl
  | cons c rest ih =>
    have hc : c.toNat < 128 := h c List.mem_cons_self
    have hsigma : (c == 'Σ') = false := by
      refine beq_false_of_ne ?_
      rintro rfl
      exact absurd hc (by decide)
    have hdotted : (c == 'İ') = false := by
      refine beq_false_of_ne ?_
      rintro rfl
      exact absurd hc (by decide)
    rw [lowerAfter, hsigma, hdotted, ih fun c hmem => h c (List.mem_cons_of_mem _ hmem)]
    exact congrArg (· :: rest.map Char.toLower) (smallLetter_plain hc)

theorem lower_plain (h : IsPlain s.toList) :
    lower s = String.ofList (s.toList.map Char.toLower) :=
  congrArg String.ofList (lowerAfter_plain h [])

/-- A plain text of small letters stays as it is. -/
theorem lower_small (h : IsPlain s.toList) (hsmall : s.toList.map Char.toLower = s.toList) :
    lower s = s := by
  rw [lower_plain h, hsmall, String.ofList_toList]

end FileServer.Text
