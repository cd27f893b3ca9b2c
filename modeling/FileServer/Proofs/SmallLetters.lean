import FileServer.Text.LowerCase

/-!
Lower-casing leaves nothing to lower-case. No small letter of the table is a capital of it, which is
checked for every two runs: they lie apart, or else the letters of one are gone through. So a text
in lower case has only characters that stay as they are, and lower-casing it again changes nothing.
-/

namespace FileServer.Text

variable {c : Char} {cs : List Char} {run other : CaseRun} {n : Nat}

/-! ### Runs of capitals -/

/-- The small letter of a capital in the run. -/
def CaseRun.small (run : CaseRun) (n : Nat) : Nat := (n + run.shift).toNat

/-- The capitals in the run. -/
def CaseRun.capitals (run : CaseRun) : List Nat :=
  (List.range ((run.last - run.first) / run.stride + 1)).map fun i => run.first + i * run.stride

/-- None of the small letters of a run is a capital of the other. -/
def CaseRun.misses (run other : CaseRun) : Bool :=
  Nat.blt (run.small run.last) other.first || Nat.blt other.last (run.small run.first) ||
    run.capitals.all fun n => !other.holds (run.small n)

/-- The characters that lower-casing replaces: the runs of capitals, and a capital I with a dot. -/
def replacedRuns : List CaseRun := ⟨0x130, 0x130, 1, 0⟩ :: caseRuns

theorem CaseRun.holds_iff : run.holds n = true ↔
    run.first ≤ n ∧ n ≤ run.last ∧ (n - run.first) % run.stride = 0 := by
  simp [CaseRun.holds, and_assoc]

theorem CaseRun.mem_capitals (h : run.holds n = true) : n ∈ run.capitals := by
  obtain ⟨hfirst, hlast, hstride⟩ := CaseRun.holds_iff.1 h
  have hsteps : run.stride * ((n - run.first) / run.stride) = n - run.first := by
    have := Nat.div_add_mod (n - run.first) run.stride
    omega
  have hmost : (n - run.first) / run.stride ≤ (run.last - run.first) / run.stride :=
    Nat.div_le_div_right (by omega)
  refine List.mem_map.2 ⟨(n - run.first) / run.stride, List.mem_range.2 (by omega), ?_⟩
  rw [Nat.mul_comm, hsteps]
  omega

/-- What is checked for two runs holds for every capital. -/
theorem CaseRun.not_holds_small (hmisses : run.misses other = true) (h : run.holds n = true) :
    other.holds (run.small n) = false := by
  obtain ⟨hfirst, hlast, -⟩ := CaseRun.holds_iff.1 h
  have hleast : run.small run.first ≤ run.small n := by unfold CaseRun.small; omega
  have hgreatest : run.small n ≤ run.small run.last := by unfold CaseRun.small; omega
  simp only [CaseRun.misses, Bool.or_eq_true, Nat.blt_eq] at hmisses
  rcases hmisses with (hbelow | habove) | hall
  · rw [Bool.eq_false_iff, Ne, CaseRun.holds_iff]
    omega
  · rw [Bool.eq_false_iff, Ne, CaseRun.holds_iff]
    omega
  · simpa using List.all_eq_true.1 hall n (CaseRun.mem_capitals h)

theorem misses_replacedRuns : (caseRuns.all fun run => replacedRuns.all run.misses) = true := by
  decide +kernel

/-! ### Characters that stay -/

/-- A character that lower-casing does not replace. -/
def IsSmall (c : Char) : Prop := ∀ run ∈ replacedRuns, run.holds c.toNat = false

instance (c : Char) : Decidable (IsSmall c) := List.decidableBAll _ replacedRuns

theorem IsSmall.smallLetter (h : IsSmall c) : smallLetter c = c := by
  have hnone : caseRuns.find? (·.holds c.toNat) = none := by
    simpa using fun run hrun => h run (List.mem_cons_of_mem _ hrun)
  rw [Text.smallLetter, hnone]

theorem IsSmall.ne_sigma (h : IsSmall c) : c ≠ 'Σ' := by
  rintro rfl
  exact absurd h (by decide +kernel)

theorem IsSmall.ne_dotted (h : IsSmall c) : c ≠ 'İ' := by
  rintro rfl
  exact absurd h (by decide +kernel)

/-- A number that belongs to no character stands for the first one. -/
theorem toNat_ofNat_cases (n : Nat) : (Char.ofNat n).toNat = n ∨ (Char.ofNat n).toNat = 0 := by
  by_cases hvalid : n.isValidChar
  · rw [Char.ofNat, dif_pos hvalid]
    exact .inl rfl
  · rw [Char.ofNat, dif_neg hvalid]
    exact .inr rfl

/-- A small letter of the table is no capital of it. -/
theorem isSmall_small (hrun : run ∈ caseRuns) (h : run.holds n = true) :
    IsSmall (Char.ofNat (run.small n)) := by
  intro other hother
  have hmisses : run.misses other = true :=
    List.all_eq_true.1 (List.all_eq_true.1 misses_replacedRuns run hrun) other hother
  have hzero : ∀ other ∈ replacedRuns, other.holds 0 = false := by decide +kernel
  rcases toNat_ofNat_cases (run.small n) with hsame | hfirst
  · rw [hsame]
    exact CaseRun.not_holds_small hmisses h
  · rw [hfirst]
    exact hzero other hother

/-- The small letter of a character stays as it is. -/
theorem isSmall_smallLetter (h : c ≠ 'İ') : IsSmall (smallLetter c) := by
  unfold smallLetter
  split
  case h_1 run hfind =>
    have hholds := List.find?_some (p := fun run : CaseRun => run.holds c.toNat) hfind
    exact isSmall_small (List.mem_of_find?_eq_some hfind) hholds
  case h_2 hfind =>
    have hdotted : CaseRun.holds ⟨0x130, 0x130, 1, 0⟩ c.toNat = false := by
      rw [Bool.eq_false_iff, Ne, CaseRun.holds_iff]
      rintro ⟨hfirst, hlast, -⟩
      exact h (Char.toNat_inj.1 (Nat.le_antisymm hlast hfirst))
    refine List.forall_mem_cons.2 ⟨hdotted, fun run hrun => ?_⟩
    simpa using List.find?_eq_none.1 hfind run hrun

/-! ### Texts that stay -/

theorem isSmall_smallSigma (before after : List Char) : IsSmall (smallSigma before after) := by
  unfold smallSigma
  split <;> decide +kernel

/-- What a capital I with a dot becomes stays. -/
theorem isSmall_of_mem_dotted (h : c ∈ ['i', '\u0307']) : IsSmall c := by
  rw [List.mem_cons, List.mem_singleton] at h
  obtain rfl | rfl := h <;> decide +kernel

theorem isSmall_lowerAfter (before : List Char) : ∀ c ∈ lowerAfter before cs, IsSmall c := by
  induction cs generalizing before with
  | nil => simp [lowerAfter]
  | cons c rest ih =>
    rw [lowerAfter, List.forall_mem_append]
    refine ⟨?_, ih _⟩
    split
    · exact List.forall_mem_singleton.2 (isSmall_smallSigma before rest)
    · split
      · exact fun c => isSmall_of_mem_dotted
      case isFalse h => exact List.forall_mem_singleton.2 (isSmall_smallLetter (by simpa using h))

/-- A text without characters that are replaced stays as it is. -/
theorem lowerAfter_of_isSmall (h : ∀ c ∈ cs, IsSmall c) (before : List Char) :
    lowerAfter before cs = cs := by
  induction cs generalizing before with
  | nil => rfl
  | cons c rest ih =>
    obtain ⟨hc, hrest⟩ := List.forall_mem_cons.1 h
    rw [lowerAfter, beq_false_of_ne hc.ne_sigma, beq_false_of_ne hc.ne_dotted, ih hrest]
    simp [hc.smallLetter]

/-- Lower-casing a text again changes nothing. -/
theorem lower_lower (s : String) : lower (lower s) = lower s := by
  rw [lower, lower, String.toList_ofList, lowerAfter_of_isSmall (isSmall_lowerAfter [])]

end FileServer.Text
