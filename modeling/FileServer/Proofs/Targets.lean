import FileServer.Message.Headers
import FileServer.Proofs.Percent
import FileServer.Proofs.Refusals
import FileServer.Uri.Target

/-!
What the target of a request can hold. The bytes of its path and its query are bytes of the target
as it came, each of a class that leaves out the control bytes. The delete byte alone could still
stand in a query; without it, path and query may be repeated in a header.
-/

namespace FileServer

variable {bs : Bytes} {t : Target}

/-- Bytes that may be repeated in a header, the tab left aside. -/
def IsFieldByte (b : UInt8) : Prop := 32 ≤ b ∧ b ≠ 127

instance (b : UInt8) : Decidable (IsFieldByte b) := inferInstanceAs (Decidable (_ ∧ _))

theorem isHeaderValue_of_forall (h : ∀ b ∈ bs, IsFieldByte b) : isHeaderValue bs = true := by
  refine List.all_eq_true.2 fun b hb => ?_
  obtain ⟨hlow, hdel⟩ := h b hb
  simp [hlow, hdel]

namespace Target

/-- What the target holds was read from bytes: those of the path are of the class of paths, and
those of the query came with the target and are of the class of queries. -/
structure IsRead (bs : Bytes) (t : Target) : Prop where
  path : ∀ b ∈ Utf8.ofString t.path, isPathByte b = true
  query : ∀ query, t.query = some query → ∀ b ∈ Utf8.ofString query, isQueryByte b = true ∧ b ∈ bs

/-- The bytes may stand at the end of more. -/
theorem IsRead.of_suffix {all : Bytes} (h : t.IsRead bs) (hsuffix : bs <:+ all) : t.IsRead all where
  path := h.path
  query query hquery b hb := (h.query query hquery b hb).imp_right fun hmem => hsuffix.subset hmem

/-- A target without a query is read if its path is. -/
theorem isRead_of_path {path : String} (h : ∀ b ∈ Utf8.ofString path, isPathByte b = true) :
    IsRead bs { path } := ⟨h, by rintro _ ⟨⟩⟩

/-- The bytes of a path that was read are of the class of paths. -/
theorem isPathByte_of_mem {path : String} (hgood : bs.all isPathByte = true)
    (h : Utf8.toString? bs = some path) :
    ∀ b ∈ Utf8.ofString (if path.isEmpty then "/" else path), isPathByte b = true := by
  split
  · decide +kernel
  · rw [Utf8.ofString_of_toString? h]
    exact fun b hb => List.all_eq_true.1 hgood b hb

theorem isRead_ofPathAndQuery (h : ofPathAndQuery bs = .ok t) : t.IsRead bs := by
  unfold ofPathAndQuery at h
  dsimp only at h
  split at h
  case h_1 rest hdrop =>
    split at h
    case isFalse => cases h
    case isTrue hgood =>
      rw [Bool.and_eq_true] at hgood
      rw [Option.map_some] at h
      split at h
      case h_1 _ _ _ hnone => cases hnone
      case h_2 path query hpath hquery =>
        cases h
        have hsub : rest.takeWhile (· != 35) ⊆ bs := fun b hb =>
          List.mem_of_mem_drop (hdrop ▸ List.mem_cons_of_mem _ ((List.takeWhile_subset _) hb))
        refine ⟨isPathByte_of_mem hgood.1 hpath, fun q hq b hb => ?_⟩
        cases hq
        rw [Utf8.ofString_of_toString? (Option.some.inj hquery)] at hb
        exact ⟨List.all_eq_true.1 hgood.2 b hb, hsub hb⟩
      case h_3 => cases h
  case h_2 =>
    split at h
    case isFalse => cases h
    case isTrue hgood =>
      rw [Bool.and_eq_true] at hgood
      rw [Option.map_none] at h
      split at h
      case h_1 path hpath _ =>
        cases h
        exact isRead_of_path (isPathByte_of_mem hgood.1 hpath)
      case h_2 _ _ _ hquery => cases hquery
      case h_3 => cases h

/-! ### Targets with an authority -/

variable {authority rest : Bytes}

/-- What follows an authority is the end of the bytes. -/
theorem suffix_of_splitAuthority (h : splitAuthority bs = .ok (authority, rest)) :
    rest <:+ bs := by
  unfold splitAuthority at h
  obtain ⟨scan, -, h⟩ := bind_eq_ok_iff.1 h
  split at h
  case isTrue =>
    cases h
    exact List.drop_suffix _ _
  case isFalse => cases h

/-- What follows a scheme is the end of the bytes. -/
theorem suffix_of_afterScheme? (h : afterScheme? bs = .ok (some rest)) : rest <:+ bs := by
  unfold afterScheme? at h
  dsimp only at h
  split at h
  case h_1 rest hdrop =>
    split at h
    case isTrue => cases h
    case isFalse =>
      cases h
      have hdropped : 58 :: 47 :: 47 :: rest <:+ bs := hdrop ▸ List.drop_suffix _ bs
      exact (List.suffix_append [58, 47, 47] rest).trans hdropped
  case h_2 => cases h

theorem isRead_ofAbsolute (h : ofAbsolute bs = .ok t) : t.IsRead bs := by
  unfold ofAbsolute at h
  obtain ⟨after, hafter, h⟩ := bind_eq_ok_iff.1 h
  cases after with
  | none =>
    obtain ⟨⟨_, rest⟩, -, h⟩ := bind_eq_ok_iff.1 h
    dsimp only at h
    split at h
    · cases h
      exact isRead_of_path (by decide +kernel)
    · cases h
  | some rest =>
    dsimp only at h
    split at h
    case isTrue => cases h
    case isFalse =>
      obtain ⟨parts, hparts, h⟩ := bind_eq_ok_iff.1 h
      split at h
      case isTrue => cases h
      case isFalse =>
        have hsuffix : parts.2 <:+ bs :=
          (suffix_of_splitAuthority hparts).trans (suffix_of_afterScheme? hafter)
        exact (isRead_ofPathAndQuery h).of_suffix hsuffix

/-! ### All targets -/

/-- What a target holds was read from its bytes, whatever form it has. -/
theorem isRead_ofBytes (h : ofBytes bs = .ok t) : t.IsRead bs := by
  unfold ofBytes at h
  split at h
  case isTrue => cases h
  case isFalse =>
    split at h
    case h_1 => cases h
    case h_2 =>
      cases h
      exact isRead_of_path (by decide +kernel)
    case h_3 =>
      cases h
      exact isRead_of_path (by decide +kernel)
    case h_4 =>
      obtain ⟨⟨_, rest⟩, -, h⟩ := bind_eq_ok_iff.1 h
      dsimp only at h
      split at h
      · cases h
        exact isRead_of_path (by decide +kernel)
      · cases h
    case h_5 => exact isRead_ofPathAndQuery h
    case h_6 => exact isRead_ofAbsolute h

/-! ### Repeating what was read -/

/-- Path and query may be repeated in a header. -/
structure IsRepeatable (t : Target) : Prop where
  path : isHeaderValue (Utf8.ofString t.path) = true
  query : ∀ query, t.query = some query → isHeaderValue (Utf8.ofString query) = true

theorem isFieldByte_of_isPathByte : ∀ b : UInt8, isPathByte b = true → IsFieldByte b :=
  Percent.forall_byte (by decide +kernel)

theorem isFieldByte_of_isQueryByte : ∀ b : UInt8, isQueryByte b = true → b ≠ 127 → IsFieldByte b :=
  Percent.forall_byte (by decide +kernel)

/-- What a target that was read holds may be repeated in a header, unless something was deleted in
it. -/
theorem isRepeatable_ofBytes (hdel : 127 ∉ bs) (h : ofBytes bs = .ok t) : t.IsRepeatable := by
  have hread := isRead_ofBytes h
  constructor
  · exact isHeaderValue_of_forall fun b hb => isFieldByte_of_isPathByte b (hread.path b hb)
  · intro query hquery
    refine isHeaderValue_of_forall fun b hb => ?_
    obtain ⟨hclass, hmem⟩ := hread.query query hquery b hb
    exact isFieldByte_of_isQueryByte b hclass fun heq => hdel (heq ▸ hmem)

end Target

end FileServer
