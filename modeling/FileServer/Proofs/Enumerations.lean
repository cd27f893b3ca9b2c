import Mathlib.Data.List.Basic
import Mathlib.Data.List.Nodup

/-!
Tables as enumerations of finite maps. A list of keys and values enumerates a map if it holds every
key of the map with its value, and nothing else. In whatever order it does so, looking a key up in
the list is asking the map.
-/

namespace FileServer

variable {α β : Type}

/-- A list holds the keys of a map with their values, in some order. -/
def Enumerates (entries : List (α × β)) (map : α → Option β) : Prop :=
  ∀ a b, (a, b) ∈ entries ↔ map a = some b

variable {entries other : List (α × β)} {map : α → Option β}

theorem Enumerates.perm (h : Enumerates entries map) (hperm : other.Perm entries) :
    Enumerates other map := by
  intro a b
  rw [hperm.mem_iff]
  exact h a b

variable [BEq α] [LawfulBEq α]

/-- A list without repeated keys enumerates what is looked up in it. -/
theorem enumerates_lookup (h : (entries.map (·.1)).Nodup) :
    Enumerates entries fun a => entries.lookup a := by
  intro a b
  induction entries with
  | nil => simp
  | cons e rest ih =>
    obtain ⟨k, v⟩ := e
    rw [List.map_cons, List.nodup_cons] at h
    rcases eq_or_ne a k with rfl | hkey
    · -- the rest has no entry for the key of the first one
      have hrest : (a, b) ∉ rest := fun hmem => h.1 (List.mem_map.2 ⟨(a, b), hmem, rfl⟩)
      simp [hrest, eq_comm]
    · simpa [List.lookup_cons, beq_false_of_ne hkey, hkey] using ih h.2

/-- Whatever the order of the list, a key is found with the value that it has in the map. -/
theorem Enumerates.lookup (h : Enumerates entries map) (a : α) : entries.lookup a = map a := by
  cases hlookup : entries.lookup a with
  | some b =>
    obtain ⟨before, behind, rfl, -⟩ := List.lookup_eq_some_iff.1 hlookup
    exact ((h a b).1 (by simp)).symm
  | none =>
    cases hmap : map a with
    | none => rfl
    | some b =>
      have hno := List.lookup_eq_none_iff.1 hlookup (a, b) ((h a b).2 hmap)
      simp at hno

end FileServer
