import FileServer.Text.Reader

/-!
Lists with one element.
-/

namespace FileServer.Text

variable {α β : Type} {skip : List Char → Option (List Char)} {closing : Char} {trailing : Bool}
  {element : Reader α} {x? : Option β} {a : β → α} {cs after rest : List Char}

theorem mark_of_ne {m c : Char} (h : c ≠ m) (cs : List Char) : mark m (c :: cs) = none :=
  if_neg (by simpa using h)

/-- A list of what one element is read as, without blanks in front of it. -/
theorem listing_single (hskip : skip cs = some cs) (hopen : mark closing cs = none)
    (helement : element cs = x?.map fun x => (a x, after))
    (hafter : skip after = some (closing :: rest)) (hne : cs ≠ []) :
    listing skip closing trailing element cs = x?.map fun x => ([a x], rest) := by
  obtain ⟨c, more, rfl⟩ := List.exists_cons_of_ne_nil hne
  simp only [listing, hskip, hopen, List.length_cons, elements, helement, Option.bind_eq_bind,
    Option.bind_some]
  cases x? with
  | none => rfl
  | some x => simp [hafter]

end FileServer.Text
