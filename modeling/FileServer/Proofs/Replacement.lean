import FileServer.AccessLog.Format

/-!
Replacing all occurrences of one part of a text. A text is replaced piece by piece if no occurrence
lies across the border of two pieces:

    ······ m wo│rd ······     a mark and a word that lie across begin in front of the border,
        text   │  rest        so the rest begins with a character of the word

What does not occur is not replaced, and the part alone becomes what is put in its place.
-/

namespace FileServer.Text

variable {part text rest replacement word : List Char} {c mark : Char}

/-! ### One step -/

/-- The characters that still belong to an occurrence are dropped. -/
theorem replaceFrom_eq_drop : ∀ (skip : Nat) (text : List Char),
    replaceFrom part replacement skip text = replaceAll part replacement (text.drop skip)
  | 0, _ => rfl
  | skip + 1, [] => by simp only [replaceFrom, List.drop_nil, replaceAll]
  | skip + 1, _ :: rest => by
    rw [replaceFrom, List.drop_succ_cons]
    exact replaceFrom_eq_drop skip rest

/-- An occurrence at the front is replaced. -/
theorem replaceAll_append_of_ne_nil (hne : part ≠ []) (rest : List Char) :
    replaceAll part replacement (part ++ rest) =
      replacement ++ replaceAll part replacement rest := by
  obtain ⟨c, tail, rfl⟩ := List.exists_cons_of_ne_nil hne
  have hfront : (c :: tail).isPrefixOf (c :: (tail ++ rest)) = true :=
    List.isPrefixOf_iff_prefix.2 (List.prefix_append (c :: tail) rest)
  rw [List.cons_append, replaceAll, replaceFrom, if_pos hfront, replaceFrom_eq_drop]
  simp only [List.length_cons, Nat.add_sub_cancel, List.drop_left]

/-- The part alone becomes what is put in its place. -/
theorem replaceAll_self (hne : part ≠ []) : replaceAll part replacement part = replacement := by
  have h : replaceAll part replacement (part ++ []) = replacement ++ replaceAll part replacement [] :=
    replaceAll_append_of_ne_nil hne []
  simpa only [List.append_nil, replaceAll, replaceFrom] using h

/-- A character at which no occurrence begins stays. -/
theorem replaceAll_cons (h : ¬part <+: c :: text) :
    replaceAll part replacement (c :: text) = c :: replaceAll part replacement text := by
  rw [← List.isPrefixOf_iff_prefix] at h
  rw [replaceAll, replaceFrom, if_neg h]
  rfl

/-- A text in which the part does not occur stays as it is. -/
theorem replaceAll_of_not_infix : ∀ {text : List Char}, ¬part <:+: text →
    replaceAll part replacement text = text
  | [], _ => by rw [replaceAll, replaceFrom]
  | c :: text, h => by
    have hfront : ¬part <+: c :: text := fun hprefix => h hprefix.isInfix
    have hrest : ¬part <:+: text := fun hinfix => h (List.infix_cons hinfix)
    rw [replaceAll_cons hfront, replaceAll_of_not_infix hrest]

/-! ### Borders -/

/-- An occurrence that begins in a text ends in it, if what follows cannot go on with the word. -/
theorem prefix_of_prefix_append (hrest : ∀ c ∈ rest.head?, c ∉ word)
    (h : mark :: word <+: c :: text ++ rest) : mark :: word <+: c :: text := by
  rcases List.prefix_or_prefix_of_prefix h (List.prefix_append (c :: text) rest) with hin | hout
  · exact hin
  -- the text ends before the part does, so what follows goes on with the word
  · obtain ⟨more, hmore⟩ := hout
    rw [← hmore, List.prefix_append_right_inj] at h
    cases more with
    | nil => exact ⟨[], by rw [← hmore, List.append_nil, List.append_nil]⟩
    | cons x more =>
      obtain ⟨tail, rfl⟩ := h
      have hx : x ∈ word := by
        rw [List.cons_append, List.cons.injEq] at hmore
        rw [← hmore.2]
        exact List.mem_append_right _ List.mem_cons_self
      exact absurd hx (hrest x rfl)

/-- Replacing starts afresh behind a border that no occurrence lies across; characters that still
belong to an occurrence stand in front of it. -/
theorem replaceFrom_append (hrest : ∀ c ∈ rest.head?, c ∉ word) :
    ∀ {skip : Nat} {text : List Char}, skip ≤ text.length →
      replaceFrom (mark :: word) replacement skip (text ++ rest) =
        replaceFrom (mark :: word) replacement skip text ++
          replaceAll (mark :: word) replacement rest
  | 0, [], _ => by
    rw [List.nil_append, replaceFrom, List.nil_append]
    rfl
  | skip + 1, _ :: text, hskip => by
    rw [List.cons_append, replaceFrom, replaceFrom]
    exact replaceFrom_append hrest (Nat.le_of_succ_le_succ hskip)
  | 0, c :: text, _ => by
    by_cases hfront : mark :: word <+: c :: text
    · have hlong : mark :: word <+: c :: (text ++ rest) :=
        hfront.trans (List.prefix_append (c :: text) rest)
      have hlength : (mark :: word).length - 1 ≤ text.length :=
        Nat.sub_le_of_le_add hfront.length_le
      rw [List.cons_append, replaceFrom, replaceFrom,
        if_pos (List.isPrefixOf_iff_prefix.2 hlong), if_pos (List.isPrefixOf_iff_prefix.2 hfront),
        replaceFrom_append hrest hlength, List.append_assoc]
    · have hlong : ¬mark :: word <+: c :: (text ++ rest) := fun h =>
        hfront (prefix_of_prefix_append hrest h)
      have ih := replaceFrom_append hrest (Nat.zero_le text.length)
      rw [List.cons_append]
      calc replaceAll (mark :: word) replacement (c :: (text ++ rest))
          = c :: replaceAll (mark :: word) replacement (text ++ rest) := replaceAll_cons hlong
        _ = c :: (replaceAll (mark :: word) replacement text ++
              replaceAll (mark :: word) replacement rest) := congrArg (c :: ·) ih
        _ = replaceAll (mark :: word) replacement (c :: text) ++
              replaceAll (mark :: word) replacement rest := by
          rw [replaceAll_cons hfront, List.cons_append]

theorem replaceAll_append (hrest : ∀ c ∈ rest.head?, c ∉ word) (text : List Char) :
    replaceAll (mark :: word) replacement (text ++ rest) =
      replaceAll (mark :: word) replacement text ++ replaceAll (mark :: word) replacement rest :=
  replaceFrom_append hrest (Nat.zero_le text.length)

end FileServer.Text
