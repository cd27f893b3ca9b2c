import FileServer.Proofs.Refusals
import FileServer.Proofs.WholeNumbers
import FileServer.Settings.Yaml.Document
import Mathlib.Data.List.TakeWhile

/-!
Whole numbers in YAML. One that has 64 bits is read as it is, and any other one as the nearest
floating-point number.
-/

namespace FileServer.Yaml

open Text

variable {n : Int} {cs ds rest : List Char}

/-! ### Numbers -/

theorem readRadix?_toString (n : Int) :
    readRadix? 10 (toString n).toList = if Wide.holds n then some n else none := by
  obtain ⟨c, ds, hds⟩ := exists_digitsOf n
  have hsigned := readSign_toString n []
  rw [List.append_nil, List.append_nil] at hsigned
  have hfold := foldlM_hexValue? (fun c hc => isDigit_of_mem_digitsOf (n := n) hc) 0
  rw [← ofDigits, ofDigits_digitsOf] at hfold
  unfold readRadix?
  rw [hsigned]
  dsimp only
  rw [hfold, if_neg (by rw [hds]; simp)]
  simp only [Option.bind_eq_bind, Option.bind_some, signed_natAbs]

theorem integer?_toString (n : Int) :
    integer? (toString n).toList = if Wide.holds n then some n else none := by
  have hself := List.append_nil (toString n).toList
  rw [← readRadix?_toString]
  unfold integer?
  split
  case h_1 heq =>
    exact absurd (hself.trans heq)
      (toString_append_ne ends_nil (by decide) (by decide) (by decide) n _)
  case h_2 heq =>
    exact absurd (hself.trans heq)
      (toString_append_ne ends_nil (by decide) (by decide) (by decide) n _)
  case h_3 heq => exact absurd (head_toString_append (hself.trans heq)) (by decide)
  case h_4 => rfl

/-- A whole number as a plain text. -/
theorem toValue_ofPlain_toString (n : Int) :
    (Node.ofPlain (toString n)).toValue = .ok (.scalar none (rounded n)) := by
  unfold Node.ofPlain rounded
  rw [integer?_toString]
  by_cases hn : Wide.holds n = true
  · rw [if_pos hn, if_pos hn]
    rfl
  · have hnumber : isNumber (toString n) = true := by
      obtain ⟨c, ds, hc, hcases⟩ := toString_cases n
      have hany : (toString n).toList.any Char.isDigit = true := by
        rw [List.any_eq_true]
        rcases hcases with hn | hn <;> rw [hn] <;> exact ⟨c, by simp, hc⟩
      rw [isNumber, hany, ofText?_toString]
      simp
    have hne : ∀ w : String, startsApart w.toList = true → ¬toString n = w :=
      fun w hw => toString_ne hw n
    rw [if_neg hn, if_neg hn]
    dsimp only
    rw [if_neg (fun h => h.elim (hne _ (by decide)) (hne _ (by decide))),
      if_neg (hne _ (by decide)), if_neg (hne _ (by decide)), if_pos hnumber]
    unfold Node.toValue
    rw [ofText?_toString]
    rfl

/-! ### The place of a number -/

theorem endsWord_of_inNumeral {c : Char} (h : InNumeral c) : endsWord c = false := by
  rw [endsWord, endsLine, isBlank, isBreak, h.beq (by decide), h.beq (by decide),
    h.beq (by decide), h.beq (by decide), h.beq (by decide)]
  rfl

/-- A plain word outside of brackets that ends at a break. -/
theorem word_append (hcs : ∀ c ∈ cs, InNumeral c) (rest : List Char) :
    Plain.word false (cs ++ '\n' :: rest) = cs := by
  induction cs with
  | nil => rfl
  | cons c cs ih =>
    have hc := hcs c List.mem_cons_self
    have hends : Plain.ends false (c :: (cs ++ '\n' :: rest)) = false := by
      simp only [Plain.ends, endsWord_of_inNumeral hc, hc.beq (m := ':') (by decide),
        Bool.false_and, Bool.or_false]
    rw [List.cons_append, Plain.word, hends, ih fun c hmem => hcs c (List.mem_cons_of_mem _ hmem)]
    rfl

/-- The cursor at a number. -/
def numberCursor (cs : List Char) : Cursor := ⟨cs, 16, 1, 8, false⟩

theorem gap_toString (n : Int) (rest : List Char) (margin fuel : Nat) :
    (numberCursor ((toString n).toList ++ rest)).gap margin (fuel + 1) =
      some (false, numberCursor ((toString n).toList ++ rest)) := by
  obtain ⟨a, ds, hds, ha⟩ := exists_toString_append n rest
  rw [hds]
  have hhead : (numberCursor (a :: ds)).head = a := rfl
  have hblank : isBlank a = false := by
    rw [isBlank, ha.beq (by decide), ha.beq (by decide)]
    rfl
  have hbreak : isBreak a = false := by
    rw [isBreak, ha.beq (by decide), ha.beq (by decide)]
    rfl
  simp [Cursor.gap, hhead, hblank, hbreak, ha.ne (m := '\t') (by decide),
    ha.ne (m := '#') (by decide)]

theorem plain_read {a : Char} (hcs : ∀ c ∈ a :: cs, InNumeral c) {margin : Nat}
    (hmargin : 0 < margin) : Plain.read false margin (numberCursor (a :: cs ++ ['\n'])) =
      some (String.ofList (a :: cs), ⟨[], 16 + (a :: cs).length + 1, 2, 0, true⟩) := by
  have hhash : (a == '#') = false := (hcs a List.mem_cons_self).beq (by decide)
  have hbehind : (numberCursor (a :: cs ++ ['\n'])).behind (a :: cs).length =
      ⟨['\n'], 16 + (a :: cs).length, 1, 8 + (a :: cs).length, false⟩ := by
    simp [Cursor.behind, numberCursor]
  have hfold (fuel index column : Nat) : Fold.read (Plain.passBlank margin) (fuel + 2)
      ⟨['\n'], index, 1, column, false⟩ = some ({ crosses := true }, ⟨[], index + 1, 2, 0, true⟩) :=
    rfl
  have hboundary : (numberCursor (a :: cs ++ ['\n'])).isAtBoundary = false := rfl
  have hhead : (numberCursor (a :: cs ++ ['\n'])).head = a := rfl
  have hrest : (numberCursor (a :: cs ++ ['\n'])).rest = a :: cs ++ ['\n'] := rfl
  have hword := word_append hcs []
  have hwords : Plain.words false margin (cs.length + 3) (numberCursor (a :: cs ++ ['\n'])) =
      some (a :: cs, ⟨[], 16 + (a :: cs).length + 1, 2, 0, true⟩) := by
    have hbreak (index column : Nat) : (isBlank (Cursor.head ⟨['\n'], index, 1, column, false⟩) ||
        isBreak (Cursor.head ⟨['\n'], index, 1, column, false⟩)) = true := rfl
    rw [Plain.words, hboundary, hhead, hhash, hrest, hword]
    dsimp only
    have hguard : (guard ((!(false && a == '-' &&
        isBracketMark (Cursor.ahead 1 (numberCursor (a :: cs ++ ['\n']))))) = true) : Option Unit) =
          some () := guard_of_pos rfl
    rw [hbehind, hbreak, hfold, hguard]
    simp [hmargin]
  have hlength : (a :: cs ++ ['\n']).length + 1 = cs.length + 3 := by simp
  rw [Plain.read, hrest, hlength, hwords]
  rfl

theorem token_toString (n : Int) (rest : List Char) {l : Layout}
    (hl : l.cursor = numberCursor ((toString n).toList ++ rest)) : l.token = l.plain := by
  obtain ⟨a, ds, hds, ha⟩ := exists_toString_append n rest
  have hhead : l.cursor.head = a := by
    rw [hl, hds]
    rfl
  unfold Layout.token
  dsimp only
  rw [hhead]
  split
  case h_6 =>
    -- a minus sign stands before a digit
    have halone : endsWord (l.cursor.ahead 1) = false := by
      obtain ⟨c, cs, hc, hn | hn⟩ := toString_cases n <;> rw [hn] at hds hl
      · exact absurd ((List.cons.inj hds).1 ▸ hc) (by decide)
      · rw [hl]
        exact endsWord_of_inNumeral (c := c) (.inl hc)
    rw [halone]
    rfl
  case h_19 => rfl
  all_goals exact absurd ha (by decide)

/-- The layout at the number. -/
def atNumber (cs : List Char) : Layout where
  cursor := ⟨' ' :: cs, 15, 1, 7, false⟩
  tokens :=
    #[.entries, .key, .text true "server", .value, .entries, .key, .text true "port", .value]
  margin := 4
  blocks := [⟨3, false⟩, ⟨1, true⟩, ⟨0, true⟩]
  allowsKey := false

theorem next_atNumber (n : Int) :
    (atNumber ((toString n).toList ++ ['\n'])).next = some
      { cursor := ⟨[], 16 + (toString n).toList.length + 1, 2, 0, true⟩
        tokens := (atNumber []).tokens.push (.text true (toString n))
        margin := 3, blocks := [⟨1, true⟩, ⟨0, true⟩], allowsKey := true } := by
  obtain ⟨a, cs, hcs, -⟩ := exists_toString_append n []
  rw [List.append_nil] at hcs
  have hplain : ∀ c ∈ a :: cs, InNumeral c := fun c hc =>
    inNumeral_of_mem (n := n) (hcs ▸ hc)
  have hread := plain_read hplain (show 0 < 3 by decide)
  have hgap := gap_toString n ['\n'] 4 ((toString n).toList ++ ['\n']).length
  have htoken (l : Layout) (hl : l.cursor = numberCursor ((toString n).toList ++ ['\n'])) :=
    token_toString n ['\n'] hl
  rw [← hcs, String.ofList_toList] at hread
  generalize htext : (toString n).toList = text at hread hgap htoken ⊢
  have hskip : (atNumber (text ++ ['\n'])).skipGap =
      some { atNumber [] with cursor := numberCursor (text ++ ['\n']) } := by
    have hpass : (atNumber (text ++ ['\n'])).cursor.gap 4 ((' ' :: (text ++ ['\n'])).length + 1) =
        (numberCursor (text ++ ['\n'])).gap 4 ((text ++ ['\n']).length + 1) := rfl
    show ((atNumber (text ++ ['\n'])).cursor.gap 4
      ((' ' :: (text ++ ['\n'])).length + 1)).bind _ = _
    rw [hpass, hgap]
    rfl
  have hnext : (atNumber (text ++ ['\n'])).next =
      Layout.token { atNumber [] with cursor := numberCursor (text ++ ['\n']) } := by
    unfold Layout.next
    rw [hskip, ← htext, hcs]
    rfl
  rw [hnext, htoken _ rfl]
  show (Plain.read false 3 (numberCursor (text ++ ['\n']))).bind _ = _
  rw [hread]
  rfl

theorem toEnd_succ {l l' : Layout} (h : l.next = some l') (hmore : l'.cursor.isEnd = false)
    (fuel : Nat) : Layout.toEnd (fuel + 1) l = Layout.toEnd fuel l' := by
  rw [Layout.toEnd, h]
  simp [hmore]

/-- The four tokens before a number. The marks of the blocks and the keys are put in when the colons
are met. -/
theorem toEnd_atNumber (fuel : Nat) (cs : List Char) :
    Layout.toEnd (fuel + 4) { cursor := { rest := "server:\n  port: ".toList ++ cs } } =
      Layout.toEnd fuel (atNumber cs) := by
  have hserver : Layout.next { cursor := { rest := "server:\n  port: ".toList ++ cs } } = some
      { cursor := ⟨":\n  port: ".toList ++ cs, 6, 0, 6, false⟩
        tokens := #[.text true "server"]
        candidate := some ⟨0, 0, 0, 0, false⟩, allowsKey := false } := rfl
  have hcolon (ts : Array Token) : Layout.next
      { cursor := ⟨":\n  port: ".toList ++ cs, 6, 0, 6, false⟩
        tokens := ts
        candidate := some ⟨0, 0, 0, 0, false⟩, allowsKey := false } = some
      { cursor := ⟨"\n  port: ".toList ++ cs, 7, 0, 7, false⟩
        tokens := ((ts.insertIdxIfInBounds 0 .key).insertIdxIfInBounds 0 .entries).push .value
        margin := 2, blocks := [⟨1, false⟩, ⟨0, true⟩], allowsKey := false } := rfl
  have hport (ts : Array Token) : Layout.next
      { cursor := ⟨"\n  port: ".toList ++ cs, 7, 0, 7, false⟩
        tokens := ts
        margin := 2, blocks := [⟨1, false⟩, ⟨0, true⟩], allowsKey := false } = some
      { cursor := ⟨": ".toList ++ cs, 14, 1, 6, false⟩
        tokens := ts.push (.text true "port")
        margin := 1, blocks := [⟨0, true⟩]
        candidate := some ⟨ts.size, 10, 1, 2, false⟩, allowsKey := false } := rfl
  have hcolon' (ts : Array Token) (position : Nat) : Layout.next
      { cursor := ⟨": ".toList ++ cs, 14, 1, 6, false⟩
        tokens := ts
        margin := 1, blocks := [⟨0, true⟩]
        candidate := some ⟨position, 10, 1, 2, false⟩, allowsKey := false } = some
      { atNumber cs with
        tokens := ((ts.insertIdxIfInBounds position .key).insertIdxIfInBounds position
          .entries).push .value } := rfl
  rw [toEnd_succ hserver rfl, toEnd_succ (hcolon _) rfl, toEnd_succ (hport _) rfl,
    toEnd_succ (hcolon' _ _) rfl, atNumber]
  simp [Array.insertIdxIfInBounds]

/-- At the end of the text the blocks are closed. -/
theorem toEnd_port (n : Int) (fuel : Nat) :
    Layout.toEnd (fuel + 1) (atNumber ((toString n).toList ++ ['\n'])) = some
      { cursor := ⟨[], 16 + (toString n).toList.length + 1, 2, 0, true⟩
        tokens := (((atNumber []).tokens.push (.text true (toString n))).push .blockEnd).push
          .blockEnd } := by
  rw [Layout.toEnd, next_atNumber]
  rfl

theorem tokens?_port (n : Int) : tokens? ("server:\n  port: " ++ toString n ++ "\n") =
    some [.entries, .key, .text true "server", .value, .entries, .key, .text true "port", .value,
      .text true (toString n), .blockEnd, .blockEnd] := by
  have htext : ("server:\n  port: " ++ toString n ++ "\n").toList =
      "server:\n  port: ".toList ++ ((toString n).toList ++ ['\n']) := by
    simp only [String.toList_append, List.append_assoc]
    rfl
  have hrest : Cursor.ofText ("server:\n  port: " ++ toString n ++ "\n") =
      { rest := "server:\n  port: ".toList ++ ((toString n).toList ++ ['\n']) } := by
    have hall : ∀ c ∈ "server:\n  port: ".toList ++ ((toString n).toList ++ ['\n']),
        (c != endMark) = true := by
      intro c hc
      rcases List.mem_append.1 hc with hc | hc
      · have hfront : "server:\n  port: ".toList.all (· != endMark) = true := by decide
        exact List.all_eq_true.1 hfront c hc
      rcases List.mem_append.1 hc with hc | hc
      · rw [bne, (inNumeral_of_mem hc).beq (by decide)]
        rfl
      · rw [List.mem_singleton.1 hc]
        rfl
    rw [Cursor.ofText, htext, List.takeWhile_eq_self_iff.2 hall]
  have hlength : ("server:\n  port: ".toList ++ ((toString n).toList ++ ['\n'])).length + 2 =
      15 + (toString n).toList.length + 4 := by
    rw [List.length_append, List.length_append]
    show 16 + (_ + 1) + 2 = _
    omega
  unfold tokens?
  rw [hrest]
  dsimp only
  rw [hlength, toEnd_atNumber]
  obtain ⟨fuel, hfuel⟩ : ∃ fuel, 15 + (toString n).toList.length = fuel + 1 :=
    ⟨14 + (toString n).toList.length, by omega⟩
  rw [hfuel, toEnd_port]
  rfl

theorem root?_port (s : String) : root? [.entries, .key, .text true "server", .value, .entries,
      .key, .text true "port", .value, .text true s, .blockEnd, .blockEnd] =
    some (some (.mapping [(.text "server", .mapping [(.text "port", .ofPlain s)])])) := rfl

/-- A block with a number as the port of the server. -/
theorem read_port (n : Int) : read ("server:\n  port: " ++ toString n ++ "\n") =
    .ok [("server", .table none [("port", .scalar none (rounded n))])] := by
  have hvalue : Node.toValue (.mapping [(.text "server", .mapping
      [(.text "port", .ofPlain (toString n))])]) =
      .ok (.table none [("server", .table none [("port", .scalar none (rounded n))])]) := by
    have hnumber := toValue_ofPlain_toString n
    generalize Node.ofPlain (toString n) = number at hnumber ⊢
    simp only [Node.toValue, Node.toEntries, hnumber]
    rfl
  unfold read
  rw [tokens?_port, Option.bind_some, root?_port]
  dsimp only
  rw [hvalue]
  rfl

end FileServer.Yaml
