import FileServer.Page.Listing
import FileServer.Page.Problem
import FileServer.Proofs.Percent
import FileServer.Proofs.Refusals
import FileServer.Text.Reader
import Mathlib.Data.List.Forall2

/-!
Text from outside stays text. Names, paths and messages are escaped before they come into a page, so
that all angle brackets of a page are its own, and cut at these it falls into the same pieces
whatever it shows:

    … │ title>Directory listing for T │ … │ li> │ a href="H">T │ /a> │ /li> │ …

Each inserted text lies whole in one piece and can be read back from it, so a page shows the path
and the rows of which it was made and no others.
-/

namespace FileServer

namespace Html

variable {c : Char} {cs rest : List Char}

/-- The five entities that are written for the characters with a meaning. -/
def entities : List (List Char) :=
  ["&amp;", "&lt;", "&gt;", "&quot;", "&#x27;"].map String.toList

/-- Characters that stand for text alone, in an element and between quotes: no angle bracket and no
quote is among them, and every ampersand begins an entity. -/
structure IsInert (cs : List Char) : Prop where
  plain : ∀ c ∈ cs, c ∉ ['<', '>', '"', '\'']
  entity : ∀ before after, cs = before ++ '&' :: after → ∃ e ∈ entities, e <+: '&' :: after

/-- An escaped character is an entity, or one without a meaning. -/
theorem escapeChar_cases (c : Char) :
    (∃ e ∈ entities, escapeChar c = e) ∨
      (escapeChar c = [c] ∧ c ≠ '&' ∧ c ∉ ['<', '>', '"', '\'']) := by
  unfold escapeChar
  split
  case h_6 hamp hlt hgt hquote happ =>
    refine .inr ⟨rfl, hamp, ?_⟩
    simp only [List.mem_cons, List.not_mem_nil, or_false, not_or]
    exact ⟨hlt, hgt, hquote, happ⟩
  all_goals exact .inl ⟨_, by decide, rfl⟩

theorem isInert_nil : IsInert [] := ⟨nofun, by simp⟩

theorem IsInert.cons (hamp : c ≠ '&') (hc : c ∉ ['<', '>', '"', '\'']) (h : IsInert cs) :
    IsInert (c :: cs) := by
  refine ⟨List.forall_mem_cons.2 ⟨hc, h.plain⟩, fun before after heq => ?_⟩
  cases before with
  | nil => exact absurd (List.cons.inj heq).1 hamp
  | cons first before => exact h.entity before after (List.cons.inj heq).2

/-- A character that does not stand in front stands behind. -/
theorem exists_behind {x : Char} {front before after : List Char} (hx : x ∉ front)
    (h : front ++ rest = before ++ x :: after) : ∃ more, rest = more ++ x :: after := by
  rcases List.append_eq_append_iff.1 h with ⟨more, -, hrest⟩ | ⟨more, rfl, hafter⟩
  · exact ⟨more, hrest⟩
  · cases more with
    | nil => exact ⟨[], hafter.symm⟩
    | cons first more =>
      cases (List.cons.inj hafter).1
      exact absurd (List.mem_append_right before List.mem_cons_self) hx

/-- An entity begins with an ampersand and goes on without characters that have a meaning. -/
theorem exists_of_mem_entities : ∀ e ∈ entities, ∃ name, e = '&' :: name ∧ '&' ∉ name ∧
    ∀ c ∈ e, c ∉ ['<', '>', '"', '\''] := by
  intro e he
  have hall : ∀ e ∈ entities, e = '&' :: e.tail ∧ '&' ∉ e.tail ∧
      e.all (· ∉ ['<', '>', '"', '\'']) = true := by decide
  obtain ⟨hcons, hname, hplain⟩ := hall e he
  exact ⟨e.tail, hcons, hname, fun c hc => of_decide_eq_true (List.all_eq_true.1 hplain c hc)⟩

theorem IsInert.entity_append {e : List Char} (he : e ∈ entities) (h : IsInert cs) :
    IsInert (e ++ cs) := by
  obtain ⟨name, rfl, hname, hplain⟩ := exists_of_mem_entities e he
  refine ⟨List.forall_mem_append.2 ⟨hplain, h.plain⟩, fun before after heq => ?_⟩
  cases before with
  | nil =>
    refine ⟨_, he, ?_⟩
    rw [← List.nil_append ('&' :: after), ← heq]
    exact List.prefix_append _ cs
  | cons first before =>
    -- the entity holds no second ampersand, so this one stands behind it
    rw [List.cons_append, List.cons_append] at heq
    obtain ⟨more, hmore⟩ := exists_behind hname (List.cons.inj heq).2
    exact h.entity more after hmore

/-- Escaped text is text. -/
theorem isInert_flatMap_escapeChar : ∀ cs : List Char, IsInert (cs.flatMap escapeChar)
  | [] => isInert_nil
  | c :: cs => by
    have ih := isInert_flatMap_escapeChar cs
    rw [List.flatMap_cons]
    rcases escapeChar_cases c with ⟨e, he, heq⟩ | ⟨heq, hamp, hc⟩
    · rw [heq]
      exact ih.entity_append he
    · rw [heq]
      exact ih.cons hamp hc

theorem isInert_escape (s : String) : IsInert (escape s).toList := by
  rw [escape, String.toList_ofList]
  exact isInert_flatMap_escapeChar s.toList

theorem unescape_escape (s : String) : unescape (escape s) = s := by
  rw [unescape, escape, String.toList_ofList, unescapeChars_flatMap_escapeChar,
    String.ofList_toList]

end Html

/-! ### Links -/

/-- A link holds no character with which HTML could end it. -/
def Percent.IsQuotable (cs : List Char) : Prop := ∀ c ∈ cs, c ∉ ['<', '>', '"', '\'', '&']

theorem Percent.isQuotable_encode (s : String) : IsQuotable (encode s).toList := by
  have hbyte : ∀ b : UInt8, (encodeByte b).all (· ∉ ['<', '>', '"', '\'', '&']) = true :=
    forall_byte (by decide +kernel)
  intro c hc
  rw [encode, String.toList_ofList, List.mem_flatMap] at hc
  obtain ⟨b, -, hc⟩ := hc
  exact of_decide_eq_true (List.all_eq_true.1 (hbyte b) c hc)

/-! ### Pages and their pieces -/

/-- Pieces with an angle bracket in front of each. -/
def marked (pieces : List (List Char)) : List Char := pieces.flatMap ('<' :: ·)

theorem beq_bracket {piece : List Char} (h : '<' ∉ piece) : ∀ c ∈ piece, (c == '<') = false := by
  intro c hc
  rw [beq_eq_false_iff_ne]
  rintro rfl
  exact h hc

/-- Cut at the angle brackets, a text falls into the pieces of which it was made. -/
theorem splitOn_append_marked : ∀ {piece : List Char} {pieces : List (List Char)}, '<' ∉ piece →
    (∀ p ∈ pieces, '<' ∉ p) → (piece ++ marked pieces).splitOn '<' = piece :: pieces
  | piece, [], hpiece, _ => by
    rw [marked, List.flatMap_nil, List.append_nil]
    exact List.splitOnP_eq_singleton (beq_bracket hpiece)
  | piece, next :: pieces, hpiece, hpieces => by
    obtain ⟨hnext, hrest⟩ := List.forall_mem_cons.1 hpieces
    have ih := splitOn_append_marked hnext hrest
    have hfront := List.splitOnP_append_cons_of_forall_mem (beq_bracket hpiece) '<' rfl
      (next ++ marked pieces)
    exact hfront.trans (congrArg (piece :: ·) ih)

/-- A row as it is written, with its link and its text. -/
def itemText (item : String × String) : String :=
  "<li><a href=\"" ++ item.1 ++ "\">" ++ item.2 ++ "</a></li>\n"

/-- The page of a listing with a title and items, each a link and a text, as they are written. -/
def listingFrame (title : String) (items : List (String × String)) : String :=
  "<!DOCTYPE HTML>\n<html lang=\"en\">\n<head>\n<meta charset=\"utf-8\">\n" ++
    "<title>" ++ ("Directory listing for " ++ title) ++ "</title>\n</head>\n<body>\n<h1>" ++
    ("Directory listing for " ++ title) ++ "</h1>\n<hr>\n<ul>\n" ++
    String.join (items.map itemText) ++ "</ul>\n<hr>\n</body>\n</html>\n"

/-- The pieces of an item. -/
def itemPieces (item : String × String) : List (List Char) :=
  ["li>".toList, "a href=\"".toList ++ (item.1.toList ++ ("\">".toList ++ item.2.toList)),
    "/a>".toList, "/li>\n".toList]

/-- The pieces in front of the title. -/
def topPieces : List (List Char) :=
  ["!DOCTYPE HTML>\n".toList, "html lang=\"en\">\n".toList, "head>\n".toList,
    "meta charset=\"utf-8\">\n".toList]

/-- The pieces between the title and the heading. -/
def bodyPieces : List (List Char) := ["/title>\n".toList, "/head>\n".toList, "body>\n".toList]

/-- The pieces between the heading and the items. -/
def listPieces : List (List Char) := ["/h1>\n".toList, "hr>\n".toList, "ul>\n".toList]

/-- The pieces behind the items. -/
def backPieces : List (List Char) :=
  ["/ul>\n".toList, "hr>\n".toList, "/body>\n".toList, "/html>\n".toList]

/-- The pieces of a page. -/
def listingPieces (title : String) (items : List (String × String)) : List (List Char) :=
  topPieces ++ ("title>".toList ++ ("Directory listing for ".toList ++ title.toList)) ::
    (bodyPieces ++ ("h1>".toList ++ ("Directory listing for ".toList ++ title.toList)) ::
      (listPieces ++ (items.flatMap itemPieces ++ backPieces)))

theorem marked_cons (piece : List Char) (pieces : List (List Char)) :
    marked (piece :: pieces) = '<' :: (piece ++ marked pieces) := List.flatMap_cons

theorem marked_append (pieces more : List (List Char)) :
    marked (pieces ++ more) = marked pieces ++ marked more := List.flatMap_append

theorem toList_itemText (item : String × String) :
    (itemText item).toList = marked (itemPieces item) := by
  have hopen : "<li><a href=\"".toList = '<' :: ("li>".toList ++ '<' :: "a href=\"".toList) := by
    decide +kernel
  have hclose : "</a></li>\n".toList = marked ["/a>".toList, "/li>\n".toList] := by decide +kernel
  unfold itemText
  simp only [String.toList_append, -String.reduceToList]
  rw [hopen, hclose]
  simp only [itemPieces, marked_cons, List.append_assoc, List.cons_append, -String.reduceToList]

theorem toList_join_itemText : ∀ items : List (String × String),
    (String.join (items.map itemText)).toList = marked (items.flatMap itemPieces)
  | [] => rfl
  | item :: items => by
    rw [List.map_cons, String.join_cons, String.toList_append, toList_itemText,
      toList_join_itemText items, List.flatMap_cons, marked_append]

/-- A page is made of its pieces. -/
theorem toList_listingFrame (title : String) (items : List (String × String)) :
    (listingFrame title items).toList = marked (listingPieces title items) := by
  have htop : "<!DOCTYPE HTML>\n<html lang=\"en\">\n<head>\n<meta charset=\"utf-8\">\n".toList =
      marked topPieces := by decide +kernel
  have htitle : "<title>".toList = '<' :: "title>".toList := by decide +kernel
  have hbody : "</title>\n</head>\n<body>\n<h1>".toList =
      marked bodyPieces ++ '<' :: "h1>".toList := by decide +kernel
  have hlist : "</h1>\n<hr>\n<ul>\n".toList = marked listPieces := by decide +kernel
  have hback : "</ul>\n<hr>\n</body>\n</html>\n".toList = marked backPieces := by decide +kernel
  unfold listingFrame
  simp only [String.toList_append, -String.reduceToList, -String.reduceAppend]
  rw [htop, htitle, hbody, hlist, hback, toList_join_itemText]
  simp only [listingPieces, marked_append, marked_cons, List.append_assoc, List.cons_append,
    -String.reduceToList]

/-! ### Reading a page back -/

theorem word_append (w rest : List Char) : Text.word w (w ++ rest) = some rest := by
  rw [Text.word, if_pos (List.isPrefixOf_iff_prefix.2 (List.prefix_append w rest)),
    List.drop_left]

/-- The title that is written in a piece, if it is the piece of the title. -/
def readTitle? (piece : List Char) : Option String := do
  let rest ← Text.word "title>".toList piece
  let text ← Text.word "Directory listing for ".toList rest
  some (Html.unescape (String.ofList text))

/-- The link and the text that are written in a piece, if it is one with a link. -/
def readItem? (piece : List Char) : Option (String × String) := do
  let rest ← Text.word "a href=\"".toList piece
  let (link, rest) := Text.span (· != '"') rest
  let text ← Text.word "\">".toList rest
  some (Utf8.toStringLossy (Percent.decode (String.ofList link)),
    Html.unescape (String.ofList text))

/-- The path that a page of a listing was made for, and the links and labels of its rows. -/
def readListing? (page : String) : Option (String × List (String × String)) :=
  let pieces := page.toList.splitOn '<'
  (pieces.findSome? readTitle?).map fun title => (title, pieces.filterMap readItem?)

/-- The link and the label that an item stands for. -/
def meant (item : String × String) : String × String :=
  (Utf8.toStringLossy (Percent.decode item.1), Html.unescape item.2)

/-- An item holds text where text belongs. -/
def IsItem (item : String × String) : Prop :=
  Percent.IsQuotable item.1.toList ∧ Html.IsInert item.2.toList

theorem Html.IsInert.bracket_notMem {cs : List Char} (h : IsInert cs) : '<' ∉ cs :=
  fun hmem => absurd List.mem_cons_self (h.plain '<' hmem)

theorem bracket_notMem_itemPieces {item : String × String} (h : IsItem item) :
    ∀ p ∈ itemPieces item, '<' ∉ p := by
  have hlink : '<' ∉ item.1.toList := fun hmem => absurd List.mem_cons_self (h.1 '<' hmem)
  have htext := h.2.bracket_notMem
  simp [itemPieces, hlink, htext]

theorem bracket_notMem_listingPieces {title : String} {items : List (String × String)}
    (htitle : Html.IsInert title.toList) (hitems : ∀ item ∈ items, IsItem item) :
    ∀ p ∈ listingPieces title items, '<' ∉ p := by
  have hbracket := htitle.bracket_notMem
  have hrows : ∀ p ∈ items.flatMap itemPieces, '<' ∉ p := by
    intro p hp
    obtain ⟨item, hitem, hp⟩ := List.mem_flatMap.1 hp
    exact bracket_notMem_itemPieces (hitems item hitem) p hp
  have hheading : ∀ tag : List Char, '<' ∉ tag →
      '<' ∉ tag ++ ("Directory listing for ".toList ++ title.toList) := by
    intro tag htag
    simp only [List.mem_append, not_or]
    exact ⟨htag, by decide, hbracket⟩
  refine List.forall_mem_append.2 ⟨by decide, List.forall_mem_cons.2 ⟨hheading _ (by decide), ?_⟩⟩
  refine List.forall_mem_append.2 ⟨by decide, List.forall_mem_cons.2 ⟨hheading _ (by decide), ?_⟩⟩
  exact List.forall_mem_append.2 ⟨by decide, List.forall_mem_append.2 ⟨hrows, by decide⟩⟩

/-- Of the pieces of an item one is read, and gives its link and its text. -/
theorem filterMap_itemPieces {item : String × String} (h : IsItem item) :
    (itemPieces item).filterMap readItem? = [meant item] := by
  have hquote : ∀ c ∈ item.1.toList, (c != '"') = true := by
    intro c hc
    have hplain := h.1 c hc
    simp only [List.mem_cons, not_or] at hplain
    exact bne_iff_ne.2 hplain.2.2.1
  have hspan : Text.span (· != '"') (item.1.toList ++ ("\">".toList ++ item.2.toList)) =
      (item.1.toList, "\">".toList ++ item.2.toList) := by
    rw [Text.span, List.takeWhile_append_of_pos hquote, List.dropWhile_append_of_pos hquote]
    simp
  have hread : readItem? ("a href=\"".toList ++
      (item.1.toList ++ ("\">".toList ++ item.2.toList))) = some (meant item) := by
    rw [readItem?, word_append, some_bind, hspan]
    dsimp only
    rw [word_append, some_bind, String.ofList_toList, String.ofList_toList, meant]
  rw [itemPieces, List.filterMap_cons_none rfl, List.filterMap_cons_some hread]
  rfl

theorem filterMap_items {items : List (String × String)} (h : ∀ item ∈ items, IsItem item) :
    (items.flatMap itemPieces).filterMap readItem? = items.map meant := by
  induction items with
  | nil => rfl
  | cons item items ih =>
    obtain ⟨hitem, hitems⟩ := List.forall_mem_cons.1 h
    rw [List.flatMap_cons, List.filterMap_append, filterMap_itemPieces hitem, ih hitems,
      List.map_cons, List.singleton_append]

/-- A page is read back as what its title and its items stand for. -/
theorem readListing?_listingFrame {title : String} {items : List (String × String)}
    (htitle : Html.IsInert title.toList) (hitems : ∀ item ∈ items, IsItem item) :
    readListing? (listingFrame title items) = some (Html.unescape title, items.map meant) := by
  have hpieces : (listingFrame title items).toList.splitOn '<' =
      [] :: listingPieces title items := by
    -- a page begins with a bracket, so nothing stands in front of the first piece
    rw [toList_listingFrame, ← List.nil_append (marked _)]
    exact splitOn_append_marked List.not_mem_nil (bracket_notMem_listingPieces htitle hitems)
  have hread : readTitle? ("title>".toList ++ ("Directory listing for ".toList ++ title.toList)) =
      some (Html.unescape title) := by
    rw [readTitle?, word_append, some_bind, word_append, some_bind, String.ofList_toList]
  have hfound : ([] :: listingPieces title items).findSome? readTitle? =
      some (Html.unescape title) := by
    have htop : ([] :: topPieces).findSome? readTitle? = none := rfl
    rw [listingPieces, ← List.cons_append, List.findSome?_append, htop, Option.none_or,
      List.findSome?_cons, hread]
  have hrows : ([] :: listingPieces title items).filterMap readItem? = items.map meant := by
    have htop : ([] :: topPieces).filterMap readItem? = [] := rfl
    have hback : backPieces.filterMap readItem? = [] := rfl
    rw [listingPieces, ← List.cons_append, List.filterMap_append, htop, List.nil_append,
      List.filterMap_cons_none rfl, List.filterMap_append, List.filterMap_cons_none rfl,
      List.filterMap_append, List.filterMap_append, hback, filterMap_items hitems, List.append_nil]
    rfl
  simp only [readListing?, hpieces, hfound, hrows, Option.map_some]

/-! ### The two pages -/

/-- An item shows the link and the label of a row. -/
structure Shows (item : String × String) (r : ListingRow) : Prop where
  quotable : Percent.IsQuotable item.1.toList
  link : Percent.decode item.1 = Utf8.ofString r.link
  inert : Html.IsInert item.2.toList
  label : Html.unescape item.2 = r.label

/-- A row as an item, with its link and its label written for a page. -/
def ListingRow.item (r : ListingRow) : String × String :=
  (Percent.encode r.link, Html.escape r.label)

theorem ListingRow.shows_item (r : ListingRow) : Shows r.item r where
  quotable := Percent.isQuotable_encode r.link
  link := Percent.decode_encode r.link
  inert := Html.isInert_escape r.label
  label := Html.unescape_escape r.label

theorem ListingRow.isItem_of_mem {rows : List ListingRow} :
    ∀ item ∈ rows.map ListingRow.item, IsItem item := by
  intro item hitem
  obtain ⟨r, -, rfl⟩ := List.mem_map.1 hitem
  exact ⟨r.shows_item.quotable, r.shows_item.inert⟩

theorem forall₂_shows :
    ∀ rows : List ListingRow, List.Forall₂ Shows (rows.map ListingRow.item) rows
  | [] => .nil
  | r :: rows => .cons r.shows_item (forall₂_shows rows)

theorem listingPage_eq (urlPath : String) (rows : List ListingRow) :
    listingPage urlPath rows = listingFrame (Html.escape urlPath) (rows.map ListingRow.item) := by
  have hrows : rows.map (·.html) = (rows.map ListingRow.item).map itemText := by
    rw [List.map_map]
    rfl
  unfold listingPage listingFrame
  simp only [hrows, -String.reduceAppend]

/-- What rows show on a page, each its link and its label. -/
def shown (rows : List ListingRow) : List (String × String) := rows.map fun r => (r.link, r.label)

theorem readListing?_listingPage (urlPath : String) (rows : List ListingRow) :
    readListing? (listingPage urlPath rows) = some (urlPath, shown rows) := by
  have hitems : (rows.map ListingRow.item).map meant = shown rows := by
    rw [List.map_map]
    refine List.map_congr_left fun r _ => ?_
    have hlink : Utf8.toStringLossy (Percent.decode r.item.1) = r.link := by
      rw [r.shows_item.link, Utf8.toStringLossy_ofString]
    exact Prod.ext hlink r.shows_item.label
  rw [listingPage_eq, readListing?_listingFrame (Html.isInert_escape urlPath)
    ListingRow.isItem_of_mem, Html.unescape_escape, hitems]

/-- Pages of listings agree just when they show the same. -/
theorem listingPage_eq_iff (urlPath urlPath' : String) (rows rows' : List ListingRow) :
    listingPage urlPath rows = listingPage urlPath' rows' ↔
      urlPath = urlPath' ∧ shown rows = shown rows' := by
  constructor
  · intro heq
    have hread := readListing?_listingPage urlPath rows
    rw [heq, readListing?_listingPage, Option.some.injEq, Prod.mk.injEq] at hread
    exact ⟨hread.1.symm, hread.2.symm⟩
  · rintro ⟨rfl, hrows⟩
    have hitems (rows : List ListingRow) : rows.map ListingRow.item =
        (shown rows).map fun pair => (Percent.encode pair.1, Html.escape pair.2) := by
      rw [shown, List.map_map]
      rfl
    rw [listingPage_eq, listingPage_eq, hitems, hitems, hrows]

/-- The page of a problem up to its message. -/
def problemFront (status : Status) : String :=
  "<!DOCTYPE HTML>\n<html lang=\"en\">\n<head>\n<meta charset=\"utf-8\">\n" ++
    "<title>Error response</title>\n</head>\n<body>\n<h1>Error response</h1>\n" ++
    "<p>Error code: " ++ toString status.code ++ "</p>\n<p>Message: "

/-- The page of a problem behind its message. -/
def problemBack (status : Status) : String :=
  ".</p>\n" ++ "<p>Error code explanation: " ++ toString status.code ++ " - " ++
    status.reason?.getD "Error" ++ ".</p>\n</body>\n</html>\n"

theorem problemPage_eq (status : Status) (message : String) :
    problemPage status message =
      problemFront status ++ Html.escape message ++ problemBack status := by
  unfold problemPage problemFront problemBack
  simp only [String.append_assoc, -String.reduceAppend]

/-- Pages show text from outside as text. A listing is the same frame around whatever it shows, with
one item for each row in their order, whose link and text can do nothing to the page and are read
back as the link and the label of the row; from the page as a whole the path and all of these are
read back, so pages that show different things differ. The message of a problem page is likewise
text between a front and a back that do not depend on it. -/
theorem pages_show_text :
    (∀ urlPath rows, ∃ title items,
      listingPage urlPath rows = listingFrame title items ∧
      Html.IsInert title.toList ∧ Html.unescape title = urlPath ∧
      List.Forall₂ Shows items rows ∧
      readListing? (listingPage urlPath rows) = some (urlPath, shown rows)) ∧
    (∀ urlPath urlPath' rows rows', listingPage urlPath rows = listingPage urlPath' rows' ↔
      urlPath = urlPath' ∧ shown rows = shown rows') ∧
    ∀ status message, ∃ text,
      problemPage status message = problemFront status ++ text ++ problemBack status ∧
      Html.IsInert text.toList ∧ Html.unescape text = message := by
  refine ⟨?_, ?_, ?_⟩
  · intro urlPath rows
    refine ⟨Html.escape urlPath, rows.map ListingRow.item, listingPage_eq urlPath rows, ?_⟩
    exact ⟨Html.isInert_escape urlPath, Html.unescape_escape urlPath, forall₂_shows rows,
      readListing?_listingPage urlPath rows⟩
  · intro urlPath urlPath' rows rows'
    exact listingPage_eq_iff urlPath urlPath' rows rows'
  · intro status message
    exact ⟨Html.escape message, problemPage_eq status message, Html.isInert_escape message,
      Html.unescape_escape message⟩

end FileServer
