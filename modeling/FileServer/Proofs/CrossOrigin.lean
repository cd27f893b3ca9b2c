import FileServer.Message.CrossOrigin

/-!
What leave for every origin does to a response. The fields of a header are grouped by their names,
so that the name in mind is always that of the value that is looked at, and each value goes behind
all that went before it. In the end the new header holds the grant and all fields of other names, in
their old order.
-/

namespace FileServer

variable {f new : Field} {done fields rest : List Field} {name : String}

/-! ### Grouped fields -/

/-- The front of grouped fields is grouped. -/
theorem Grouped.of_append (h : Grouped (fields ++ rest)) : Grouped fields := by
  induction fields with
  | nil => trivial
  | cons f fields ih =>
    cases fields with
    | nil => trivial
    | cons g fields =>
      exact ⟨h.1.imp_right fun hne x hx => hne x (List.mem_append_left rest hx), ih h.2⟩

/-- A field that comes last where fields are grouped is added at the end. -/
theorem appendField_of_grouped (h : Grouped (fields ++ [new])) :
    appendField new fields = fields ++ [new] := by
  induction fields with
  | nil => rfl
  | cons f rest ih =>
    unfold appendField
    split
    case isFalse => rw [ih h.tail, List.cons_append]
    case isTrue hc =>
      cases rest with
      | nil => rfl
      | cons g rest =>
        -- the name of the new field was the first one, and has not come again in between
        rcases h.1 with hname | hne
        · exact absurd (hname.symm.trans hc.1) (hc.2 g List.mem_cons_self)
        · exact absurd hc.1.symm (hne new (by simp))

namespace Headers

/-! ### One value after another -/

/-- Headers with the same fields are the same. -/
theorem eq_of_fields {h h' : Headers} (heq : h.fields = h'.fields) : h = h' := by
  cases h
  cases h'
  cases heq
  rfl

/-- The grant that a rebuilt header begins with. -/
def grant : Field := (allowOrigin, Utf8.ofString "*")

/-- Fields with the grant in front, in place of any other. -/
def granted (fields : List Field) : List Field :=
  grant :: fields.filter (·.1 ≠ allowOrigin)

/-- The name of the last field. -/
def lastName (fields : List Field) : Option String := fields.getLast?.map (·.1)

/-- The header has been rebuilt as far as the fields `done`. -/
structure Rebuilt (done : List Field) (b : Rebuilding) : Prop where
  current : b.current = lastName done
  fields : b.headers.fields = granted done

theorem lastName_concat (done : List Field) (f : Field) : lastName (done ++ [f]) = some f.1 := by
  rw [lastName, List.getLast?_concat]
  rfl

/-- A field more is a field more behind the grant, if it is not one itself. -/
theorem granted_concat (done : List Field) (f : Field) : granted (done ++ [f]) =
    if f.1 = allowOrigin then granted done else granted done ++ [f] := by
  unfold granted
  rw [List.filter_append]
  split
  case isTrue hf => simp [hf]
  case isFalse hf => simp [hf]

/-- Grouped fields stay grouped with the grant in front. -/
theorem grouped_granted (h : Grouped fields) : Grouped (granted fields) :=
  h.filter.cons (.inr fun _ hx => of_decide_eq_true (List.mem_filter.1 hx).2)

/-- With no value looked at there is the grant alone. -/
theorem rebuilt_start : Rebuilt [] .start := ⟨rfl, rfl⟩

/-- Looking at the value behind `done` rebuilds the header as far as its field: its name is in mind,
whether it comes with the value or not. -/
theorem rebuilt_step {b : Rebuilding} (hgrouped : Grouped (done ++ [f])) (hb : Rebuilt done b) :
    Rebuilt (done ++ [f])
      (b.step allowOrigin (if lastName done = some f.1 then none else some f.1, f.2)) := by
  have hcurrent : Option.or (if lastName done = some f.1 then none else some f.1) b.current =
      some f.1 := by
    split
    case isTrue hlast => rw [Option.none_or, hb.current, hlast]
    case isFalse => rfl
  have hstep : b.step allowOrigin (if lastName done = some f.1 then none else some f.1, f.2) =
      { current := some f.1
        headers := if f.1 = allowOrigin then b.headers else b.headers.append f.1 f.2 } := by
    rw [Rebuilding.step]
    dsimp only
    rw [hcurrent]
  rw [hstep]
  refine ⟨(lastName_concat done f).symm, ?_⟩
  rw [granted_concat]
  split
  case isTrue => exact hb.fields
  case isFalse hf =>
    have hgranted : Grouped (granted done ++ [f]) := by
      have := grouped_granted hgrouped
      rwa [granted_concat, if_neg hf] at this
    show appendField f b.headers.fields = _
    rw [hb.fields, appendField_of_grouped hgranted]

/-- Looking at all values that are left rebuilds the whole header. -/
theorem rebuilt_fold : ∀ (rest : List Field) {done : List Field} {b : Rebuilding},
    Grouped (done ++ rest) → Rebuilt done b →
      Rebuilt (done ++ rest)
        ((takeBehind (lastName done) rest).foldl (Rebuilding.step allowOrigin) b)
  | [], done, b, _, hb => by
    rw [List.append_nil]
    exact hb
  | f :: rest, done, b, hgrouped, hb => by
    rw [List.append_cons] at hgrouped ⊢
    have hfold := rebuilt_fold rest hgrouped (rebuilt_step hgrouped.of_append hb)
    rwa [lastName_concat] at hfold

/-- A header with leave for every origin holds the grant, and then all fields of other names. -/
theorem fields_allowAnyOrigin (h : Headers) : h.allowAnyOrigin.fields = granted h.fields := by
  have hall : Rebuilt ([] ++ h.fields) _ := rebuilt_fold h.fields h.grouped rebuilt_start
  exact hall.fields

theorem granted_granted (fields : List Field) : granted (granted fields) = granted fields := by
  rw [granted, granted, List.filter_cons_of_neg (by simp [grant]), List.filter_filter]
  simp

/-- The values of other names stay as they are. -/
theorem getAll_allowAnyOrigin (h : Headers) (hne : name ≠ allowOrigin) :
    h.allowAnyOrigin.getAll name = h.getAll name := by
  have hgrant : (grant.1 == name) = false := beq_false_of_ne hne.symm
  rw [getAll, getAll, fields_allowAnyOrigin, granted, List.filter_cons_of_neg (by simp [hgrant]),
    List.filter_filter]
  congr 1
  refine List.filter_congr fun x _ => ?_
  by_cases hx : x.1 = name
  · simp [hx, hne]
  · simp [hx]

end Headers

/-- Leave for every origin is exact: status and body stay, the grant comes first and only there, all
other fields follow in their old order, and granting leave once more changes nothing. -/
theorem Response.allowAnyOrigin_exact (r : Response) :
    r.allowAnyOrigin.status = r.status ∧ r.allowAnyOrigin.body = r.body ∧
      r.allowAnyOrigin.headers.fields =
        (allowOrigin, Utf8.ofString "*") :: r.headers.fields.filter (·.1 ≠ allowOrigin) ∧
      r.allowAnyOrigin.allowAnyOrigin = r.allowAnyOrigin := by
  refine ⟨rfl, rfl, r.headers.fields_allowAnyOrigin, ?_⟩
  have htwice : r.headers.allowAnyOrigin.allowAnyOrigin = r.headers.allowAnyOrigin := by
    refine Headers.eq_of_fields ?_
    rw [Headers.fields_allowAnyOrigin, Headers.fields_allowAnyOrigin, Headers.granted_granted]
  exact congrArg (Response.mk r.status · r.body) htwice

/-- A grant between the values of other names is moved to the front, and they stay together. -/
example :
    let h : Headers := ⟨[("vary", [1]), ("vary", [2]), (allowOrigin, [3]), (allowOrigin, [4]),
      ("etag", [5])], by simp [Grouped, allowOrigin]⟩
    h.allowAnyOrigin.fields =
      [(allowOrigin, Utf8.ofString "*"), ("vary", [1]), ("vary", [2]), ("etag", [5])] := by
  decide +kernel

end FileServer
