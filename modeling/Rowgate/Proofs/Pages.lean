import Mathlib.Algebra.Group.Int.Defs
import Rowgate.Input.Page
import Rowgate.Proofs.Decimals
import Rowgate.Proofs.Forms
import Rowgate.Proofs.Layout
import Rowgate.Proofs.Records
import Rowgate.Store.Select
/-
A page from the query of a request to the text of a statement.

A limit and an offset that stand in a query as decimal numbers of 64 bits are decoded as these
numbers, whatever else the query holds. The page that they make is written into a selection as it is
written by itself, with a clause for what is present and none for what is absent. Filling in the
defaults keeps what is present, and then both clauses stand in both texts.

Steps that set a limit or an offset or take over a page leave the last limit and the last offset
that one of them gave (`Page.after`); a page that gives none changes none.
-/
set_option autoImplicit false

namespace Rowgate

/-! ## Texts -/

namespace Sql.Page

/-- The clauses of a limit and an offset, each of which may be absent. -/
def clauses : Option Int → Option Int → String
  | none, none => ""
  | some l, none => "LIMIT " ++ toString l
  | none, some o => "OFFSET " ++ toString o
  | some l, some o => "LIMIT " ++ toString l ++ " OFFSET " ++ toString o

theorem text_eq (page : Page) : page.text = clauses page.limit page.offset := by
  obtain ⟨limit, offset⟩ := page
  cases limit with
  | none => cases offset <;> simp [text, clauses]
  | some l =>
    cases offset with
    | none => simp [text, clauses]
    | some o =>
      have hword : " " ++ "OFFSET " = " OFFSET " := by decide
      show String.intercalate " " ["LIMIT " ++ toString l, "OFFSET " ++ toString o] = _
      rw [String.intercalate_cons_cons, String.intercalate_singleton, clauses, ← hword,
        ← String.append_assoc, ← String.append_assoc]

/-- With the defaults filled in both clauses are there. -/
theorem text_fillDefaults (page : Page) : page.fillDefaults.text =
    "LIMIT " ++ toString page.limitOrDefault ++ " OFFSET " ++ toString page.offsetOrDefault :=
  text_eq page.fillDefaults

/-- A text with clauses behind it, if there are any. -/
def behind (head clauses : String) : String := if clauses = "" then head else head ++ " " ++ clauses

/-! ## Steps -/

/-- A step that is about the page. -/
inductive Step where
  | limit (n : Int)
  | offset (n : Int)
  | paginate (page : Page)

/-- The limit that a step gives. -/
def Step.limit? : Step → Option Int
  | .limit n => some n
  | .offset _ => none
  | .paginate page => page.limit

/-- The offset that a step gives. -/
def Step.offset? : Step → Option Int
  | .limit _ => none
  | .offset n => some n
  | .paginate page => page.offset

/-- The step on a query. -/
def Step.onQuery : Step → Query.Step
  | .limit n => .limit n
  | .offset n => .offset n
  | .paginate page => .paginate page

/-- The step on a selection. -/
def Step.onSelect : Step → Store.Select.Step
  | .limit n => .limit n
  | .offset n => .offset n
  | .paginate page => .paginate page

/-- The page with the last limit and the last offset that steps give; what no step gives is kept. -/
def after (page : Page) (steps : List Step) : Page :=
  ⟨((steps.filterMap Step.limit?).getLast?).or page.limit,
    ((steps.filterMap Step.offset?).getLast?).or page.offset⟩

theorem after_append (page : Page) (steps steps' : List Step) :
    page.after (steps ++ steps') = (page.after steps).after steps' := by
  simp only [after, List.filterMap_append, List.getLast?_append, Option.or_assoc]

/-- To take over a page is to have what it gives. -/
theorem after_paginate (page : Page) : ({} : Page).after [.paginate page] = page := by
  obtain ⟨limit, offset⟩ := page
  cases limit <;> cases offset <;> rfl

/-- What a page gives in place of an old value is there if the old value was. -/
theorem isSome_or {given old : Option Int} (h : old.isSome) : (given.or old).isSome := by
  cases given with
  | none => exact h
  | some n => rfl

/-- One step on a query leaves its page as told and everything else as it was. -/
theorem apply_onQuery (query : Query) (step : Step) :
    query.apply step.onQuery = { query with page := query.page.after [step] } := by
  cases step with
  | limit n => rfl
  | offset n => rfl
  | paginate page =>
    obtain ⟨limit, offset⟩ := page
    cases limit <;> cases offset <;> rfl

theorem run_onQuery (query : Query) (steps : List Step) :
    query.run (steps.map Step.onQuery) = { query with page := query.page.after steps } := by
  induction steps generalizing query with
  | nil => rfl
  | cons step steps ih =>
    have happend := after_append query.page [step] steps
    rw [List.singleton_append] at happend
    rw [happend]
    show (query.apply step.onQuery).run (steps.map Step.onQuery) = _
    rw [ih, apply_onQuery]

theorem run_onSelect (s : Store.Select) (steps : List Step) :
    s.run (steps.map Step.onSelect) =
      { s with query := { s.query with page := s.query.page.after steps } } := by
  have hquery : s.run (steps.map Step.onSelect) =
      { s with query := s.query.run (steps.map Step.onQuery) } := by
    induction steps generalizing s with
    | nil => rfl
    | cons step steps ih =>
      have hstep : s.apply step.onSelect = { s with query := s.query.apply step.onQuery } := by
        cases step <;> rfl
      show (s.apply step.onSelect).run (steps.map Step.onSelect) = _
      rw [ih, hstep]
      rfl
  rw [hquery, run_onQuery]

/-! ## Selections -/

/-- The parts of a statement stand one behind the other, as far as they are there. -/
theorem joinParts_behind {head : String} (hhead : head ≠ "") (parts : List String) :
    joinParts (head :: parts) = parts.foldl behind head := by
  have hfold : (parts.foldl behind head).toList =
      head.toList ++ parts.flatMap fun part => if part.isEmpty then [] else ' ' :: part.toList := by
    clear hhead
    induction parts generalizing head with
    | nil => simp
    | cons part parts ih =>
      rw [List.foldl_cons, ih, List.flatMap_cons, ← List.append_assoc]
      by_cases hpart : part = "" <;> simp [behind, hpart]
  rw [← String.toList_inj, toList_joinParts hhead, hfold]

/-- The text of a selection of which nothing but the page was said. -/
theorem render_of_page {table : String} {i : Identifier} (h : Identifier.ofName table = .ok i)
    (page : Page) :
    ({ table, query := { page } } : Store.Select).render =
      .ok ⟨behind ("SELECT * FROM " ++ i.quoted) page.text, []⟩ := by
  have hstatement : ({ table, query := { page } } : Store.Select).statement =
      .ok (.select i .all [] [] page) := by
    rw [Store.Select.statement, h]
    rfl
  have hhead : "SELECT * FROM " ++ i.quoted ≠ "" := by simp
  have htext : joinParts ["SELECT * FROM " ++ i.quoted, "", "", page.text] =
      behind ("SELECT * FROM " ++ i.quoted) page.text := joinParts_behind hhead _
  rw [Store.Select.render, hstatement, ← htext]
  rfl

/-- Steps about the page alone leave a selection of the page that they tell. -/
theorem render_run {table : String} {i : Identifier} (h : Identifier.ofName table = .ok i)
    (steps : List Step) :
    (({ table } : Store.Select).run (steps.map Step.onSelect)).render =
      .ok ⟨behind ("SELECT * FROM " ++ i.quoted) (({} : Page).after steps).text, []⟩ := by
  rw [run_onSelect]
  exact render_of_page h _

/-- A fresh selection that takes over a page has the clauses of the page behind it. -/
theorem render_paginate {table : String} {i : Identifier} (h : Identifier.ofName table = .ok i)
    (page : Page) : (({ table } : Store.Select).apply (.paginate page)).render =
      .ok ⟨behind ("SELECT * FROM " ++ i.quoted) page.text, []⟩ := by
  have hrender := render_run h [.paginate page]
  rw [after_paginate] at hrender
  exact hrender

end Sql.Page

/-! ## Queries -/

namespace Form

/-- The pieces of a query give the key a number in decimals, if there is one, and nothing else. -/
def Gives (pieces : List String) (key : String) : Option Int → Prop
  | none => ∀ piece ∈ pieces, (pairOf piece).1 ≠ key
  | some n => key ++ "=" ++ toString n ∈ pieces ∧
    ∀ piece ∈ pieces, (pairOf piece).1 = key → piece = key ++ "=" ++ toString n

theorem isPlain_toString (n : Int) : (toString n).toList.all isPlain = true := by
  refine List.all_eq_true.mpr fun c hc => ?_
  rcases Sql.isDigit_of_mem_toString_int hc with hdigit | rfl
  · have hlt : c.toNat < 128 := by
      simp only [Char.isDigit, Bool.and_eq_true, decide_eq_true_eq] at hdigit
      exact Nat.lt_of_le_of_lt hdigit.2 (by decide)
    have hpercent : c ≠ '%' := by
      rintro rfl
      contradiction
    have hplus : c ≠ '+' := by
      rintro rfl
      contradiction
    simp [isPlain, hlt, hpercent, hplus]
  · decide

/-- A query has under a key that its pieces give a number the text of the number. -/
theorem lastGiven_pairs {pieces : List String} (hpieces : ∀ piece ∈ pieces, '&' ∉ piece.toList)
    {key : String} (hkey : key.toList.all isPlain = true) (hequals : '=' ∉ key.toList)
    {number : Option Int} (h : Gives pieces key number) :
    Keyed.lastGiven key (pairs (String.intercalate "&" pieces)) = number.map toString := by
  have hpair (n : Int) : pairOf (key ++ "=" ++ toString n) = (key, toString n) :=
    decodePair_encode hkey hequals (isPlain_toString n)
  rw [pairs_intercalate hpieces]
  cases number with
  | none =>
    refine Keyed.lastGiven_eq_none fun pair hmem => ?_
    obtain ⟨piece, hpiece, rfl⟩ := List.mem_map.mp hmem
    exact h piece (List.mem_filter.mp hpiece).1
  | some n =>
    obtain ⟨hgiven, honly⟩ := h
    refine Keyed.lastGiven_eq_some ?_ fun pair hmem hfirst => ?_
    · refine List.mem_map.mpr ⟨_, List.mem_filter.mpr ⟨hgiven, ?_⟩, hpair n⟩
      have hsign : UInt8.ofNat '='.toNat ∈ Utf8.encode (key ++ "=" ++ toString n) :=
        (Utf8.mem_encode_iff (by decide) _).mpr (by simp)
      rw [List.isEmpty_eq_false_iff_exists_mem.mpr ⟨_, hsign⟩]
      rfl
    · obtain ⟨piece, hpiece, rfl⟩ := List.mem_map.mp hmem
      rw [honly piece (List.mem_filter.mp hpiece).1 hfirst, hpair n]

end Form

namespace Input

/-! ## Pages as inputs -/

/-- The fields of a limit and an offset as texts. -/
def pageFields (limit offset : Option Int) : Fields :=
  (limit.map fun n => ("limit", Field.text (toString n))).toList ++
    (offset.map fun n => ("offset", Field.text (toString n))).toList

theorem get?_pageFields (limit offset : Option Int) :
    Keyed.get? "limit" (pageFields limit offset) = limit.map (fun n => Field.text (toString n)) ∧
      Keyed.get? "offset" (pageFields limit offset) =
        offset.map fun n => Field.text (toString n) := by
  cases limit <;> cases offset <;> exact ⟨rfl, rfl⟩

theorem ascending_pageFields (limit offset : Option Int) :
    Keyed.Ascending (pageFields limit offset) := by
  cases limit with
  | none =>
    cases offset with
    | none => exact List.Pairwise.nil
    | some o => exact List.pairwise_singleton _ _
  | some l =>
    cases offset with
    | none => exact List.pairwise_singleton _ _
    | some o =>
      have hlt : "limit" < "offset" := by decide
      exact List.pairwise_pair.mpr hlt

/-- A number of 64 bits is decoded from its decimal text. -/
theorem decode_decimal {n : Int} (h : -2 ^ 63 ≤ n ∧ n < 2 ^ 63) :
    (Shape.option (.integer (.signed 64))).decode (.text (toString n)) =
      .ok (.some (.integer n)) := by
  have hcontains : (Text.IntegerRange.signed 64).contains n = true := by
    have hleast : (Text.IntegerRange.signed 64).least = -2 ^ 63 := by decide +kernel
    have hgreatest : (Text.IntegerRange.signed 64).greatest = 2 ^ 63 - 1 := by decide +kernel
    rw [Text.IntegerRange.contains, hleast, hgreatest, Bool.and_eq_true, decide_eq_true_eq,
      decide_eq_true_eq]
    omega
  have hread := Text.IntegerRange.read?_toString hcontains
  have hpresent : (Source.text (toString n)).isAbsent = false := by
    refine Bool.eq_false_iff.mpr fun hempty => ?_
    -- no number is read from the empty text
    rw [String.isEmpty_iff.mp hempty] at hread
    simp [Text.IntegerRange.read?, Text.IntegerRange.readDigits?] at hread
  have hinteger : (Shape.integer (.signed 64)).decode (.text (toString n)) = .ok (.integer n) := by
    unfold Shape.decode decodeInteger
    simp only [hread]
    rfl
  have hoption : (Shape.option (.integer (.signed 64))).decode (.text (toString n)) =
      if (Source.text (toString n)).isAbsent then .ok .none
      else ((Shape.integer (.signed 64)).decode (.text (toString n))).map .some := rfl
  rw [hoption, hpresent, hinteger]
  rfl

theorem decodePage_pageFields {limit offset : Option Int}
    (hlimit : ∀ n ∈ limit, -2 ^ 63 ≤ n ∧ n < 2 ^ 63)
    (hoffset : ∀ n ∈ offset, -2 ^ 63 ≤ n ∧ n < 2 ^ 63) :
    decodePage (.request (pageFields limit offset)) = .ok ⟨limit, offset⟩ := by
  have hl : ∀ n ∈ limit, decodeField [pageField "limit", pageField "offset"] "limit"
      (.text (toString n)) = some ("limit", .ok (.some (.integer n))) :=
    fun n hn => congrArg (fun datum => some ("limit", datum)) (decode_decimal (hlimit n hn))
  have ho : ∀ n ∈ offset, decodeField [pageField "limit", pageField "offset"] "offset"
      (.text (toString n)) = some ("offset", .ok (.some (.integer n))) :=
    fun n hn => congrArg (fun datum => some ("offset", datum)) (decode_decimal (hoffset n hn))
  rw [decodePage, pageShape, Shape.decode_record (.request _)]
  unfold pageFields
  cases limit with
  | none =>
    cases offset with
    | none => rfl
    | some o =>
      simp only [Option.map_none, Option.map_some, Option.toList_none, Option.toList_some,
        List.nil_append]
      rw [fillSlots_fill (ho o rfl) rfl]
      rfl
  | some l =>
    cases offset with
    | none =>
      simp only [Option.map_none, Option.map_some, Option.toList_none, Option.toList_some,
        List.append_nil]
      rw [fillSlots_fill (hl l rfl) rfl]
      rfl
    | some o =>
      simp only [Option.map_some, Option.toList_some, List.singleton_append]
      rw [fillSlots_fill (hl l rfl) rfl, fillSlots_fill (ho o rfl) rfl]
      rfl

/-- A page is told by the entries of its two keys. -/
theorem decodePage_of_agree {input input' : Fields} (hinput : Keyed.Ascending input)
    (hinput' : Keyed.Ascending input')
    (hlimit : Keyed.get? "limit" input = Keyed.get? "limit" input')
    (hoffset : Keyed.get? "offset" input = Keyed.get? "offset" input') :
    decodePage (.request input) = decodePage (.request input') := by
  -- no key but these two names a field
  have hagree : ∀ key, fieldOf? [pageField "limit", pageField "offset"] key ≠ none →
      Keyed.get? key input = Keyed.get? key input' := by
    intro key hkey
    by_cases hl : key = "limit"
    · rw [hl, hlimit]
    · by_cases ho : key = "offset"
      · rw [ho, hoffset]
      · refine absurd ?_ hkey
        simp [fieldOf?, pageField, Label.accepts, Ne.symm hl, Ne.symm ho]
  rw [decodePage, decodePage, pageShape, Shape.decode_record_of_agree _ _ hinput hinput' hagree]

/-- A query gives the page of the limit and the offset that its pieces give, if the path has neither
and the body has none that the query leaves out. -/
theorem decodePage_query {limit offset : Option Int}
    (hlimit : ∀ n ∈ limit, -2 ^ 63 ≤ n ∧ n < 2 ^ 63)
    (hoffset : ∀ n ∈ offset, -2 ^ 63 ≤ n ∧ n < 2 ^ 63) {pieces : List String}
    (hpieces : ∀ piece ∈ pieces, '&' ∉ piece.toList)
    (hgivesLimit : Form.Gives pieces "limit" limit)
    (hgivesOffset : Form.Gives pieces "offset" offset)
    {members : List (String × Json)} {path : List (String × String)}
    (hmembers : ∀ member ∈ members,
      (limit = none → member.1 ≠ "limit") ∧ (offset = none → member.1 ≠ "offset"))
    (hpath : ∀ parameter ∈ path, parameter.1 ≠ "limit" ∧ parameter.1 ≠ "offset") :
    decodePage (.request (Fields.merge members
      (Form.pairs (String.intercalate "&" pieces)) path)) = .ok ⟨limit, offset⟩ := by
  obtain ⟨hlimit', hoffset'⟩ := get?_pageFields limit offset
  rw [← decodePage_pageFields hlimit hoffset]
  refine decodePage_of_agree (Fields.ascending_merge _ _ _) (ascending_pageFields limit offset)
    ?_ ?_
  · rw [Fields.get?_merge, Keyed.lastGiven_eq_none fun p hp => (hpath p hp).1,
      Form.lastGiven_pairs hpieces (by decide) (by decide) hgivesLimit, hlimit']
    cases limit with
    | none => rw [Keyed.lastGiven_eq_none fun m hm => (hmembers m hm).1 rfl]; rfl
    -- what the query gives stands before what the body gives
    | some l => rfl
  · rw [Fields.get?_merge, Keyed.lastGiven_eq_none fun p hp => (hpath p hp).2,
      Form.lastGiven_pairs hpieces (by decide) (by decide) hgivesOffset, hoffset']
    cases offset with
    | none => rw [Keyed.lastGiven_eq_none fun m hm => (hmembers m hm).2 rfl]; rfl
    | some o => rfl

end Input

/-! ## Main result -/

namespace Sql.Page

open Store (Select)

/-- **A page is rendered as it was asked for.** A query that gives a limit and an offset of 64 bits
in decimals, or leaves one or both out, makes the page of exactly these, whatever else is in the
query, the body and the path; what the query gives, the body may give too. A selection of that page
has the clauses of the page behind it, one for each of the two that is present. The defaults change
nothing that is present, change nothing when they are filled in again, and put both clauses behind a
selection. Steps about the page leave the last limit and the last offset that they give, and taking
over a page clears neither. -/
theorem rendered_as_asked (limit offset : Option Int)
    (hlimit : ∀ n ∈ limit, -2 ^ 63 ≤ n ∧ n < 2 ^ 63)
    (hoffset : ∀ n ∈ offset, -2 ^ 63 ≤ n ∧ n < 2 ^ 63)
    (pieces : List String) (hpieces : ∀ piece ∈ pieces, '&' ∉ piece.toList)
    (hgivesLimit : Form.Gives pieces "limit" limit)
    (hgivesOffset : Form.Gives pieces "offset" offset)
    (body : List UInt8) (members : List (String × Json))
    (hbody : Input.bodyMembers body = .ok members)
    (hmembers : ∀ member ∈ members,
      (limit = none → member.1 ≠ "limit") ∧ (offset = none → member.1 ≠ "offset"))
    (path : List (String × String))
    (hpath : ∀ parameter ∈ path, parameter.1 ≠ "limit" ∧ parameter.1 ≠ "offset")
    (table : String) (i : Identifier) (htable : Identifier.ofName table = .ok i) :
    let page : Page := ⟨limit, offset⟩
    let filled := page.fillDefaults
    let head := "SELECT * FROM " ++ i.quoted
    (∃ fields, Input.gather body (some (String.intercalate "&" pieces)) path = .ok fields ∧
      Input.decodePage (.request fields) = .ok page) ∧
    (page.text = clauses limit offset ∧
      (({ table } : Select).apply (.paginate page)).render = .ok ⟨behind head page.text, []⟩) ∧
    ((∀ n, limit = some n → filled.limit = some n) ∧
      (∀ n, offset = some n → filled.offset = some n) ∧
      filled.fillDefaults = filled ∧
      page.limitOrDefault = limit.getD 20 ∧ page.offsetOrDefault = offset.getD 0 ∧
      filled.text =
        "LIMIT " ++ toString page.limitOrDefault ++ " OFFSET " ++ toString page.offsetOrDefault ∧
      (({ table } : Select).apply (.paginate filled)).render =
        .ok ⟨head ++ " " ++ ("LIMIT " ++ toString page.limitOrDefault ++
          " OFFSET " ++ toString page.offsetOrDefault), []⟩) ∧
    (∀ steps : List Step,
      let lastLimit := (steps.filterMap Step.limit?).getLast?
      let lastOffset := (steps.filterMap Step.offset?).getLast?
      (({ table } : Select).run (steps.map Step.onSelect)).render =
        .ok ⟨behind head (clauses lastLimit lastOffset), []⟩ ∧
      (({} : Query).run (steps.map Step.onQuery)).page.text = clauses lastLimit lastOffset ∧
      ∀ s : Select, (s.run (steps.map Step.onSelect)).query.page =
        ⟨lastLimit.or s.query.page.limit, lastOffset.or s.query.page.offset⟩) ∧
    (∀ (s : Select) (other : Page),
      (s.query.page.limit.isSome → (s.apply (.paginate other)).query.page.limit.isSome) ∧
      (s.query.page.offset.isSome → (s.apply (.paginate other)).query.page.offset.isSome)) := by
  intro page filled head
  have hfilled := text_fillDefaults page
  refine ⟨?_, ⟨text_eq page, render_paginate htable page⟩, ⟨?_, ?_, rfl, rfl, rfl, hfilled, ?_⟩,
    ?_, fun s other => ⟨isSome_or, isSome_or⟩⟩
  · refine ⟨_, ?_, Input.decodePage_query hlimit hoffset hpieces hgivesLimit hgivesOffset hmembers
      hpath⟩
    rw [Input.gather, hbody]
    rfl
  · rintro n rfl
    rfl
  · rintro n rfl
    rfl
  · have hnonempty : filled.text ≠ "" := by
      rw [hfilled]
      simp
    rw [render_paginate htable filled, behind, if_neg hnonempty, hfilled]
  · intro steps lastLimit lastOffset
    have hafter : ({} : Page).after steps = ⟨lastLimit, lastOffset⟩ := by
      rw [after, Option.or_none, Option.or_none]
    refine ⟨?_, ?_, fun s => ?_⟩
    · rw [render_run htable, hafter, text_eq]
    · rw [run_onQuery]
      show (({} : Page).after steps).text = _
      rw [hafter, text_eq]
    · rw [run_onSelect]
      rfl

/-- The least number of 64 bits as a limit, between other keys, one of which holds an ampersand. The
body has another limit. -/
theorem rendered_as_asked_least :
    let pieces := ["q=a%26limit", "limit=-9223372036854775808", "", "Limit"]
    let body := Utf8.encode "\x7b\"limit\": 1\x7d"
    (∀ piece ∈ pieces, '&' ∉ piece.toList) ∧
      Form.Gives pieces "limit" (some (-9223372036854775808)) ∧ Form.Gives pieces "offset" none ∧
      Input.bodyMembers body = .ok [("limit", .int 1)] ∧
      (∃ fields, Input.gather body (some (String.intercalate "&" pieces)) [("_id", "7")] =
          .ok fields ∧
        Input.decodePage (.request fields) = .ok ⟨some (-9223372036854775808), none⟩) ∧
      (({ table := "item" } : Select).apply
          (.paginate ⟨some (-9223372036854775808), none⟩)).render =
        .ok ⟨"SELECT * FROM \"item\" LIMIT -9223372036854775808", []⟩ := by
  intro pieces body
  have hpieces : ∀ piece ∈ pieces, '&' ∉ piece.toList := by decide +kernel
  have hlimit : Form.Gives pieces "limit" (some (-9223372036854775808)) := by
    refine ⟨by decide +kernel, ?_⟩
    decide +kernel
  have hoffset : Form.Gives pieces "offset" none := by
    show ∀ piece ∈ pieces, (Form.pairOf piece).1 ≠ "offset"
    decide +kernel
  have hbody : Input.bodyMembers body = .ok [("limit", .int 1)] := by decide +kernel
  obtain ⟨hfields, ⟨-, hrender⟩, -⟩ := rendered_as_asked (some (-9223372036854775808)) none
    (by simp) (by simp) pieces hpieces hlimit hoffset body _ hbody (by simp) [("_id", "7")]
    (by decide) "item" ⟨"item", rfl⟩ rfl
  exact ⟨hpieces, hlimit, hoffset, hbody, hfields, hrender⟩

end Sql.Page

end Rowgate
