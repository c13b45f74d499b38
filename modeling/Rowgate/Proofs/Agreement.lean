import Rowgate.Proofs.Literals
import Rowgate.Proofs.TextValues
/-
A literal as a text and as a JSON value.

A truth value or an integer of up to 64 bits is filled by a text that spells it and by a JSON value.
The two are read in different ways: a text by the range of the field, a JSON value as an integer of
64 bits or a floating point number before the range is looked at. For a literal both ways lead to one
datum, or both are refused (`Target.decode_literal`). The same holds of a record that a request
makes, whether the literal stands in the query, in the path or in the body (`Shape.receive_literal`).
-/
set_option autoImplicit false

namespace Rowgate.Input

open Json (Canonical Fits IsLiteral OneMember Reading isNull_of_reading ne_empty_of_reading signed
  signedValue signed_ne_cons)

/-! ## Numbers of a range -/

/-- A range reads a literal as its number, if the number is of the range. -/
theorem read?_signed (range : Text.IntegerRange) {text : String} {negative : Bool} {ds : List Char}
    (htext : text.toList = signed negative ds) (hds : Canonical ds)
    (hzero : negative = true → ds ≠ ['0']) :
    range.read? text = (some (signedValue negative ds)).filter range.contains := by
  refine Option.ext fun n => ?_
  rw [Text.IntegerRange.read?_eq_some_iff, Option.filter_eq_some_iff, Option.some.injEq]
  constructor
  · intro h
    cases h with
    | @unsigned ds' htext' hdigits hrange =>
      cases negative with
      | true =>
        rcases htext' with htext' | htext'
        · exact absurd (htext'.symm.trans htext) (hdigits.ne_sign rfl)
        · exact absurd (List.cons.inj (htext'.symm.trans htext)).1 (by decide)
      | false =>
        rcases htext' with htext' | htext'
        · obtain rfl : ds = ds' := htext.symm.trans htext'
          exact ⟨rfl, hrange⟩
        · exact absurd (htext.symm.trans htext') (hds.1.ne_sign rfl)
    | @negative ds' htext' hdigits hleast hrange =>
      cases negative with
      | true =>
        obtain rfl : ds = ds' := (List.cons.inj (htext.symm.trans htext')).2
        exact ⟨rfl, hrange⟩
      | false => exact absurd (htext.symm.trans htext') (hds.1.ne_sign rfl)
  · rintro ⟨rfl, hrange⟩
    cases negative with
    | true =>
      -- the number is negative, so the range has negative numbers
      have hpos := hds.pos (hzero rfl)
      have hleast : range.least < 0 := by
        simp only [Text.IntegerRange.contains, Bool.and_eq_true, decide_eq_true_eq] at hrange
        have hle : range.least ≤ -(Nat.ofDigitChars 10 ds 0 : Int) := hrange.1
        omega
      exact .negative htext hds.1 hleast hrange
    | false => exact .unsigned (.inl htext) hds.1 hrange

/-- The ranges of 8, 16, 32 and 64 bits. -/
inductive Narrow : Text.IntegerRange → Prop where
  | signed {bits : Nat} (hbits : bits ∈ [8, 16, 32, 64]) : Narrow (.signed bits)
  | unsigned {bits : Nat} (hbits : bits ∈ [8, 16, 32, 64]) : Narrow (.unsigned bits)

/-- Numbers of up to 64 bits are integers of JSON. -/
theorem Narrow.fits {range : Text.IntegerRange} (h : Narrow range) {n : Int}
    (hn : range.contains n = true) : Fits n := by
  simp only [Text.IntegerRange.contains, Bool.and_eq_true, decide_eq_true_eq] at hn
  have hends : -(twoTo 63 : Nat) ≤ range.least ∧ range.greatest < (twoTo 64 : Nat) := by
    cases h with
    | signed hbits =>
      simp only [List.mem_cons, List.not_mem_nil, or_false] at hbits
      rcases hbits with rfl | rfl | rfl | rfl <;> decide +kernel
    | unsigned hbits =>
      simp only [List.mem_cons, List.not_mem_nil, or_false] at hbits
      rcases hbits with rfl | rfl | rfl | rfl <;> decide +kernel
  exact ⟨Int.le_trans hends.1 hn.1, Int.lt_of_le_of_lt hn.2 hends.2⟩

/-! ## Fields -/

/-- The shapes of truth values, of integers of up to 64 bits, and of options of these. -/
inductive Target : Shape → Prop where
  | bool : Target .bool
  | integer {range : Text.IntegerRange} (hrange : Narrow range) : Target (.integer range)
  | option {inner : Shape} (hinner : Target inner) : Target (.option inner)

/-- What a JSON value that may be missing decodes to. -/
def Shape.decodeJson? (shape : Shape) (value : Option Json) : Option Datum :=
  value.bind fun v => (shape.decode (.json v)).toOption

theorem toOption_map {ε α β : Type} (x : Except ε α) (g : α → β) :
    (x.map g).toOption = x.toOption.map g := by
  cases x <;> rfl

/-- A numeral that is read as a floating point number or as nothing gives no integer. -/
theorem decodeJson?_float {shape : Shape} {numeral : Json.Numeral}
    (h : ∀ x, (shape.decode (.json (.float x))).toOption = none) :
    shape.decodeJson? numeral.float? = none := by
  rw [Shape.decodeJson?, Json.Numeral.float?]
  cases numeral.double? with
  | none => rfl
  | some x => exact h _

/-- A range takes from a literal the same number as a text and as a JSON value. -/
theorem Narrow.decode_literal {range : Text.IntegerRange} (h : Narrow range) {text : String}
    {value : Option Json} (hread : Reading text value) :
    ((Shape.integer range).decode (.text text)).toOption =
      (Shape.integer range).decodeJson? value := by
  cases hread with
  | true => rfl
  | false => rfl
  | @integer _ negative ds htext hds hzero =>
    rw [Json.value?_of_digits hds hzero, Shape.decode, decodeInteger,
      read?_signed range htext hds hzero]
    generalize signedValue negative ds = n
    by_cases hrange : range.contains n = true
    · rw [if_pos (h.fits hrange), Option.filter_some_pos hrange, Shape.decodeJson?,
        Option.bind_some, Shape.decode, decodeInteger, if_pos hrange]
    · rw [Option.filter_some_neg (eq_false_of_ne_true hrange)]
      by_cases hfits : Fits n
      · rw [if_pos hfits, Shape.decodeJson?, Option.bind_some, Shape.decode, decodeInteger,
          if_neg hrange]
        rfl
      · rw [if_neg hfits, decodeJson?_float fun _ => rfl]
        rfl

/-- A truth value takes from a literal the same as a text and as a JSON value. -/
theorem Shape.decode_bool_literal {text : String} {value : Option Json}
    (hread : Reading text value) :
    (Shape.bool.decode (.text text)).toOption = Shape.bool.decodeJson? value := by
  cases hread with
  | true => rfl
  | false => rfl
  | @integer _ negative ds htext hds hzero =>
    have hrefused : (Shape.bool.decode (.text text)).toOption = none := by
      rw [Shape.decode, toOption_map]
      cases hdecode : decodeBool Shape.bool.expecting (.text text) with
      | error e => rfl
      | ok b =>
        rcases decodeBool_text_iff.mp hdecode with ⟨rfl, -⟩ | ⟨rfl, -⟩
        · exact absurd htext.symm (signed_ne_cons hds.1 rfl (by decide))
        · exact absurd htext.symm (signed_ne_cons hds.1 rfl (by decide))
    rw [hrefused, Json.value?_of_digits hds hzero]
    by_cases hfits : Fits (signedValue negative ds)
    · rw [if_pos hfits]
      rfl
    · rw [if_neg hfits, decodeJson?_float fun _ => rfl]

/-- **A field takes from a literal the same as a text and as a JSON value.** -/
theorem Target.decode_literal {target : Shape} (h : Target target) {text : String}
    {value : Option Json} (hread : Reading text value) :
    (target.decode (.text text)).toOption = target.decodeJson? value := by
  induction h with
  | bool => exact Shape.decode_bool_literal hread
  | integer hrange => exact hrange.decode_literal hread
  | @option inner hinner ih =>
    rw [Shape.decode_option_text inner (ne_empty_of_reading hread), toOption_map, ih]
    cases value with
    | none => rfl
    | some v =>
      have hpresent : (Source.json v).isAbsent = false := isNull_of_reading hread
      rw [Shape.decodeJson?, Shape.decodeJson?, Option.bind_some, Option.bind_some, Shape.decode,
        hpresent, ← toOption_map]
      rfl

/-- What a text that is not empty is worth to a target. -/
inductive Worth (text : String) : Shape → Datum → Prop where
  | bool {b : Bool} (hspells : Base.bool.Spells text (.bool b)) : Worth text .bool (.bool b)
  | integer {range : Text.IntegerRange} {n : Int} (hspells : range.Spells text n) :
    Worth text (.integer range) (.integer n)
  | option {inner : Shape} {datum : Datum} (hinner : Worth text inner datum) :
    Worth text (.option inner) (.some datum)

/-- A target takes from a text what the text is worth to it. -/
theorem Target.decode_iff {target : Shape} (h : Target target) {text : String} (htext : text ≠ "")
    {datum : Datum} : target.decode (.text text) = .ok datum ↔ Worth text target datum := by
  induction h generalizing datum with
  | bool =>
    have hbase : Shape.bool.decode (.text text) = .ok datum ↔ Base.bool.Spells text datum :=
      @Base.decode_iff .bool text datum
    rw [hbase]
    constructor
    · intro hspells
      cases hspells with
      | true => exact .bool .true
      | false => exact .bool .false
    · intro hworth
      cases hworth with
      | bool hspells => exact hspells
  | @integer range hrange =>
    have hbase : (Shape.integer range).decode (.text text) = .ok datum ↔
        (Base.integer range).Spells text datum := @Base.decode_iff (.integer range) text datum
    rw [hbase]
    constructor
    · intro hbase
      cases hbase with
      | integer hspells => exact .integer hspells
    · intro hworth
      cases hworth with
      | integer hspells => exact .integer hspells
  | @option inner hinner ih =>
    rw [Shape.decode_option_text inner htext, map_eq_ok]
    constructor
    · rintro ⟨datum, hdatum, rfl⟩
      exact .option (ih.mp hdatum)
    · intro hworth
      cases hworth with
      | option hinner => exact ⟨_, ih.mpr hinner, rfl⟩

/-! ## Records -/

theorem toOption_bind_congr {ε α β : Type} {x y : Except ε α} {f g : α → Except ε β}
    (hx : x.toOption = y.toOption) (hf : ∀ a, (f a).toOption = (g a).toOption) :
    (x.bind f).toOption = (y.bind g).toOption := by
  cases x with
  | error e =>
    cases y with
    | error e' => rfl
    | ok b => contradiction
  | ok a =>
    cases y with
    | error e' => contradiction
    | ok b =>
      obtain rfl := Option.some.inj hx
      exact hf a

/-- Two entries have one key, and the field that it names takes the same from both. -/
def TakenAlike (fields : List (Label × Shape)) (entry entry' : String × Field) : Prop :=
  entry.1 = entry'.1 ∧ ∀ field, fieldOf? fields entry.1 = some field →
    (field.2.decode (.ofField entry.2)).toOption = (field.2.decode (.ofField entry'.2)).toOption

/-- Entries that are taken alike one by one fill the same slots or are refused alike. -/
theorem fillSlots_alike {fields : List (Label × Shape)} {entries entries' : List (String × Field)}
    (h : List.Forall₂ (TakenAlike fields) entries entries')
    (stray : String → Except DecodeError Unit) (slots : Slots) :
    (fillSlots (takeField fields) stray slots entries).toOption =
      (fillSlots (takeField fields) stray slots entries').toOption := by
  induction h generalizing slots with
  | nil => rfl
  | @cons entry entry' rest rest' halike hrest ih =>
    obtain ⟨key, value⟩ := entry
    obtain ⟨key', value'⟩ := entry'
    obtain ⟨hkeys, hvalues⟩ := halike
    obtain rfl : key = key' := hkeys
    rw [fillSlots, fillSlots]
    cases hkey : fieldOf? fields key with
    | none =>
      rw [takeField_of_none hkey, takeField_of_none hkey]
      cases stray key with
      | error e => rfl
      | ok _ => exact ih slots
    | some field =>
      have hsame := hvalues field hkey
      rw [takeField_of_some hkey, takeField_of_some hkey]
      by_cases htaken : (slots.lookup field.1.key).isSome = true
      · simp only [if_pos htaken]
      · simp only [if_neg htaken]
        exact toOption_bind_congr hsame fun _ => ih _

/-- Requests whose entries are taken alike one by one decode to the same record, or both to none. -/
theorem Shape.decode_record_alike (name : String) {fields : List (Label × Shape)} (strict : Bool)
    {input input' : Fields} (h : List.Forall₂ (TakenAlike fields) input input') :
    ((Shape.record name fields strict).decode (.request input)).toOption =
      ((Shape.record name fields strict).decode (.request input')).toOption := by
  rw [Shape.decode_record_request, Shape.decode_record_request, toOption_map, toOption_map]
  exact congrArg _ (toOption_bind_congr (fillSlots_alike h _ []) fun _ => rfl)

/-! ## Requests -/

/-- Two requests decode to one datum, or both are refused as they are decoded. -/
inductive Agree : Except Operation.Failure Datum → Except Operation.Failure Datum → Prop where
  | given (datum : Datum) : Agree (.ok datum) (.ok datum)
  | refused (message message' : String) :
    Agree (.error (.decode message)) (.error (.decode message'))

theorem Agree.of_toOption {x y : Decoded} (h : x.toOption = y.toOption) :
    Agree (x.mapError fun e => .decode e.message) (y.mapError fun e => .decode e.message) := by
  cases x with
  | error e =>
    cases y with
    | error e' => exact .refused e.message e'.message
    | ok datum' => contradiction
  | ok datum =>
    cases y with
    | error e' => contradiction
    | ok datum' =>
      obtain rfl := Option.some.inj h
      exact .given datum

/-- A second body gives what the first gives and a literal under a key, as a JSON value. -/
inductive GivesLiteral (key text : String) : List UInt8 → List UInt8 → Prop where
  /-- as the only member, behind a blank body -/
  | alone {body : List UInt8} {object : String} (hblank : body.all isBlankByte = true)
    (hobject : OneMember key text object) : GivesLiteral key text body (Utf8.encode object)
  /-- as a member more -/
  | among {body body' : List UInt8} {written written' : List (String × Json)} {v : Json}
    (hvalue : Json.parse? text = some v) (hbody : Written body written)
    (hbody' : Written body' written') (hkey : key ∉ written.map (·.1))
    (hadds : Keyed.Adds key v written written') : GivesLiteral key text body body'

/-- The fields of a request with a literal are those of the request without it and one more: a text
in the query or in the path, a JSON value in the body. A literal that is past all JSON values leaves
no fields at all. -/
theorem gather_of_givesLiteral {key text : String} {body body' : List UInt8}
    (h : GivesLiteral key text body body') {value : Option Json} (hread : Reading text value)
    {query : Option String} {path : List (String × String)}
    (hquery : key ∉ (queryPairs query).map (·.1)) (hpath : key ∉ path.map (·.1)) :
    ∃ others,
      (∀ query', Keyed.Adds key text (queryPairs query) (queryPairs query') →
        gather body query' path = .ok (Keyed.insert key (.text text) others)) ∧
      (∀ path', Keyed.Adds key text path path' →
        gather body query path' = .ok (Keyed.insert key (.text text) others)) ∧
      gather body' query path = value.elim (.error .malformed)
        fun v => .ok (Keyed.insert key (.json v) others) := by
  have hgiven : ∃ written, Written body written ∧ key ∉ written.map (·.1) ∧
      gather body' query path = value.elim (.error .malformed) fun v =>
        .ok (Keyed.insert key (.json v) (Fields.merge written (queryPairs query) path)) := by
    cases h with
    | alone hblank hobject =>
      refine ⟨[], .blank hblank, List.not_mem_nil, ?_⟩
      cases value with
      | none =>
        rw [gather, bodyMembers_oneMember_none hread hobject]
        rfl
      | some v =>
        have hadds : Keyed.Adds key v [] [(key, v)] := ⟨[], [], rfl, rfl⟩
        rw [gather_eq_of_bodyMembers (bodyMembers_oneMember hread hobject),
          Fields.merge_of_adds_body List.not_mem_nil hquery hpath hadds]
        rfl
    | @among _ written written' v hvalue hbody hbody' hkey hadds =>
      obtain rfl : value = some v := (Json.parse?_literal hread).symm.trans hvalue
      refine ⟨written, hbody, hkey, ?_⟩
      rw [gather_of_written hbody', Fields.merge_of_adds_body hkey hquery hpath hadds]
      rfl
  obtain ⟨written, hwritten, hkey, hjson⟩ := hgiven
  refine ⟨Fields.merge written (queryPairs query) path, fun query' hadds => ?_,
    fun path' hadds => ?_, hjson⟩
  · rw [gather_of_written hwritten, Fields.merge_of_adds_query hkey hquery hpath hadds]
  · rw [gather_of_written hwritten, Fields.merge_of_adds_path hkey hquery hpath hadds]

/-! ## Main result -/

variable {fields : List (Label × Shape)} {key text : String} {label : Label} {target : Shape}

/-- A request with a text in a field agrees with the request with the JSON value of the text. -/
theorem Shape.receive_agree (htarget : Target target) {value : Option Json}
    (hread : Reading text value) (name : String) (strict : Bool)
    (hkey : fieldOf? fields key = some (label, target)) {body body' : List UInt8}
    {query query' : Option String} {path path' : List (String × String)} {others : Fields}
    (htext : gather body query path = .ok (Keyed.insert key (.text text) others))
    (hjson : gather body' query' path' = value.elim (.error .malformed)
      fun v => .ok (Keyed.insert key (.json v) others)) :
    Agree ((Shape.record name fields strict).receive body query path)
      ((Shape.record name fields strict).receive body' query' path') := by
  have hdecode := htarget.decode_literal hread
  rw [Shape.receive_of_gather htext]
  cases value with
  | none =>
    have hrefused : ∃ e, target.decode (.text text) = .error e := by
      cases hdatum : target.decode (.text text) with
      | error e => exact ⟨e, rfl⟩
      | ok datum =>
        rw [hdatum] at hdecode
        contradiction
    obtain ⟨e, he⟩ := hrefused
    have hmem : (key, .text text) ∈ Keyed.insert key (.text text) others := Keyed.mem_insert_self
    obtain ⟨e', he'⟩ := @Shape.decode_record_of_bad_entry name _ strict _ _ (.text text) _ e hkey he
      hmem
    rw [he', Shape.receive, hjson]
    exact .refused _ _
  | some v =>
    rw [Shape.receive_of_gather hjson]
    refine .of_toOption (Shape.decode_record_alike name strict ?_)
    refine Keyed.forall₂_insert (fun _ => ⟨rfl, fun _ _ => rfl⟩) ⟨rfl, fun field hfield => ?_⟩
      others
    obtain rfl := Option.some.inj (hkey.symm.trans hfield)
    exact hdecode

/-- **A literal is worth the same as a text and as a JSON value.** What a truth value, an integer of
8 to 64 bits or an option of these takes from the text of a literal is what the text spells, and it
is what it takes from the JSON value that the literal is; where the literal is past all JSON values,
it takes nothing from the text. So a request that gives a field of a record the literal in its query,
or in its path, agrees with the one that gives it in its body, as the only member or, where it is a
JSON value, among others: both decode to one record, or both are refused as they are decoded. -/
theorem Shape.receive_literal (htext : IsLiteral text) (htarget : Target target) :
    (∀ datum, target.decode (.text text) = .ok datum ↔ Worth text target datum) ∧
    (target.decode (.text text)).toOption = target.decodeJson? (Json.parse? text) ∧
    ∀ (name : String) (fields : List (Label × Shape)) (strict : Bool) (label : Label)
      (key : String), fieldOf? fields key = some (label, target) →
      ∀ (body body' : List UInt8) (query : Option String) (path : List (String × String)),
        GivesLiteral key text body body' → key ∉ (queryPairs query).map (·.1) →
        key ∉ path.map (·.1) →
        let shape := Shape.record name fields strict
        (∀ query', Keyed.Adds key text (queryPairs query) (queryPairs query') →
          Agree (shape.receive body query' path) (shape.receive body' query path)) ∧
        (∀ path', Keyed.Adds key text path path' →
          Agree (shape.receive body query path') (shape.receive body' query path)) := by
  obtain ⟨value, hread⟩ := htext.exists_reading
  refine ⟨fun datum => htarget.decode_iff (ne_empty_of_reading hread), ?_, ?_⟩
  · rw [Json.parse?_literal hread]
    exact htarget.decode_literal hread
  · intro name fields strict label key hkey body body' query path hgives hquery hpath shape
    obtain ⟨others, hinQuery, hinPath, hinBody⟩ :=
      gather_of_givesLiteral hgives hread hquery hpath
    refine ⟨fun query' hadds => ?_, fun path' hadds => ?_⟩
    · exact Shape.receive_agree htarget hread name strict hkey (hinQuery query' hadds) hinBody
    · exact Shape.receive_agree htarget hread name strict hkey (hinPath path' hadds) hinBody

/-- The least number of 64 bits, in the query and alone in a body with blanks; and the first number
that 64 bits do not hold, in the path and among other members of a body. -/
theorem Shape.receive_literal_ends :
    let fields := [(Label.mk "name" [] none, Shape.string),
      (Label.mk "offset" ["skip"] none, Shape.option (.integer (.signed 64)))]
    let shape := Shape.record "Listing" fields true
    let body := Utf8.encode "\x7b\"skip\" : -9223372036854775808 \x7d\n"
    let named := Utf8.encode "\x7b\"name\":\"a\"\x7d"
    let past := Utf8.encode "\x7b\"offset\":18446744073709551616,\"name\":\"a\"\x7d"
    IsLiteral "-9223372036854775808" ∧ IsLiteral "18446744073709551616" ∧
      Target (.option (.integer (.signed 64))) ∧
      GivesLiteral "skip" "-9223372036854775808" [] body ∧
      GivesLiteral "offset" "18446744073709551616" named past ∧
      Agree (shape.receive [] (some "name=a&skip=-9223372036854775808") [])
        (shape.receive body (some "name=a") []) ∧
      shape.receive body (some "name=a") [] =
        .ok (.record [("name", .text "a"), ("offset", .some (.integer (-9223372036854775808)))]) ∧
      Agree (shape.receive named none [("offset", "18446744073709551616")])
        (shape.receive past none []) := by
  intro fields shape body named past
  have hleast : IsLiteral "-9223372036854775808" :=
    @IsLiteral.integer _ true "9223372036854775808".toList (by decide +kernel)
      ⟨by decide +kernel, fun _ h => absurd (List.cons.inj h).1 (by decide)⟩ (by decide +kernel)
  have hpast : IsLiteral "18446744073709551616" :=
    @IsLiteral.integer _ false "18446744073709551616".toList (by decide +kernel)
      ⟨by decide +kernel, fun _ h => absurd (List.cons.inj h).1 (by decide)⟩ (by decide +kernel)
  have htarget : Target (.option (.integer (.signed 64))) :=
    .option (.integer (.signed (by decide)))
  have halone : GivesLiteral "skip" "-9223372036854775808" [] body :=
    .alone rfl (@OneMember.spaced _ _ _ [] [] [' '] [' '] [' '] ['\n']
      (List.all_eq_true.mp rfl) (by decide))
  have hamong : GivesLiteral "offset" "18446744073709551616" named past :=
    @GivesLiteral.among _ _ _ _ [("name", .string "a")]
      [("offset", .float (Binary.ofInt 18446744073709551616)), ("name", .string "a")]
      (.float (Binary.ofInt 18446744073709551616)) (by decide +kernel)
      (.object (by decide +kernel)) (.object (by decide +kernel)) (by decide)
      ⟨[], [("name", .string "a")], rfl, rfl⟩
  obtain ⟨-, -, hleastSame⟩ := Shape.receive_literal hleast htarget
  obtain ⟨-, -, hpastSame⟩ := Shape.receive_literal hpast htarget
  have hquery : queryPairs (some "name=a") = [("name", "a")] := by decide +kernel
  have hquery' : queryPairs (some "name=a&skip=-9223372036854775808") =
      [("name", "a"), ("skip", "-9223372036854775808")] := by decide +kernel
  have hinQuery := (hleastSame "Listing" fields true _ "skip" rfl [] body (some "name=a") [] halone
    (by rw [hquery]; decide) List.not_mem_nil).1 (some "name=a&skip=-9223372036854775808")
    ⟨[("name", "a")], [], hquery, hquery'⟩
  have hinPath := (hpastSame "Listing" fields true _ "offset" rfl named past none [] hamong
    List.not_mem_nil List.not_mem_nil).2 [("offset", "18446744073709551616")] ⟨[], [], rfl, rfl⟩
  have hgather : gather body (some "name=a") [] =
      .ok [("name", .text "a"), ("skip", .json (.int (-9223372036854775808)))] := by decide +kernel
  have hmade : shape.receive body (some "name=a") [] =
      .ok (.record [("name", .text "a"), ("offset", .some (.integer (-9223372036854775808)))]) := by
    rw [Shape.receive_of_gather hgather]
    rfl
  exact ⟨hleast, hpast, htarget, halone, hamong, hinQuery, hmade, hinPath⟩

end Rowgate.Input
