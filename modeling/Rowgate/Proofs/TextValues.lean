import Rowgate.Http.Endpoint
import Rowgate.Proofs.Checked
import Rowgate.Proofs.Decimals
import Rowgate.Proofs.Records
/-
Texts of queries and paths as values of fields.

A truth value, an integer, a text or a variant without payload is filled by the texts that spell its
values (`Base.decode_iff`); a text is filled by every text as it is. Options and newtypes may stand
around such a shape in any number and order. They hand a text that is not empty down to the base, and
what the base makes of it stands under all of them. The empty text is the absence of a value for the
outermost option, and only where there is no option does it reach the base.

The main result is `Shape.decode_text_under`. Integers of 128 bits are not among these shapes: no
text fills them, whatever it spells, so a request that gives such a field a text is refused
(`Shape.receive_decimal`).
-/
set_option autoImplicit false

namespace Rowgate.Input

/-! ## What a request decodes to -/

/-- The datum of a shape that a request gives, or why there is none. -/
def Shape.receive (shape : Shape) (body : List UInt8) (query : Option String)
    (path : List (String × String)) : Except Operation.Failure Datum := do
  let fields ← (gather body query path).mapError fun e => .decode e.message
  (shape.decode (.request fields)).mapError fun e => .decode e.message

theorem mapError_eq_ok {ε ε' α : Type} {x : Except ε α} {f : ε → ε'} {a : α} :
    x.mapError f = .ok a ↔ x = .ok a := by
  cases x <;> simp [Except.mapError]

theorem Shape.receive_of_gather {body : List UInt8} {query : Option String}
    {path : List (String × String)} {fields : Fields} (h : gather body query path = .ok fields)
    (shape : Shape) : shape.receive body query path =
      (shape.decode (.request fields)).mapError fun e => .decode e.message := by
  rw [receive, h]
  rfl

/-- A handler is given what the request decodes to, as long as the body is not too long. -/
theorem Shape.ofRequest_eq_receive {ο : Type} (codec : Http.Codec Datum ο) (shape : Shape)
    (hread : ∀ fields, codec.read fields = shape.decode (.request fields))
    {request : Http.Request} (hlength : request.body.length ≤ maxBodyBytes) :
    codec.ofRequest [] request = shape.receive request.body request.target.query [] := by
  rw [Http.Codec.ofRequest, requestFields_of_length_le hlength, Shape.receive]
  cases gather request.body request.target.query [] with
  | error e => rfl
  | ok fields =>
    show codec.input fields = _
    rw [Http.Codec.input, hread]
    rfl

/-! ## Shapes that texts fill -/

/-- The shapes that a text fills by itself. -/
inductive Base where
  | bool
  | integer (range : Text.IntegerRange)
  | string
  /-- a variant of which no case has a payload -/
  | names (name : String) (cases : List String)

/-- The shape of a base. -/
def Base.shape : Base → Shape
  | .bool => .bool
  | .integer range => .integer range
  | .string => .string
  | .names name cases => .variants name (cases.map fun case => (case, .unit))

/-- The value that a text spells. -/
inductive Base.Spells : Base → String → Datum → Prop where
  | true : Spells .bool "true" (.bool true)
  | false : Spells .bool "false" (.bool false)
  | integer {range : Text.IntegerRange} {text : String} {n : Int} (hspells : range.Spells text n) :
    Spells (.integer range) text (.integer n)
  /-- a text is taken as it is -/
  | string (text : String) : Spells .string text (.text text)
  | name {name text : String} {cases : List String} (hcase : text ∈ cases) :
    Spells (.names name cases) text (.variant text .unit)

/-- A case without payload is found by its name. -/
theorem decodeCase_unit_iff {name : String} {known : List String} {cases : List String}
    {text : String} {datum : Datum} :
    decodeCase name known (cases.map fun case => (case, .unit)) text none = .ok datum ↔
      text ∈ cases ∧ datum = .variant text .unit := by
  induction cases with
  | nil => simp [decodeCase]
  | cons case cases ih =>
    rw [List.map_cons, decodeCase]
    by_cases hcase : case = text
    · rw [if_pos hcase, Variant.decode]
      simp [Except.map, hcase, eq_comm]
    · rw [if_neg hcase, ih, List.mem_cons, or_iff_right (Ne.symm hcase)]

theorem decodeBool_text_iff {expected text : String} {b : Bool} :
    decodeBool expected (.text text) = .ok b ↔
      (text = "true" ∧ b = true) ∨ (text = "false" ∧ b = false) := by
  by_cases htrue : text = "true"
  · subst htrue
    simp [decodeBool, eq_comm]
  · by_cases hfalse : text = "false"
    · subst hfalse
      simp [decodeBool, eq_comm]
    · simp [decodeBool, htrue, hfalse]

/-- A range takes from a text the number that the text spells. -/
theorem decodeInteger_text_iff {range : Text.IntegerRange} {text : String} {n : Int} :
    decodeInteger range (.text text) = .ok n ↔ range.Spells text n := by
  rw [← Text.IntegerRange.read?_eq_some_iff, decodeInteger]
  cases range.read? text <;> simp

/-- **A text fills a base with the value that it spells.** -/
theorem Base.decode_iff {base : Base} {text : String} {datum : Datum} :
    base.shape.decode (.text text) = .ok datum ↔ base.Spells text datum := by
  constructor
  · intro h
    cases base with
    | bool =>
      rw [shape, Shape.decode] at h
      obtain ⟨b, hb, rfl⟩ := map_eq_ok.mp h
      rcases decodeBool_text_iff.mp hb with ⟨rfl, rfl⟩ | ⟨rfl, rfl⟩
      · exact .true
      · exact .false
    | integer range =>
      rw [shape, Shape.decode] at h
      obtain ⟨n, hn, rfl⟩ := map_eq_ok.mp h
      exact .integer (decodeInteger_text_iff.mp hn)
    | string =>
      obtain rfl := Except.ok.inj h
      exact .string text
    | names name cases =>
      obtain ⟨hcase, rfl⟩ := decodeCase_unit_iff.mp h
      exact .name hcase
  · intro h
    cases h with
    | true => rfl
    | false => rfl
    | integer hspells =>
      rw [shape, Shape.decode, decodeInteger_text_iff.mpr hspells]
      rfl
    | string => rfl
    | name hcase => exact decodeCase_unit_iff.mpr ⟨hcase, rfl⟩

/-! ## Wrappers -/

/-- What stands around a shape, and around the data of it. -/
inductive Wrapper where
  | option
  | newtype
deriving DecidableEq

def Wrapper.shape : Wrapper → Shape → Shape
  | .option, inner => .option inner
  | .newtype, inner => .newtype inner

def Wrapper.datum : Wrapper → Datum → Datum
  | .option, inner => .some inner
  | .newtype, inner => .wrapped inner

/-- A shape under wrappers, the outermost first. -/
def Shape.under (wrappers : List Wrapper) (base : Shape) : Shape :=
  wrappers.foldr Wrapper.shape base

/-- A datum under wrappers, the outermost first. -/
def Datum.under (wrappers : List Wrapper) (datum : Datum) : Datum :=
  wrappers.foldr Wrapper.datum datum

/-- An option around what is there holds it, unless it takes what the fields of a record left. -/
theorem Shape.decode_option_present (inner : Shape) {source : Source}
    (h : source.isAbsent = false) (hrest : ∀ entries, source ≠ .rest entries) :
    (Shape.option inner).decode source = (inner.decode source).map .some := by
  have hsome (result : Decoded) : source.optional result = result.map .some := by
    cases source with
    | rest entries => exact absurd rfl (hrest entries)
    | _ => cases result <;> rfl
  rw [Shape.decode, h, hsome]
  rfl

theorem Shape.decode_option_text (inner : Shape) {text : String} (h : text ≠ "") :
    (Shape.option inner).decode (.text text) = (inner.decode (.text text)).map .some :=
  Shape.decode_option_present inner (by simpa [Source.isAbsent] using h) nofun

/-- What is there goes through all wrappers to the base, and so does what is not, if none of them is
an option. -/
theorem Shape.decode_under_present (base : Shape) {wrappers : List Wrapper} {source : Source}
    (h : source.isAbsent = false ∨ .option ∉ wrappers) (hrest : ∀ entries, source ≠ .rest entries) :
    (base.under wrappers).decode source = (base.decode source).map (Datum.under wrappers) := by
  induction wrappers with
  | nil => exact (congrFun Except.map_id _).symm
  | cons wrapper wrappers ih =>
    have ih := ih (h.imp_right fun hnot hmem => hnot (List.mem_cons_of_mem _ hmem))
    have hstep : (base.under (wrapper :: wrappers)).decode source =
        ((base.under wrappers).decode source).map wrapper.datum := by
      cases wrapper with
      | option =>
        have hpresent := h.resolve_right fun hnot => hnot List.mem_cons_self
        exact Shape.decode_option_present _ hpresent hrest
      | newtype =>
        show (Shape.newtype (base.under wrappers)).decode source = _
        rw [Shape.decode]
        rfl
    rw [hstep, ih]
    cases base.decode source <;> rfl

/-- A text goes through all wrappers to the base, unless it is empty and one of them is an option. -/
theorem Shape.decode_under (base : Shape) {wrappers : List Wrapper} {text : String}
    (h : text ≠ "" ∨ .option ∉ wrappers) :
    (base.under wrappers).decode (.text text) =
      (base.decode (.text text)).map (Datum.under wrappers) :=
  Shape.decode_under_present base (h.imp_left fun hne => by simpa [Source.isAbsent] using hne) nofun

/-- The wrappers around the outermost option, which are newtypes. -/
def Wrapper.outside (wrappers : List Wrapper) : List Wrapper := wrappers.takeWhile (· ≠ .option)

/-- The empty text is the absence of a value for the outermost option. -/
theorem Shape.decode_under_empty (base : Shape) {wrappers : List Wrapper}
    (h : .option ∈ wrappers) :
    (base.under wrappers).decode (.text "") =
      .ok (Datum.none.under (Wrapper.outside wrappers)) := by
  induction wrappers with
  | nil => exact absurd h List.not_mem_nil
  | cons wrapper wrappers ih =>
    cases wrapper with
    | option => rfl
    | newtype =>
      have ih := ih (by simpa using h)
      show ((base.under wrappers).decode (.text "")).map Datum.wrapped = _
      rw [ih]
      rfl

/-! ## Main result -/

/-- **What a text makes of a field.** A text that is not empty is handed down through all options and
newtypes: the field decodes exactly as the base does, to the value of the base under all of them. The
empty text is the absence of a value for the outermost option, under the newtypes around it, and never
fails; without an option it is for the base to take. The base takes the texts that spell its values:
`true` and `false`, the numbers of its range, the names of its cases, and a text takes every text as
it is. A record with such a field holds in it what the text decodes to, and a request whose text does
not decode makes no record. -/
theorem Shape.decode_text_under (base : Base) (wrappers : List Wrapper) (text : String) :
    let shape := base.shape.under wrappers
    (text ≠ "" → shape.decode (.text text) =
      (base.shape.decode (.text text)).map (Datum.under wrappers)) ∧
    (text = "" → .option ∈ wrappers →
      shape.decode (.text text) = .ok (Datum.none.under (Wrapper.outside wrappers))) ∧
    (text = "" → .option ∉ wrappers → shape.decode (.text text) =
      (base.shape.decode (.text text)).map (Datum.under wrappers)) ∧
    (∀ datum, base.shape.decode (.text text) = .ok datum ↔ base.Spells text datum) ∧
    (base = .string → base.shape.decode (.text text) = .ok (.text text)) ∧
    (∀ (name : String) (fields : List (Label × Shape)) (strict : Bool) (label : Label)
      (key : String) (body : List UInt8) (query : Option String) (path : List (String × String))
      (input : Fields), (fields.map (·.1.key)).Nodup → fieldOf? fields key = some (label, shape) →
      gather body query path = .ok input → Keyed.get? key input = some (.text text) →
      ∀ made, (Shape.record name fields strict).receive body query path = .ok made →
        ∃ datum held, shape.decode (.text text) = .ok datum ∧ made = .record held ∧
          (label.key, datum) ∈ held) := by
  refine ⟨fun hnonempty => Shape.decode_under _ (.inl hnonempty), ?_, ?_,
    fun datum => Base.decode_iff, ?_, ?_⟩
  · rintro rfl hoption
    exact Shape.decode_under_empty _ hoption
  · intro _ hoption
    exact Shape.decode_under _ (.inr hoption)
  · rintro rfl
    rfl
  · intro name fields strict label key body query path input hkeys hkey hgather hvalue made hmade
    rw [Shape.receive_of_gather hgather, mapError_eq_ok] at hmade
    exact Shape.decode_record_entry hkeys (ascending_gather hgather) hvalue hkey hmade

/-- A number under a newtype of an option, twice, alone and in a record. -/
theorem Shape.decode_text_under_twice :
    let shape := (Base.integer (.signed 32)).shape.under [.newtype, .option, .newtype, .option]
    let fields := [(Label.mk "page" [] none, shape), (Label.mk "size" [] none, .option .string)]
    shape.decode (.text "-7") = .ok (.wrapped (.some (.wrapped (.some (.integer (-7)))))) ∧
      shape.decode (.text "") = .ok (.wrapped .none) ∧
      (fields.map (·.1.key)).Nodup ∧
      fieldOf? fields "page" = some (Label.mk "page" [] none, shape) ∧
      ∃ held, (Shape.record "Listing" fields false).receive [] (some "page=-7") [] =
          .ok (.record held) ∧
        ("page", .wrapped (.some (.wrapped (.some (.integer (-7)))))) ∈ held := by
  intro shape fields
  obtain ⟨hfull, -, -, hbase, -, hrecord⟩ := Shape.decode_text_under (.integer (.signed 32))
    [.newtype, .option, .newtype, .option] "-7"
  obtain ⟨-, hempty, -⟩ := Shape.decode_text_under (.integer (.signed 32))
    [.newtype, .option, .newtype, .option] ""
  have hspells : (Base.integer (.signed 32)).Spells "-7" (.integer (-7)) :=
    .integer (@Text.IntegerRange.Spells.negative _ _ ['7'] (by decide) (by decide) (by decide)
      (by decide))
  have hdecode : shape.decode (.text "-7") =
      .ok (.wrapped (.some (.wrapped (.some (.integer (-7)))))) := by
    rw [hfull (by decide), (hbase _).mpr hspells]
    rfl
  have hkeys : (fields.map (·.1.key)).Nodup := by decide
  have hgather : gather [] (some "page=-7") [] = .ok [("page", .text "-7")] := by decide +kernel
  have hmade : (Shape.record "Listing" fields false).receive [] (some "page=-7") [] = .ok (.record
      [("page", .wrapped (.some (.wrapped (.some (.integer (-7)))))), ("size", .none)]) := by
    rw [Shape.receive_of_gather hgather]
    rfl
  obtain ⟨datum, held, hdatum, hheld, hmem⟩ :=
    hrecord "Listing" fields false _ "page" [] _ [] _ hkeys rfl hgather rfl _ hmade
  obtain rfl := Except.ok.inj (hdecode.symm.trans hdatum)
  exact ⟨hdecode, hempty rfl (by decide), hkeys, rfl, held, hheld ▸ hmade, hmem⟩

/-! ## Integers of 128 bits -/

/-- The fields of a request that gives one text and nothing else. -/
theorem gather_single {query : Option String} {path : List (String × String)} {key text : String}
    (h : queryPairs query ++ path = [(key, text)]) :
    gather [] query path = .ok [(key, .text text)] := by
  rw [gather_eq_of_bodyMembers (bodyMembers_of_blank rfl), Fields.merge_eq_ofPairs,
    List.append_assoc, Keyed.mapValues, Keyed.mapValues, Keyed.mapValues, ← List.map_append, h]
  rfl

/-- No text fills an integer of 128 bits, whatever wrappers stand around it. -/
theorem Shape.decode_wide_text (range : Text.IntegerRange) {wrappers : List Wrapper} {text : String}
    (h : text ≠ "" ∨ .option ∉ wrappers) :
    ((Shape.wideInteger range).under wrappers).decode (.text text) =
      .error (.invalidType (.text text) range.name) := by
  rw [Shape.decode_under _ h]
  rfl

/-- **Decimals fill the integers of up to 64 bits and none of 128 bits.** A request that gives a field
the decimal text of a number of its range, in the query or in the path, decodes to the number, if the
field has up to 64 bits; a field of 128 bits takes no text, and the request is refused. So is every
request that gives such a field a text, whatever else it gives and whatever wrappers stand around the
integer, unless the text is the absence of an optional value. -/
theorem Shape.receive_decimal (range : Text.IntegerRange) (n : Int) (hn : range.contains n = true)
    (name key : String) (strict : Bool) (query : Option String) (path : List (String × String))
    (hgiven : queryPairs query ++ path = [(key, toString n)]) :
    (Shape.record name [({ key }, .integer range)] strict).receive [] query path =
      .ok (.record [(key, .integer n)]) ∧
    (Shape.record name [({ key }, .wideInteger range)] strict).receive [] query path =
      .error (.decode ("invalid type: string " ++ Text.quoted (toString n) ++ ", expected " ++
        range.name)) ∧
    (∀ (name : String) (fields : List (Label × Shape)) (strict : Bool) (label : Label)
      (wrappers : List Wrapper) (key text : String) (body : List UInt8) (query : Option String)
      (path : List (String × String)) (input : Fields),
      fieldOf? fields key = some (label, (Shape.wideInteger range).under wrappers) →
      gather body query path = .ok input → Keyed.get? key input = some (.text text) →
      (text ≠ "" ∨ .option ∉ wrappers) →
      ∃ e, (Shape.record name fields strict).receive body query path = .error (.decode e)) := by
  have hgather := gather_single hgiven
  have hentries : (Source.request [(key, .text (toString n))]).Gives [(key, .text (toString n))] :=
    .request _
  refine ⟨?_, ?_, ?_⟩
  · have hdecode : (Shape.integer range).decode (.text (toString n)) = .ok (.integer n) := by
      rw [Shape.decode, decodeInteger, Text.IntegerRange.read?_toString hn]
      rfl
    rw [Shape.receive_of_gather hgather, Shape.decode_single_entry name { key } _ strict hentries]
    show Except.mapError _ (((Shape.integer range).decode (.text (toString n))).map _) = _
    rw [hdecode]
    rfl
  · have hdecode : (Shape.wideInteger range).decode (.text (toString n)) =
        .error (.invalidType (.text (toString n)) range.name) :=
      Shape.decode_wide_text range (.inr List.not_mem_nil)
    rw [Shape.receive_of_gather hgather, Shape.decode_single_entry name { key } _ strict hentries]
    show Except.mapError _ (((Shape.wideInteger range).decode (.text (toString n))).map _) = _
    rw [hdecode]
    rfl
  · intro name fields strict label wrappers key text body query path input hkey hinput hvalue htext
    have hdecode : ((Shape.wideInteger range).under wrappers).decode (.ofField (.text text)) =
        .error (.invalidType (.text text) range.name) := Shape.decode_wide_text range htext
    have hmem : (key, .text text) ∈ input :=
      (ascending_gather hinput).get?_eq_some_iff.mp hvalue
    obtain ⟨e, he⟩ := Shape.decode_record_of_bad_entry name strict hkey hdecode hmem
    rw [Shape.receive_of_gather hinput, he]
    exact ⟨_, rfl⟩

/-- The greatest number of 128 bits with a sign, in a query; and a page of 128 bits in a path beside
a limit of 16 bits. -/
theorem Shape.receive_decimal_greatest :
    let range := Text.IntegerRange.signed 128
    let n : Int := 170141183460469231731687303715884105727
    let fields := [(Label.mk "limit" [] none, Shape.integer (.signed 16)),
      (Label.mk "page" [] none, (Shape.wideInteger range).under [.option])]
    range.contains n = true ∧
      queryPairs (some "v=170141183460469231731687303715884105727") ++ [] = [("v", toString n)] ∧
      (Shape.record "One" [({ key := "v" }, .wideInteger range)] false).receive []
          (some "v=170141183460469231731687303715884105727") [] =
        .error (.decode ("invalid type: string " ++ Text.quoted (toString n) ++ ", expected " ++
          "i128")) ∧
      ∃ e, (Shape.record "Listing" fields false).receive [] (some "limit=5") [("page", "0")] =
        .error (.decode e) := by
  intro range n fields
  have hn : range.contains n = true := by decide +kernel
  have hgiven : queryPairs (some "v=170141183460469231731687303715884105727") ++ [] =
      [("v", toString n)] := by decide +kernel
  obtain ⟨-, hwide, hrefused⟩ := Shape.receive_decimal range n hn "One" "v" false _ _ hgiven
  have hgather : gather [] (some "limit=5") [("page", "0")] =
      .ok [("limit", .text "5"), ("page", .text "0")] := by decide +kernel
  exact ⟨hn, hgiven, hwide, hrefused "Listing" fields false _ [.option] "page" "0" [] _ _ _ rfl
    hgather rfl (.inl (by decide))⟩

end Rowgate.Input
