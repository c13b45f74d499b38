import Mathlib.Data.List.Nodup
import Rowgate.Proofs.Members
/-
The fields of a request, by its three sources.

The fields of a request are the table of the members of its body, the pairs of its query and the
parameters of its path, one behind the other. So under a key the path decides, then the query, then
the body, and the last of several values from one source (`Fields.get?_merge_iff`). Members of the
body or pairs of the query with different keys may change places (`gather_eq_of_reordered`), and the
parameters of the path, of which no two have one name, may stand in any order.

The main result is `gather_decides`. A blank body is as good as none, and a body that is neither
blank nor an object is refused, whatever else the request has.
-/
set_option autoImplicit false

namespace Rowgate.Input

/-! ## The fields that three lists give -/

theorem Fields.merge_eq_ofPairs (body : List (String × Json))
    (query path : List (String × String)) :
    Fields.merge body query path = Keyed.ofPairs (Keyed.mapValues Field.json body ++
      Keyed.mapValues Field.text query ++ Keyed.mapValues Field.text path) := by
  rw [Keyed.ofPairs_append, Keyed.ofPairs_append]
  rfl

theorem Fields.ascending_merge (body : List (String × Json)) (query path : List (String × String)) :
    Keyed.Ascending (Fields.merge body query path) := by
  rw [Fields.merge_eq_ofPairs]
  exact Keyed.ascending_ofPairs _

/-- Under a key the path decides, then the query, then the body. -/
theorem Fields.get?_merge (key : String) (body : List (String × Json))
    (query path : List (String × String)) :
    Keyed.get? key (Fields.merge body query path) =
      ((Keyed.lastGiven key path).map Field.text).or
        (((Keyed.lastGiven key query).map Field.text).or
          ((Keyed.lastGiven key body).map Field.json)) := by
  have hmerge : Fields.merge body query path =
      ((Keyed.ofPairs (Keyed.mapValues Field.json body)).insertAll
        (Keyed.mapValues Field.text query)).insertAll (Keyed.mapValues Field.text path) := rfl
  rw [hmerge, Keyed.get?_insertAll, Keyed.get?_insertAll, Keyed.get?_ofPairs,
    Keyed.lastGiven_mapValues, Keyed.lastGiven_mapValues, Keyed.lastGiven_mapValues]

/-- The field that decides under a key. -/
inductive Decides (body : List (String × Json)) (query path : List (String × String))
    (key : String) : Field → Prop where
  /-- the text of the parameter of the path -/
  | path {text : String} (hpath : (key, text) ∈ path) : Decides body query path key (.text text)
  /-- the text of the last pair of the query, where the path has no such parameter -/
  | query {text : String} {front rest : List (String × String)} (hpath : key ∉ path.map (·.1))
    (hquery : query = front ++ (key, text) :: rest) (hlast : key ∉ rest.map (·.1)) :
    Decides body query path key (.text text)
  /-- the value of the last member of the body, where neither the path nor the query has the key -/
  | body {value : Json} {front rest : List (String × Json)} (hpath : key ∉ path.map (·.1))
    (hquery : key ∉ query.map (·.1)) (hbody : body = front ++ (key, value) :: rest)
    (hlast : key ∉ rest.map (·.1)) : Decides body query path key (.json value)

/-- **A key has the field that decides under it.** -/
theorem Fields.get?_merge_iff {body : List (String × Json)} {query path : List (String × String)}
    (hpath : (path.map (·.1)).Nodup) {key : String} {field : Field} :
    Keyed.get? key (Fields.merge body query path) = some field ↔
      Decides body query path key field := by
  rw [Fields.get?_merge]
  constructor
  · intro h
    cases hfromPath : Keyed.lastGiven key path with
    | some text =>
      obtain ⟨front, rest, rfl, -⟩ := Keyed.lastGiven_eq_some_iff.mp hfromPath
      rw [hfromPath] at h
      obtain rfl := Option.some.inj h
      exact .path (List.mem_append_right _ List.mem_cons_self)
    | none =>
      have hnotPath := Keyed.lastGiven_eq_none_iff.mp hfromPath
      cases hfromQuery : Keyed.lastGiven key query with
      | some text =>
        obtain ⟨front, rest, hquery, hlast⟩ := Keyed.lastGiven_eq_some_iff.mp hfromQuery
        rw [hfromPath, hfromQuery] at h
        obtain rfl := Option.some.inj h
        exact .query hnotPath hquery hlast
      | none =>
        rw [hfromPath, hfromQuery] at h
        obtain ⟨value, hfromBody, rfl⟩ := Option.map_eq_some_iff.mp h
        obtain ⟨front, rest, hbody, hlast⟩ := Keyed.lastGiven_eq_some_iff.mp hfromBody
        exact .body hnotPath (Keyed.lastGiven_eq_none_iff.mp hfromQuery) hbody hlast
  · intro h
    cases h with
    | path hmem =>
      -- no other parameter has the name, so this one is the last
      have honly : ∀ pair ∈ path, pair.1 = key → pair.2 = _ := fun pair hpair hkey =>
        congrArg Prod.snd (List.inj_on_of_nodup_map hpath hpair hmem hkey)
      rw [Keyed.lastGiven_eq_some hmem honly]
      rfl
    | query hnotPath hquery hlast =>
      rw [Keyed.lastGiven_eq_none_iff.mpr hnotPath,
        Keyed.lastGiven_eq_some_iff.mpr ⟨_, _, hquery, hlast⟩]
      rfl
    | body hnotPath hnotQuery hbody hlast =>
      rw [Keyed.lastGiven_eq_none_iff.mpr hnotPath, Keyed.lastGiven_eq_none_iff.mpr hnotQuery,
        Keyed.lastGiven_eq_some_iff.mpr ⟨_, _, hbody, hlast⟩]
      rfl

/-- The keys of the fields are those of the three lists. -/
theorem Fields.exists_get?_merge_iff {body : List (String × Json)}
    {query path : List (String × String)} {key : String} :
    (∃ field, Keyed.get? key (Fields.merge body query path) = some field) ↔
      key ∈ path.map (·.1) ∨ key ∈ query.map (·.1) ∨ key ∈ body.map (·.1) := by
  have hgiven {α : Type} (pairs : List (String × α)) :
      (Keyed.lastGiven key pairs).isSome = true ↔ key ∈ pairs.map (·.1) := by
    rw [Option.isSome_iff_ne_none, Ne, Keyed.lastGiven_eq_none_iff, not_not]
  rw [← Option.isSome_iff_exists, Fields.get?_merge]
  simp only [Option.isSome_or, Option.isSome_map, Bool.or_eq_true, hgiven]

/-- Query pairs and parameters in another order give the same fields, if those of each key keep
their order. -/
theorem Fields.merge_eq_of_reordered (body : List (String × Json))
    {query query' path path' : List (String × String)} (hquery : Keyed.Reordered query query')
    (hpath : Keyed.Reordered path path') :
    Fields.merge body query path = Fields.merge body query' path' := by
  have hquery := hquery.map Field.text
  have hpath := hpath.map Field.text
  rw [Fields.merge_eq_ofPairs, Fields.merge_eq_ofPairs]
  exact Keyed.ofPairs_eq_of_reordered
    ((Keyed.Reordered.append (fun _ => rfl) hquery).append hpath)

/-- The table of the members of a body gives the fields that the members give. -/
theorem Fields.merge_ofPairs (written : List (String × Json))
    (query path : List (String × String)) :
    Fields.merge (Keyed.ofPairs written) query path = Fields.merge written query path := by
  refine (Fields.ascending_merge _ _ _).ext (Fields.ascending_merge _ _ _) fun key => ?_
  rw [Fields.get?_merge, Fields.get?_merge, Keyed.lastGiven_ofPairs]

/-! ## One field more -/

section

variable {key : String} {body body' : List (String × Json)}
  {query query' path path' : List (String × String)} (hbody : key ∉ body.map (·.1))
  (hquery : key ∉ query.map (·.1)) (hpath : key ∉ path.map (·.1))
include hbody hquery hpath

theorem Fields.notMem_given : key ∉ (Keyed.mapValues Field.json body ++
    Keyed.mapValues Field.text query ++ Keyed.mapValues Field.text path).map (·.1) := by
  rw [List.map_append, List.map_append, Keyed.map_fst_mapValues, Keyed.map_fst_mapValues,
    Keyed.map_fst_mapValues, List.mem_append, List.mem_append]
  exact not_or.mpr ⟨not_or.mpr ⟨hbody, hquery⟩, hpath⟩

/-- A member more of the body, under a new key, is a field more. -/
theorem Fields.merge_of_adds_body {value : Json} (h : Keyed.Adds key value body body') :
    Fields.merge body' query path =
      Keyed.insert key (.json value) (Fields.merge body query path) := by
  rw [Fields.merge_eq_ofPairs, Fields.merge_eq_ofPairs]
  exact Keyed.ofPairs_of_adds (((h.mapValues Field.json).append_right _).append_right _)
    (Fields.notMem_given hbody hquery hpath)

/-- A pair more of the query, under a new key, is a field more. -/
theorem Fields.merge_of_adds_query {text : String} (h : Keyed.Adds key text query query') :
    Fields.merge body query' path =
      Keyed.insert key (.text text) (Fields.merge body query path) := by
  rw [Fields.merge_eq_ofPairs, Fields.merge_eq_ofPairs]
  exact Keyed.ofPairs_of_adds (((h.mapValues Field.text).append_left _).append_right _)
    (Fields.notMem_given hbody hquery hpath)

/-- A parameter more of the path, under a new key, is a field more. -/
theorem Fields.merge_of_adds_path {text : String} (h : Keyed.Adds key text path path') :
    Fields.merge body query path' =
      Keyed.insert key (.text text) (Fields.merge body query path) := by
  rw [Fields.merge_eq_ofPairs, Fields.merge_eq_ofPairs]
  exact Keyed.ofPairs_of_adds ((h.mapValues Field.text).append_left _)
    (Fields.notMem_given hbody hquery hpath)

end

/-! ## The fields of a request -/

/-- The pairs of a query that may be absent. -/
def queryPairs (query : Option String) : List (String × String) := (query.map Form.pairs).getD []

/-- The members of a body, as they are written. -/
inductive Written (body : List UInt8) : List (String × Json) → Prop where
  /-- a blank body has none -/
  | blank (hblank : body.all isBlankByte = true) : Written body []
  /-- those of the object that the body spells -/
  | object {written : List (String × Json)} (hobject : Json.writtenMembers? body = some written) :
    Written body written

theorem gather_eq_of_bodyMembers {body : List UInt8} {members : List (String × Json)}
    (h : bodyMembers body = .ok members) (query : Option String) (path : List (String × String)) :
    gather body query path = .ok (Fields.merge members (queryPairs query) path) := by
  rw [gather, h]
  rfl

theorem ascending_gather {body : List UInt8} {query : Option String}
    {path : List (String × String)} {fields : Fields} (h : gather body query path = .ok fields) :
    Keyed.Ascending fields := by
  cases hmembers : bodyMembers body with
  | error e =>
    rw [gather, hmembers] at h
    contradiction
  | ok members =>
    rw [gather_eq_of_bodyMembers hmembers] at h
    obtain rfl := Except.ok.inj h
    exact Fields.ascending_merge _ _ _

theorem bodyMembers_of_blank {body : List UInt8} (h : body.all isBlankByte = true) :
    bodyMembers body = .ok [] := by
  rw [bodyMembers, if_pos h]

/-- The members of a body are the table of those that are written in it. -/
theorem bodyMembers_of_written {body : List UInt8} {written : List (String × Json)}
    (h : Written body written) : bodyMembers body = .ok (Keyed.ofPairs written) := by
  cases h with
  | blank hblank => exact bodyMembers_of_blank hblank
  | object hobject =>
    exact bodyMembers_of_object (Json.parseBytes?_object_iff.mpr ⟨_, hobject, rfl⟩)

theorem gather_of_written {body : List UInt8} {written : List (String × Json)}
    (h : Written body written) (query : Option String) (path : List (String × String)) :
    gather body query path = .ok (Fields.merge written (queryPairs query) path) := by
  rw [gather_eq_of_bodyMembers (bodyMembers_of_written h), Fields.merge_ofPairs]

/-- A body that is neither blank nor an object is refused. -/
theorem bodyMembers_of_other {body : List UInt8} (hblank : body.all isBlankByte = false)
    (hobject : ∀ members, Json.parseBytes? body ≠ some (.object members)) :
    ∃ e, bodyMembers body = .error e := by
  rw [bodyMembers, hblank]
  cases hvalue : Json.parseBytes? body with
  | none => exact ⟨.malformed, rfl⟩
  | some value =>
    cases value with
    | object members => exact absurd hvalue (hobject members)
    | _ => exact ⟨.notAnObject, rfl⟩

/-- Members that a body has are written in it. -/
theorem exists_written {body : List UInt8} {members : List (String × Json)}
    (h : bodyMembers body = .ok members) : ∃ written, Written body written := by
  by_cases hblank : body.all isBlankByte = true
  · exact ⟨[], .blank hblank⟩
  by_cases hobject : ∃ members, Json.parseBytes? body = some (.object members)
  · obtain ⟨members, hmembers⟩ := hobject
    obtain ⟨written, hwritten, -⟩ := Json.parseBytes?_object_iff.mp hmembers
    exact ⟨written, .object hwritten⟩
  · obtain ⟨e, he⟩ := bodyMembers_of_other (Bool.eq_false_iff.mpr hblank)
      fun members hmembers => hobject ⟨members, hmembers⟩
    rw [he] at h
    contradiction

/-- Members and query pairs in another order give the same fields, if those of each key keep their
order. -/
theorem gather_eq_of_reordered {bytes bytes' : List UInt8} {query query' : Option String}
    (hbody : bytes = bytes' ∨ ∃ written written', Json.writtenMembers? bytes = some written ∧
      Json.writtenMembers? bytes' = some written' ∧ Keyed.Reordered written written')
    (hquery : Keyed.Reordered (queryPairs query) (queryPairs query'))
    (path : List (String × String)) : gather bytes query path = gather bytes' query' path := by
  have hmembers : bodyMembers bytes = bodyMembers bytes' := by
    rcases hbody with rfl | ⟨written, written', hwritten, hwritten', hreordered⟩
    · rfl
    · have hsame := Keyed.ofPairs_eq_of_reordered hreordered
      rw [bodyMembers_of_written (.object hwritten), bodyMembers_of_written (.object hwritten'),
        hsame]
  rw [gather, gather, hmembers]
  cases bodyMembers bytes' with
  | error e => rfl
  | ok members =>
    exact congrArg Except.ok (Fields.merge_eq_of_reordered members hquery fun _ => rfl)

/-! ## Main result -/

/-- **What a request has under its keys.** Where a request has fields, its body is blank or spells an
object. A key has a field exactly if a parameter of the path, a pair of the query or a member of the
body has it, and the field is the one that decides: the text of the path, else the last text of the
query, else the last value of the body. A blank body is as good as none and an object is always
read, but any other body is refused, whatever the query and the path. Neither the order of the
parameters of the path nor that of query pairs with different keys plays a part. -/
theorem gather_decides (body : List UInt8) (query : Option String) (path : List (String × String))
    (hpath : (path.map (·.1)).Nodup) :
    (∀ fields, gather body query path = .ok fields → ∃ written, Written body written ∧ ∀ key,
      ((∃ field, Keyed.get? key fields = some field) ↔ key ∈ path.map (·.1) ∨
        key ∈ (queryPairs query).map (·.1) ∨ key ∈ written.map (·.1)) ∧
      ∀ field, Keyed.get? key fields = some field ↔
        Decides written (queryPairs query) path key field) ∧
    (body.all isBlankByte = true → gather body query path = gather [] query path) ∧
    ((body = [] ∨ ∃ members, Json.parseBytes? body = some (.object members)) →
      ∃ fields, gather body query path = .ok fields) ∧
    (body.all isBlankByte = false →
      (∀ members, Json.parseBytes? body ≠ some (.object members)) →
      ∃ e, ∀ query' path', gather body query' path' = .error e) ∧
    (∀ query' path', Keyed.Reordered (queryPairs query) (queryPairs query') → path.Perm path' →
      gather body query path = gather body query' path') := by
  have hnone : bodyMembers [] = .ok [] := bodyMembers_of_blank rfl
  refine ⟨?_, ?_, ?_, ?_, ?_⟩
  · intro fields hfields
    cases hmembers : bodyMembers body with
    | error e =>
      rw [gather, hmembers] at hfields
      contradiction
    | ok members =>
      obtain ⟨written, hwritten⟩ := exists_written hmembers
      rw [gather_of_written hwritten] at hfields
      obtain rfl := Except.ok.inj hfields
      exact ⟨written, hwritten, fun key =>
        ⟨Fields.exists_get?_merge_iff, fun field => Fields.get?_merge_iff hpath⟩⟩
  · intro hblank
    rw [gather_eq_of_bodyMembers (bodyMembers_of_blank hblank), gather_eq_of_bodyMembers hnone]
  · rintro (rfl | ⟨members, hobject⟩)
    · exact ⟨_, gather_eq_of_bodyMembers hnone query path⟩
    · exact ⟨_, gather_eq_of_bodyMembers (bodyMembers_of_object hobject) query path⟩
  · intro hblank hobject
    obtain ⟨e, he⟩ := bodyMembers_of_other hblank hobject
    refine ⟨e, fun query' path' => ?_⟩
    rw [gather, he]
    rfl
  · intro query' path' hquery hperm
    have hpath' := Keyed.Reordered.of_perm hperm hpath
    rw [gather, gather]
    cases bodyMembers body with
    | error e => rfl
    | ok members => exact congrArg Except.ok (Fields.merge_eq_of_reordered members hquery hpath')

/-- A record that is named in all three sources, with a name that the body gives twice and a limit
that the query gives twice. -/
theorem gather_decides_overlap :
    let body := Utf8.encode
      "\x7b\"id\": 1, \"name\": \"a\", \"limit\": 1, \"name\": \"b\"\x7d"
    let written := [("id", .int 1), ("name", .string "a"), ("limit", .int 1), ("name", .string "b")]
    let query := some "id=from-query&limit=5&page=2&limit=6"
    let path := [("id", "from-path"), ("shelf", "7")]
    (path.map (·.1)).Nodup ∧ Written body written ∧ ∃ fields, gather body query path = .ok fields ∧
      Keyed.get? "id" fields = some (.text "from-path") ∧
      Keyed.get? "limit" fields = some (.text "6") ∧
      Keyed.get? "name" fields = some (.json (.string "b")) ∧
      gather body (some "page=2&id=from-query&limit=5&limit=6")
        [("shelf", "7"), ("id", "from-path")] = .ok fields := by
  intro body written query path
  have hpath : (path.map (·.1)).Nodup := by decide
  have hbody : Json.writtenMembers? body = some written := by decide +kernel
  have hquery : queryPairs query = [("id", "from-query"), ("limit", "5"), ("page", "2"),
      ("limit", "6")] := by decide +kernel
  have hquery' : queryPairs (some "page=2&id=from-query&limit=5&limit=6") =
      [("page", "2"), ("id", "from-query"), ("limit", "5"), ("limit", "6")] := by decide +kernel
  obtain ⟨hfields, -, hread, -, hreorder⟩ := gather_decides body query path hpath
  obtain ⟨fields, hgather⟩ := hread (.inr ⟨_, Json.parseBytes?_object_iff.mpr ⟨_, hbody, rfl⟩⟩)
  obtain ⟨written', hwritten, hkeys⟩ := hfields fields hgather
  obtain rfl : written' = written := by
    cases hwritten with
    | blank hblank =>
      rw [not_blank_of_object (Json.parseBytes?_object_iff.mpr ⟨_, hbody, rfl⟩)] at hblank
      contradiction
    | object hobject => exact Option.some.inj (hobject.symm.trans hbody)
  have hid : Decides written (queryPairs query) path "id" (.text "from-path") :=
    .path List.mem_cons_self
  have hlimit : Decides written (queryPairs query) path "limit" (.text "6") := by
    rw [hquery]
    exact @Decides.query _ _ _ _ "6" [("id", "from-query"), ("limit", "5"), ("page", "2")] []
      (by decide) rfl (by decide)
  have hname : Decides written (queryPairs query) path "name" (.json (.string "b")) := by
    rw [hquery]
    exact @Decides.body _ _ _ _ _ [("id", .int 1), ("name", .string "a"), ("limit", .int 1)] []
      (by decide) (by decide) rfl (by decide)
  have hreordered : Keyed.Reordered (queryPairs query)
      (queryPairs (some "page=2&id=from-query&limit=5&limit=6")) := by
    rw [hquery, hquery']
    intro key
    by_cases hpage : "page" = key
    · subst hpage
      rfl
    · simp [List.filter_cons, hpage]
  refine ⟨hpath, .object hbody, fields, hgather, ((hkeys "id").2 _).mpr hid,
    ((hkeys "limit").2 _).mpr hlimit, ((hkeys "name").2 _).mpr hname, ?_⟩
  rw [← hgather]
  exact (hreorder _ _ hreordered (List.Perm.swap ..)).symm

end Rowgate.Input
