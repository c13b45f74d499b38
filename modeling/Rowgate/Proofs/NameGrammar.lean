import Mathlib.Computability.Language
import Rowgate.Proofs.Characters
import Rowgate.Proofs.Recovery
/-
The grammar of names, and lists of names read back from their text.

A name is accepted if it is a word of `[A-Za-z_][A-Za-z0-9_]*` with at most sixty-three bytes. The
grammar is stated here as a language, apart from the tests that the check makes, and the four reasons
to turn a name down as a relation in which each reason presupposes that none before it applies
(`Identifier.Rejects`). The bytes are counted before any character is looked at, so a long name of
other letters is too long and not ill-spelt.

The columns of a list stand in quotes with a comma and a space between each two. Since no name holds
a comma, the text falls apart at the separators into what it was put together from. The split is that
of the library, which knows nothing of names.
-/
set_option autoImplicit false

namespace Rowgate

/-! ## Texts split at a separator -/

section Split

open String.Slice.Pattern

variable {separator : String} {mark : Char} {behind : List Char}

/-- No separator starts inside a word that does not hold its first character. -/
theorem not_matchesAt_word {s : String.Slice} {before word rest : String} {start stop p : s.Pos}
    (hseparator : separator.toList = mark :: behind) (hword : mark ∉ word.toList)
    (hstart : start.Splits before (word ++ rest)) (hstop : stop.Splits (before ++ word) rest)
    (hle : start ≤ p) (hlt : p < stop) : ¬Model.MatchesAt separator p := by
  intro hmatch
  obtain ⟨front, back, hp⟩ := Model.ForwardStringSearcher.matchesAt_iff_splits.mp hmatch
  -- the word is what stands between its start and the match, and a part that is not empty
  obtain ⟨left, rfl, -⟩ := (hstart.le_iff_exists_eq_append hp).mp hle
  obtain ⟨right, hne, hwhole, hmatched⟩ := (hp.lt_iff_exists_eq_append hstop).mp hlt
  obtain ⟨c, cs, hright⟩ :=
    List.exists_cons_of_ne_nil fun hnil => hne (String.toList_eq_nil_iff.mp hnil)
  have hmark : mark = c := by
    have hchars := congrArg String.toList hmatched
    rw [String.toList_append, String.toList_append, hseparator, hright] at hchars
    exact (List.cons.inj hchars).1
  have hsplit : word.toList = left.toList ++ right.toList := by
    simpa using congrArg String.toList hwhole
  apply hword
  rw [hsplit, hright, hmark]
  exact List.mem_append_right _ List.mem_cons_self

/-- What stands between two positions. -/
theorem copy_subslice {s : String.Slice} {before word rest : String} {start stop : s.Pos}
    (hstart : start.Splits before (word ++ rest)) (hstop : stop.Splits (before ++ word) rest)
    (hle : start ≤ stop) : (s.subslice start stop hle).toSlice.copy = word := by
  rw [String.Slice.toSlice_subslice]
  obtain ⟨_, hcopy⟩ := String.Slice.copy_slice_eq_iff_splits.mpr ⟨before, rest, hstart, hstop⟩
  exact hcopy

/-- Joined words are split from any position in front of them. -/
theorem modelSplit_intercalate [Model.StrictPatternModel separator]
    (hseparator : separator.toList = mark :: behind) {words : List String} (hne : words ≠ [])
    (h : ∀ word ∈ words, mark ∉ word.toList) {s : String.Slice} (start : s.Pos) {before : String}
    (hstart : start.Splits before (separator.intercalate words)) :
    (Model.split separator start start start.le_refl).map (·.toSlice.copy) = words := by
  induction words generalizing start before with
  | nil => exact absurd rfl hne
  | cons word words ih =>
    obtain ⟨hword, hwords⟩ := List.forall_mem_cons.mp h
    -- the search goes over the word, and cuts it off where it ends
    have hpass : ∀ {rest : String} {stop : s.Pos}, start.Splits before (word ++ rest) →
        stop.Splits (before ++ word) rest → ∃ hle : start ≤ stop,
          Model.split separator start start start.le_refl = Model.split separator start stop hle ∧
          (s.subslice start stop hle).toSlice.copy = word := by
      intro rest stop hfrom hto
      have hle : start ≤ stop := (hfrom.le_iff_exists_eq_append hto).mpr ⟨word, rfl, rfl⟩
      exact ⟨hle, Model.split_eq_of_not_matchesAt stop hle fun p hp hlt =>
        not_matchesAt_word hseparator hword hfrom hto hp hlt, copy_subslice hfrom hto hle⟩
    cases words with
    | nil =>
      rw [String.intercalate_singleton, ← String.append_empty (s := word)] at hstart
      have hend : s.endPos.Splits (before ++ word) "" := by
        have hwhole := hstart.eq_append
        rw [String.append_empty] at hwhole
        exact hwhole ▸ s.splits_endPos
      obtain ⟨hle, hsplit, hcopy⟩ := hpass hstart hend
      rw [hsplit, Model.split_endPos, List.map_singleton, hcopy]
    | cons next words =>
      rw [String.intercalate_cons_cons, String.append_assoc] at hstart
      -- the separator stands behind the word, and the other words behind the separator
      have hwhole := hstart.eq_append
      rw [← String.append_assoc] at hwhole
      have hstop := String.Slice.Pos.splits_ofEqAppend hwhole
      rw [← String.append_assoc] at hwhole
      have hnext := String.Slice.Pos.splits_ofEqAppend hwhole
      obtain ⟨hle, hsplit, hcopy⟩ := hpass hstart hstop
      have hmatch := Model.ForwardStringSearcher.isLongestMatchAt_iff_splits.mpr
        ⟨before ++ word, _, hstop, hnext⟩
      rw [hsplit, Model.split_eq_of_isLongestMatchAt hmatch, List.map_cons, hcopy,
        ih (by simp) hwords _ hnext]

/-- **Joined words are split at the separators** into the words, if none of them holds the first
character of the separator. -/
theorem split_intercalate (hseparator : separator.toList = mark :: behind) {words : List String}
    (hne : words ≠ []) (h : ∀ word ∈ words, mark ∉ word.toList) :
    ((separator.intercalate words).split separator).toList.map (·.copy) = words := by
  have hnonempty : separator ≠ "" := by
    rintro rfl
    cases hseparator
  have := Model.ForwardStringSearcher.strictPatternModel hnonempty
  have := Model.ForwardStringSearcher.lawfulToForwardSearcherModel hnonempty
  have hstart := (separator.intercalate words).toSlice.splits_startPos
  rw [String.copy_toSlice] at hstart
  rw [String.split_eq_split_toSlice, String.Slice.split, Std.Iter.toList_map,
    toList_splitToSubslice_eq_modelSplit, List.map_map]
  exact modelSplit_intercalate hseparator hne h _ hstart

end Split

namespace Sql

/-! ## The grammar -/

/-- The words of one character, which is one from the first to the last. -/
def between (first last : Char) : Language Char := {w | ∃ c, w = [c] ∧ first ≤ c ∧ c ≤ last}

/-- What a name starts with: `[A-Za-z_]`. -/
def nameStarts : Language Char := between 'A' 'Z' + between 'a' 'z' + between '_' '_'

/-- What a name goes on with: `[A-Za-z0-9_]`. -/
def nameChars : Language Char :=
  between 'A' 'Z' + between 'a' 'z' + between '0' '9' + between '_' '_'

/-- The words that names are: `[A-Za-z_][A-Za-z0-9_]*`. -/
def nameGrammar : Language Char := nameStarts * KStar.kstar nameChars

theorem mem_between {first last : Char} {w : List Char} :
    w ∈ between first last ↔ ∃ c, w = [c] ∧ first ≤ c ∧ c ≤ last := Iff.rfl

/-- An underscore is all there is from an underscore to an underscore. -/
theorem eq_underscore_iff {c : Char} : c = '_' ↔ '_' ≤ c ∧ c ≤ '_' :=
  ⟨fun h => ⟨h ▸ le_rfl, h ▸ le_rfl⟩, fun h => le_antisymm h.2 h.1⟩

theorem mem_nameStarts {w : List Char} :
    w ∈ nameStarts ↔ ∃ c, w = [c] ∧ isNameStart c = true := by
  have hranges : ∀ c : Char, isNameStart c = true ↔
      ('A' ≤ c ∧ c ≤ 'Z') ∨ ('a' ≤ c ∧ c ≤ 'z') ∨ '_' ≤ c ∧ c ≤ '_' := by
    intro c
    have htests : isNameStart c =
        (decide ('A' ≤ c ∧ c ≤ 'Z') || (decide ('a' ≤ c) && decide (c ≤ 'z')) || c == '_') := rfl
    simp only [htests, Bool.or_eq_true, Bool.and_eq_true, decide_eq_true_eq, beq_iff_eq, or_assoc,
      eq_underscore_iff]
  simp only [nameStarts, Language.mem_add, mem_between, hranges, ← exists_or, ← and_or_left,
    or_assoc]

theorem mem_nameChars {w : List Char} :
    w ∈ nameChars ↔ ∃ c, w = [c] ∧ isNameChar c = true := by
  simp only [nameChars, Language.mem_add, mem_between, isNameChar_iff, ← exists_or, ← and_or_left,
    or_assoc, eq_underscore_iff]

/-- Repeated characters of a class are the words of such characters. -/
theorem mem_kstar_nameChars {w : List Char} :
    w ∈ KStar.kstar nameChars ↔ ∀ c ∈ w, isNameChar c = true := by
  rw [Language.mem_kstar]
  constructor
  · rintro ⟨parts, rfl, hparts⟩ c hc
    obtain ⟨part, hpart, hc⟩ := List.mem_flatten.mp hc
    obtain ⟨d, rfl, hd⟩ := mem_nameChars.mp (hparts part hpart)
    rw [List.mem_singleton.mp hc]
    exact hd
  · intro h
    refine ⟨w.map fun c => [c], ?_, ?_⟩
    · rw [← List.flatMap_def, List.flatMap_singleton']
    · intro part hpart
      obtain ⟨c, hc, rfl⟩ := List.mem_map.mp hpart
      exact mem_nameChars.mpr ⟨c, rfl, h c hc⟩

/-- The words of the grammar, by the classes of characters. What starts a word is a character that
it may also go on with. -/
theorem mem_nameGrammar {w : List Char} :
    w ∈ nameGrammar ↔
      ∃ c cs, w = c :: cs ∧ isNameStart c = true ∧ (c :: cs).all isNameChar = true := by
  have hfirst : ∀ c, isNameStart c = true → isNameChar c = true := by
    intro c hstart
    simp only [isNameStart, Bool.or_eq_true] at hstart
    simp only [isNameChar, Char.isAlphanum, Bool.or_eq_true]
    exact hstart.imp_left .inl
  rw [nameGrammar, Language.mem_mul]
  constructor
  · rintro ⟨front, hfront, back, hback, rfl⟩
    obtain ⟨c, rfl, hc⟩ := mem_nameStarts.mp hfront
    refine ⟨c, back, rfl, hc, List.all_eq_true.mpr (List.forall_mem_cons.mpr ⟨hfirst c hc, ?_⟩)⟩
    exact mem_kstar_nameChars.mp hback
  · rintro ⟨c, cs, rfl, hc, hall⟩
    obtain ⟨_, hcs⟩ := List.forall_mem_cons.mp (List.all_eq_true.mp hall)
    exact ⟨[c], mem_nameStarts.mpr ⟨c, rfl, hc⟩, cs, mem_kstar_nameChars.mpr hcs, rfl⟩

theorem cons_mem_nameGrammar {c : Char} {cs : List Char} :
    c :: cs ∈ nameGrammar ↔ isNameStart c = true ∧ (c :: cs).all isNameChar = true := by
  rw [mem_nameGrammar]
  constructor
  · rintro ⟨d, ds, hword, hstart, hall⟩
    obtain ⟨rfl, rfl⟩ := List.cons.inj hword
    exact ⟨hstart, hall⟩
  · rintro ⟨hstart, hall⟩
    exact ⟨c, cs, rfl, hstart, hall⟩

/-! ## Names -/

namespace Identifier

/-- What is wrong with a name. Each reason presupposes that none before it applies. -/
inductive Rejects (name : String) : NameError → Prop where
  | empty (h : name = "") : Rejects name .empty
  | tooLong (hne : name ≠ "") (h : 63 < name.utf8ByteSize) :
    Rejects name (.tooLong name name.utf8ByteSize)
  | badStart {c : Char} (hfirst : name.toList.head? = some c) (hshort : name.utf8ByteSize ≤ 63)
    (h : [c] ∉ nameStarts) : Rejects name (.badStart name)
  | badCharacter {c : Char} (hfirst : name.toList.head? = some c)
    (hshort : name.utf8ByteSize ≤ 63) (hstart : [c] ∈ nameStarts)
    (h : name.toList ∉ nameGrammar) : Rejects name (.badCharacter name)

theorem singleton_mem_nameStarts {c : Char} : [c] ∈ nameStarts ↔ isNameStart c = true := by
  rw [mem_nameStarts]
  constructor
  · rintro ⟨d, hd, h⟩
    rw [List.singleton_inj.mp hd]
    exact h
  · intro h
    exact ⟨c, rfl, h⟩

theorem ne_empty_of_head? {name : String} {c : Char} (h : name.toList.head? = some c) :
    name ≠ "" := by
  rintro rfl
  cases h

/-- Names are accepted if they are words of the grammar that are short enough. -/
theorem rejection?_eq_none_iff_grammar {name : String} :
    rejection? name = none ↔ name.toList ∈ nameGrammar ∧ name.utf8ByteSize ≤ 63 := by
  rw [rejection?_eq_none_iff, mem_nameGrammar]
  constructor
  · rintro ⟨c, cs, hname, hstart, hall, hshort⟩
    exact ⟨⟨c, cs, hname, hstart, hall⟩, hshort⟩
  · rintro ⟨⟨c, cs, hname, hstart, hall⟩, hshort⟩
    exact ⟨c, cs, hname, hstart, hall, hshort⟩

/-- A name is rejected for the first of the reasons that apply. -/
theorem rejection?_eq_some_iff {name : String} {e : NameError} :
    rejection? name = some e ↔ Rejects name e := by
  constructor
  · intro h
    unfold rejection? at h
    split at h
    · next hname =>
      cases h
      exact .empty (String.toList_eq_nil_iff.mp hname)
    · next c cs hname =>
      have hfirst : name.toList.head? = some c := by rw [hname, List.head?_cons]
      -- the branches stand in the order of the reasons
      split_ifs at h with hlong hstart hall
      · cases h
        exact .tooLong (ne_empty_of_head? hfirst) hlong
      · cases h
        refine .badStart hfirst (Nat.not_lt.mp hlong) fun hmem => ?_
        rw [singleton_mem_nameStarts.mp hmem] at hstart
        cases hstart
      · cases h
        refine .badCharacter hfirst (Nat.not_lt.mp hlong) ?_ fun hword => ?_
        · exact singleton_mem_nameStarts.mpr (by simpa using hstart)
        · rw [hname] at hword
          rw [(cons_mem_nameGrammar.mp hword).2] at hall
          cases hall
  · intro h
    -- each reason fails the tests in front of its own, and passes that
    cases h with
    | empty h =>
      rw [h]
      rfl
    | tooLong hne h =>
      obtain ⟨c, cs, hname⟩ :=
        List.exists_cons_of_ne_nil fun hnil => hne (String.toList_eq_nil_iff.mp hnil)
      have hlong : maxNameLength < name.utf8ByteSize := h
      simp only [rejection?, hname, if_pos hlong]
    | badStart hfirst hshort h =>
      obtain ⟨cs, hname⟩ := List.head?_eq_some_iff.mp hfirst
      have hlong : ¬maxNameLength < name.utf8ByteSize := Nat.not_lt.mpr hshort
      have hstart := Bool.eq_false_iff.mpr (mt singleton_mem_nameStarts.mpr h)
      simp only [rejection?, hname, if_neg hlong, hstart]
      rfl
    | badCharacter hfirst hshort hstart h =>
      obtain ⟨cs, hname⟩ := List.head?_eq_some_iff.mp hfirst
      have hlong : ¬maxNameLength < name.utf8ByteSize := Nat.not_lt.mpr hshort
      have hstart := singleton_mem_nameStarts.mp hstart
      rw [hname] at h
      have hall := Bool.eq_false_iff.mpr fun hall => h (cons_mem_nameGrammar.mpr ⟨hstart, hall⟩)
      simp only [rejection?, hname, if_neg hlong, hstart, hall]
      rfl

end Identifier

/-! ## Lists of names -/

/-- A list without a star, and with a name, is checked name by name. -/
theorem Columns.ofNames_eq {names : List String} (hne : names ≠ []) (hstar : "*" ∉ names) :
    ofNames names = (names.mapM Identifier.ofName).map Columns.named := by
  have hsome : ¬(names.isEmpty || names.contains "*") = true := by simp [hne, hstar]
  rw [ofNames, if_neg hsome]
  cases names.mapM Identifier.ofName <;> rfl

/-- A list of names is split at its commas into the names in quotes. -/
theorem Columns.split_text {columns : List Identifier} (hne : columns ≠ []) :
    ((Columns.named columns).text.split ", ").toList.map (·.copy) =
      columns.map Identifier.quoted := by
  refine split_intercalate rfl (List.map_eq_nil_iff.not.mpr hne) ?_
  exact List.forall_mem_map.mpr fun i _ => i.comma_notMem_quoted

/-- What is wrong with a list of names: the first name that is rejected, of names behind which none
is looked at. -/
def FirstRejected (names : List String) (e : NameError) : Prop :=
  ∃ earlier name later, names = earlier ++ name :: later ∧
    (∀ name' ∈ earlier, ∃ i, Identifier.ofName name' = .ok i) ∧ Identifier.ofName name = .error e

/-- **Names are those of the grammar.** A name is accepted exactly if it is a word of the grammar
with at most sixty-three bytes, as itself, and otherwise the first reason against it is reported.
Columns without a star among them are accepted exactly if each of their names is, the first rejected
one decides the error, and the text of accepted ones falls apart at its separators into their names
in quotes. -/
theorem names_by_grammar :
    (∀ name : String,
      ((∃ i, Identifier.ofName name = .ok i) ↔
        name.toList ∈ nameGrammar ∧ name.utf8ByteSize ≤ 63) ∧
      (∀ i, Identifier.ofName name = .ok i → i.name = name) ∧
      ∀ e, Identifier.ofName name = .error e ↔ Identifier.Rejects name e) ∧
    ∀ names : List String, names ≠ [] → "*" ∉ names →
      ((∃ columns, Columns.ofNames names = .ok columns) ↔
        ∀ name ∈ names, ∃ i, Identifier.ofName name = .ok i) ∧
      (∀ e, Columns.ofNames names = .error e ↔ FirstRejected names e) ∧
      ∀ columns, Columns.ofNames names = .ok columns →
        (columns.text.split ", ").toList.map (·.copy) =
          names.map fun name => "\"" ++ name ++ "\"" := by
  constructor
  · intro name
    refine ⟨?_, fun i => Identifier.ofName_eq_ok.mp, fun e => ?_⟩
    · rw [← Identifier.rejection?_eq_none_iff_grammar]
      constructor
      · rintro ⟨i, hi⟩
        exact Identifier.ofName_eq_ok.mp hi ▸ i.accepted
      · intro h
        exact ⟨⟨name, h⟩, Identifier.ofName_eq_ok.mpr rfl⟩
    · rw [Identifier.ofName_eq_error, Identifier.rejection?_eq_some_iff]
  · intro names hne hstar
    -- without a star, checking the list is checking its names one after the other
    rw [Columns.ofNames_eq hne hstar]
    refine ⟨?_, fun e => map_eq_error.trans mapM_eq_error, fun columns h => ?_⟩
    · rw [← exists_mapM_eq_ok]
      simp only [map_eq_ok]
      constructor
      · rintro ⟨_, identifiers, h, _⟩
        exact ⟨identifiers, h⟩
      · rintro ⟨identifiers, h⟩
        exact ⟨_, identifiers, h, rfl⟩
    · obtain ⟨identifiers, hall, rfl⟩ := map_eq_ok.mp h
      have hnames : identifiers.map (·.name) = names :=
        mapM_recovers (fun _ _ => Identifier.ofName_eq_ok.mp) hall
      have hsome : identifiers ≠ [] := by
        rintro rfl
        exact hne hnames.symm
      rw [Columns.split_text hsome, ← hnames, List.map_map]
      rfl

/-- Two names that are accepted, and three of which the second is reported although the third is
rejected as well. -/
theorem names_by_grammar_columns :
    (∃ columns, Columns.ofNames ["_id", "name"] = .ok columns ∧
      (columns.text.split ", ").toList.map (·.copy) = ["\"_id\"", "\"name\""]) ∧
    Columns.ofNames ["_id", "1st", ""] = .error (.badStart "1st") := by
  obtain ⟨_, hcolumns⟩ := names_by_grammar
  have haccepted : ∀ name ∈ ["_id", "name"], ∃ i, Identifier.ofName name = .ok i := by
    intro name hname
    have hnone : Identifier.rejection? name = none := by
      rcases List.mem_pair.mp hname with rfl | rfl <;> decide
    exact ⟨⟨name, hnone⟩, Identifier.ofName_eq_ok.mpr rfl⟩
  constructor
  · obtain ⟨hok, _, hsplit⟩ := hcolumns ["_id", "name"] (by simp) (by decide)
    obtain ⟨columns, h⟩ := hok.mpr haccepted
    exact ⟨columns, h, hsplit columns h⟩
  · obtain ⟨_, herror, _⟩ := hcolumns ["_id", "1st", ""] (by simp) (by decide)
    refine (herror _).mpr ⟨["_id"], "1st", [""], rfl, ?_, ?_⟩
    · exact List.forall_mem_singleton.mpr (haccepted "_id" (by decide))
    · exact Identifier.ofName_eq_error.mpr (by decide)

/-- Bytes are counted first: thirty-two letters of two bytes are too long, whatever letters. -/
example : Identifier.rejection? (String.ofList (List.replicate 32 'é')) =
    some (.tooLong (String.ofList (List.replicate 32 'é')) 64) := by
  decide

end Sql

end Rowgate
