import Rowgate.Proofs.Checked
import Rowgate.Proofs.Layout
import Rowgate.Proofs.Letters
/-
The text of a selection falls apart into its clauses.

A clause stands behind a space and starts with a keyword, and a reader that knows no more than the
keywords splits a text at these places. The split is right about every selection as long as no type
has a space in its name: wherever else a space stands, in a list, in a condition or in front of a
number, the text goes on in a way that parts from every keyword before either of the two ends
(`Apart`). That does not depend on what follows, so it holds of a text that is put together from
parts if it holds of the parts.

Names may be keywords, and stand in quotes. Types stand without quotes, and of the type
`x LIMIT 1` the reader would take a part for a clause.
-/
set_option autoImplicit false

namespace Rowgate.Sql

/-! ## Splitting a text -/

/-- The clauses behind the columns of a selection. -/
inductive Clause where
  | table
  | conditions
  | order
  | limit
  | offset
deriving DecidableEq

namespace Clause

/-- What a clause starts with. -/
def opening : Clause → List Char
  | .table => "FROM ".toList
  | .conditions => "WHERE ".toList
  | .order => "ORDER BY ".toList
  | .limit => "LIMIT ".toList
  | .offset => "OFFSET ".toList

/-- The clauses in the order in which they stand. -/
def all : List Clause := [.table, .conditions, .order, .limit, .offset]

/-- Whether a text starts as a clause does. -/
def opens (cs : List Char) : Bool := all.any fun clause => clause.opening.isPrefixOf cs

/-- The text up to the first space in front of a clause, and the clauses behind it. -/
def split : List Char → List Char × List (List Char)
  | [] => ([], [])
  | c :: cs =>
    let (front, clauses) := split cs
    if c = ' ' ∧ opens cs = true then ([], front :: clauses) else (c :: front, clauses)

/-- The text of a clause in a text that holds it. -/
def read? (clause : Clause) (cs : List Char) : Option (List Char) :=
  (split cs).2.find? (clause.opening.isPrefixOf ·)

theorem mem_all (clause : Clause) : clause ∈ all := by cases clause <;> decide

theorem opens_iff {cs : List Char} : opens cs = true ↔ ∃ clause : Clause, clause.opening <+: cs := by
  simp only [opens, List.any_eq_true, List.isPrefixOf_iff_prefix]
  exact ⟨fun ⟨clause, _, h⟩ => ⟨clause, h⟩, fun ⟨clause, h⟩ => ⟨clause, clause.mem_all, h⟩⟩

/-- A text starts as one clause at most. -/
theorem eq_of_opening {a b : Clause} {cs : List Char} (ha : a.opening <+: cs)
    (hb : b.opening <+: cs) : a = b := by
  have hdistinct : ∀ a b : Clause, a.opening <+: b.opening → a = b := by
    intro a b
    cases a <;> cases b <;> decide
  rcases List.prefix_or_prefix_of_prefix ha hb with h | h
  · exact hdistinct a b h
  · exact (hdistinct b a h).symm

/-- Of the clauses that are there, the one that starts as a clause does is that clause. -/
theorem find?_filterMap {text : Clause → Option (List Char)}
    (htext : ∀ clause, ∀ cs ∈ text clause, clause.opening <+: cs) (clause : Clause) :
    (all.filterMap text).find? (clause.opening.isPrefixOf ·) = text clause := by
  cases hfound : (all.filterMap text).find? (clause.opening.isPrefixOf ·) with
  | some cs =>
    obtain ⟨other, _, hother⟩ := List.mem_filterMap.mp (List.mem_of_find?_eq_some hfound)
    have hopening := List.isPrefixOf_iff_prefix.mp (List.find?_some hfound)
    rw [← hother, eq_of_opening (htext other cs hother) hopening]
  | none =>
    cases hclause : text clause with
    | none => rfl
    | some cs =>
      have hmem : cs ∈ all.filterMap text :=
        List.mem_filterMap.mpr ⟨clause, clause.mem_all, hclause⟩
      have hnot := List.find?_eq_none.mp hfound cs hmem
      exact absurd (List.isPrefixOf_iff_prefix.mpr (htext clause cs hclause)) hnot

end Clause

/-! ## Texts that are not split -/

/-- A text that parts from everything that a clause can start with before either ends. -/
def Apart (cs : List Char) : Prop :=
  ∀ clause ∈ Clause.all, ¬clause.opening <+: cs ∧ ¬cs <+: clause.opening

instance : DecidablePred Apart := fun cs =>
  inferInstanceAs (Decidable (∀ clause ∈ Clause.all,
    ¬clause.opening <+: cs ∧ ¬cs <+: clause.opening))

/-- Behind each space the text is apart from clauses. -/
def Clear : List Char → Prop
  | [] => True
  | c :: cs => (c = ' ' → Apart cs) ∧ Clear cs

instance decidableClear : DecidablePred Clear
  | [] => .isTrue trivial
  | c :: cs =>
    have := decidableClear cs
    inferInstanceAs (Decidable ((c = ' ' → Apart cs) ∧ Clear cs))

/-- Behind each space but the last character the text is apart from clauses. -/
def Leads : List Char → Prop
  | [] => True
  | c :: cs => (c = ' ' → cs = [] ∨ Apart cs) ∧ Leads cs

instance decidableLeads : DecidablePred Leads
  | [] => .isTrue trivial
  | c :: cs =>
    have := decidableLeads cs
    inferInstanceAs (Decidable ((c = ' ' → cs = [] ∨ Apart cs) ∧ Leads cs))

/-- A text that may stand behind a space. -/
structure Fragment (cs : List Char) : Prop where
  clear : Clear cs
  apart : Apart cs

section Clear

variable {a b cs rest : List Char}

theorem Apart.append (h : Apart cs) (rest : List Char) : Apart (cs ++ rest) := by
  refine fun clause hmem => ⟨fun hstart => ?_, fun hstart => ?_⟩
  · rcases List.prefix_or_prefix_of_prefix hstart (List.prefix_append cs rest) with hle | hle
    · exact (h clause hmem).1 hle
    · exact (h clause hmem).2 hle
  · exact (h clause hmem).2 ((List.prefix_append cs rest).trans hstart)

/-- No clause starts with another letter than these. -/
theorem apart_cons {c : Char} (h : c ∉ ['F', 'W', 'O', 'L']) (cs : List Char) :
    Apart (c :: cs) := by
  intro clause _
  obtain ⟨d, ds, hopening, hd⟩ : ∃ d ds, clause.opening = d :: ds ∧ d ∈ ['F', 'W', 'O', 'L'] := by
    cases clause <;> exact ⟨_, _, rfl, by decide⟩
  have hne : c ≠ d := by
    rintro rfl
    exact h hd
  rw [hopening, List.cons_prefix_cons, List.cons_prefix_cons]
  exact ⟨fun hstart => hne hstart.1.symm, fun hstart => hne hstart.1⟩

theorem Apart.not_opens (h : Apart cs) : Clause.opens cs = false := by
  refine Bool.eq_false_iff.mpr fun hopens => ?_
  obtain ⟨clause, hstart⟩ := Clause.opens_iff.mp hopens
  exact (h clause clause.mem_all).1 hstart

theorem Clear.append (ha : Clear a) (hb : Clear b) : Clear (a ++ b) := by
  induction a with
  | nil => exact hb
  | cons c cs ih => exact ⟨fun hc => (ha.1 hc).append b, ih ha.2⟩

theorem clear_of_notMem (h : ' ' ∉ cs) : Clear cs := by
  induction cs with
  | nil => trivial
  | cons c cs ih =>
    refine ⟨fun hc => ?_, ih fun hmem => h (List.mem_cons_of_mem _ hmem)⟩
    exact absurd (hc ▸ List.mem_cons_self) h

theorem Leads.append (ha : Leads a) (hb : Fragment b) : Clear (a ++ b) := by
  induction a with
  | nil => exact hb.clear
  | cons c cs ih =>
    refine ⟨fun hc => ?_, ih ha.2⟩
    rcases ha.1 hc with rfl | hcs
    · exact hb.apart
    · exact hcs.append b

theorem Fragment.append (ha : Fragment a) (hb : Clear b) : Fragment (a ++ b) :=
  ⟨ha.clear.append hb, ha.apart.append b⟩

/-- Fragments with a separator between each two. -/
theorem fragment_intercalate {separator : List Char} (hseparator : Leads separator)
    {parts : List (List Char)} (h : ∀ part ∈ parts, Fragment part) (hne : parts ≠ []) :
    Fragment (separator.intercalate parts) := by
  induction parts with
  | nil => exact absurd rfl hne
  | cons part parts ih =>
    obtain ⟨hpart, hparts⟩ := List.forall_mem_cons.mp h
    cases parts with
    | nil =>
      rw [List.intercalate_singleton]
      exact hpart
    | cons next parts =>
      rw [List.intercalate_cons_cons, List.append_assoc]
      exact hpart.append (hseparator.append (ih hparts (by simp)))

end Clear

namespace Clause

/-- The split goes over text without clauses. -/
theorem split_append {cs : List Char} (h : Clear cs) (rest : List Char) :
    split (cs ++ rest) = (cs ++ (split rest).1, (split rest).2) := by
  induction cs with
  | nil => rfl
  | cons c cs ih =>
    have hnot : ¬(c = ' ' ∧ opens (cs ++ rest) = true) := by
      rintro ⟨hc, hopens⟩
      rw [((h.1 hc).append rest).not_opens] at hopens
      cases hopens
    rw [List.cons_append, split, ih h.2]
    exact if_neg hnot

/-- **A text is split into its clauses.** -/
theorem split_clauses {head : List Char} (hhead : Clear head) {parts : List (List Char)}
    (hparts : ∀ part ∈ parts, Clear part ∧ opens part = true) :
    split (head ++ parts.flatMap (' ' :: ·)) = (head, parts) := by
  induction parts generalizing head with
  | nil => rw [split_append hhead, List.flatMap_nil, split, List.append_nil]
  | cons part parts ih =>
    obtain ⟨⟨hclear, hopens⟩, hrest⟩ := List.forall_mem_cons.mp hparts
    obtain ⟨clause, hstart⟩ := opens_iff.mp hopens
    have hbehind : opens (part ++ parts.flatMap (' ' :: ·)) = true :=
      opens_iff.mpr ⟨clause, hstart.trans (List.prefix_append _ _)⟩
    rw [split_append hhead, List.flatMap_cons, List.cons_append, split, ih hclear hrest]
    simp only [hbehind, and_self, if_true, List.append_nil]

end Clause

/-! ## Names, numbers and slots -/

theorem Identifier.fragment_quoted (i : Identifier) : Fragment i.quoted.toList := by
  have hname : ' ' ∉ i.name.toList := i.notMem_name (by decide)
  rw [i.toList_quoted]
  exact ⟨clear_of_notMem (by simp [hname]), apart_cons (by decide) _⟩

theorem fragment_toString (n : Int) : Fragment (toString n).toList := by
  have hletter : ∀ c ∈ (toString n).toList, c ∉ [' ', 'F', 'W', 'O', 'L'] := by
    intro c hmem hletter
    simp only [List.mem_cons, List.not_mem_nil, or_false] at hletter
    rcases isDigit_of_mem_toString_int hmem with hdigit | rfl
    · rcases hletter with rfl | rfl | rfl | rfl | rfl <;> cases hdigit
    · simp at hletter
  refine ⟨clear_of_notMem fun hmem => hletter _ hmem (by decide), ?_⟩
  cases hcs : (toString n).toList with
  | nil =>
    -- a number has a digit
    have hne : toString n ≠ "" := by
      rw [Int.toString_eq_repr, Int.repr_eq_if]
      split
      · exact Nat.repr_ne_empty
      · simp
    exact absurd (String.toList_eq_nil_iff.mp hcs) hne
  | cons c cs =>
    exact apart_cons (fun h => hletter c (hcs ▸ List.mem_cons_self) (List.mem_cons_of_mem _ h)) cs

/-- The type of a slot is a single word. -/
def Slot.IsSolid (s : Slot) : Prop := ∀ type ∈ s.cast, ' ' ∉ type.name.toList

theorem Slot.fragment_text {s : Slot} (h : s.IsSolid) (number : Nat) :
    Fragment (s.text number).toList := by
  rw [s.toList_text]
  refine ⟨clear_of_notMem fun hmem => ?_, apart_cons (by decide) _⟩
  rw [List.mem_cons, List.mem_append] at hmem
  rcases hmem with hmem | hmem | hmem
  · cases hmem
  · cases isDigit_of_mem_toString hmem
  · cases hcast : s.cast with
    | none => rw [hcast] at hmem; cases hmem
    | some type =>
      rw [hcast] at hmem
      simp only [Option.map_some, castChars, List.mem_cons] at hmem
      rcases hmem with hmem | hmem | hmem
      · cases hmem
      · cases hmem
      · exact h type hcast hmem

/-! ## Predicates -/

/-- Words with a separator between each two. -/
theorem fragment_words {separator : String} (hseparator : Leads separator.toList)
    {words : List String} (h : ∀ word ∈ words, Fragment word.toList) (hne : words ≠ []) :
    Fragment (String.intercalate separator words).toList := by
  rw [String.toList_intercalate]
  exact fragment_intercalate hseparator (List.forall_mem_map.mpr h) (by simpa using hne)

/-- The same words, of which there may be none. -/
theorem clear_words {separator : String} (hseparator : Leads separator.toList)
    {words : List String} (h : ∀ word ∈ words, Fragment word.toList) :
    Clear (String.intercalate separator words).toList := by
  by_cases hne : words = []
  · rw [hne]
    trivial
  · exact (fragment_words hseparator h hne).clear

theorem Predicate.fragment_placeholders {operands : List Slot} (h : ∀ s ∈ operands, s.IsSolid)
    (first : Nat) : ∀ word ∈ placeholders first operands, Fragment word.toList := by
  induction operands generalizing first with
  | nil => exact fun _ hmem => by cases hmem
  | cons s operands ih =>
    obtain ⟨hs, hrest⟩ := List.forall_mem_cons.mp h
    exact List.forall_mem_cons.mpr ⟨Slot.fragment_text hs first, ih hrest (first + 1)⟩

theorem Junction.leads_joiner (j : Junction) : Leads j.joiner.toList := by cases j <;> decide

mutual

/-- **A predicate holds no clause.** -/
theorem Predicate.fragment_text : ∀ (first : Nat) (p : Predicate),
    (∀ s ∈ p.slots, s.IsSolid) → Fragment (p.text first).toList
  | _, .constant true, _ => (⟨by decide, by decide⟩ : Fragment "1=1".toList)
  | _, .constant false, _ => (⟨by decide, by decide⟩ : Fragment "1=0".toList)
  | _, .nullity column true, _ => by
    rw [text, String.toList_append]
    exact column.fragment_quoted.append (by decide)
  | _, .nullity column false, _ => by
    rw [text, String.toList_append]
    exact column.fragment_quoted.append (by decide)
  | first, .compare column comparison operand, h => by
    have htoken : Leads (" ".toList ++ (comparison.token.toList ++ " ".toList)) := by
      cases comparison <;> decide
    have htail := htoken.append (Slot.fragment_text (h operand List.mem_cons_self) first)
    simp only [text, String.toList_append, List.append_assoc] at htail ⊢
    exact column.fragment_quoted.append htail
  | first, .membership column isIn operands, h => by
    have hopen : Clear (if isIn then " IN (" else " NOT IN (" : String).toList := by
      cases isIn <;> decide
    have hcomma : Leads ", ".toList := by decide
    have hlist := clear_words hcomma (fragment_placeholders h first)
    simp only [text, String.toList_append, List.append_assoc]
    exact column.fragment_quoted.append (hopen.append (hlist.append (by decide)))
  | first, .group junction parts, h => by
    have hparts := clear_words junction.leads_joiner (fragment_texts first parts h)
    have hopen : Fragment "(".toList := ⟨by decide, by decide⟩
    simp only [text, String.toList_append, List.append_assoc]
    exact hopen.append (hparts.append (by decide))

theorem Predicate.fragment_texts : ∀ (first : Nat) (ps : List Predicate),
    (∀ s ∈ slotsOf ps, s.IsSolid) → ∀ word ∈ texts first ps, Fragment word.toList
  | _, [], _ => fun _ hmem => by cases hmem
  | first, p :: ps, h => by
    rw [slotsOf, List.forall_mem_append] at h
    exact List.forall_mem_cons.mpr
      ⟨fragment_text first p h.1, fragment_texts (first + p.slots.length) ps h.2⟩

end

/-! ## Clauses -/

/-- A text, if it is not empty. -/
def present (text : String) : Option (List Char) := if text.isEmpty then none else some text.toList

theorem present_inj {a b : String} (h : present a = present b) : a = b := by
  unfold present at h
  split at h
  · rename_i ha
    split at h
    · rename_i hb
      rw [String.isEmpty_iff.mp ha, String.isEmpty_iff.mp hb]
    · cases h
  · split at h
    · cases h
    · exact String.toList_inj.mp (Option.some.inj h)

theorem toList_present (text : String) : (present text).toList.flatMap (' ' :: ·) =
    if text.isEmpty then [] else ' ' :: text.toList := by
  unfold present
  split <;> simp

/-- The texts of the clauses of a selection. -/
def Clause.text (table : Identifier) (conditions : List Predicate) (order : List SortTerm)
    (page : Page) : Clause → Option (List Char)
  | .table => some ("FROM " ++ table.quoted).toList
  | .conditions => present (Predicate.whereClause 1 conditions)
  | .order => present (SortTerm.clause order)
  | .limit => page.limit.map fun n => ("LIMIT " ++ toString n).toList
  | .offset => page.offset.map fun n => ("OFFSET " ++ toString n).toList

section Text

variable {table : Identifier} {conditions : List Predicate} {order : List SortTerm} {page : Page}

/-- A clause that is there starts as it does and holds no other one. -/
theorem Clause.text_spec (hsolid : ∀ s ∈ Predicate.slotsOf conditions, s.IsSolid)
    (clause : Clause) :
    ∀ cs ∈ clause.text table conditions order page, clause.opening <+: cs ∧ Clear cs := by
  have hclause : ∀ {opening body : String}, Leads opening.toList → Fragment body.toList →
      opening.toList <+: (opening ++ body).toList ∧ Clear (opening ++ body).toList := by
    intro opening body hopening hbody
    rw [String.toList_append]
    exact ⟨List.prefix_append _ _, hopening.append hbody⟩
  intro cs hcs
  cases clause with
  | table =>
    cases hcs
    exact hclause (by decide) table.fragment_quoted
  | conditions =>
    cases conditions with
    | nil => cases hcs
    | cons p ps =>
      cases hcs
      exact hclause (by decide) (fragment_words (Junction.leads_joiner .and)
        (Predicate.fragment_texts 1 (p :: ps) hsolid) (by simp [Predicate.texts]))
  | order =>
    cases order with
    | nil => cases hcs
    | cons t ts =>
      cases hcs
      refine hclause (by decide) (fragment_words (by decide) (fun word hmem => ?_) (by simp))
      obtain ⟨term, _, rfl⟩ := List.mem_map.mp hmem
      rw [SortTerm.text, String.toList_append, String.toList_append, List.append_assoc]
      refine term.column.fragment_quoted.append ?_
      cases term.direction <;> decide
  | limit =>
    obtain ⟨n, _, rfl⟩ := Option.map_eq_some_iff.mp hcs
    exact hclause (by decide) (fragment_toString n)
  | offset =>
    obtain ⟨n, _, rfl⟩ := Option.map_eq_some_iff.mp hcs
    exact hclause (by decide) (fragment_toString n)

/-- The clauses of a selection stand behind its columns, each behind a space. -/
theorem Statement.toList_select (columns : Columns) :
    (Statement.select table columns conditions order page).text.toList =
      ("SELECT " ++ columns.text).toList ++
        (Clause.all.filterMap (Clause.text table conditions order page)).flatMap (' ' :: ·) := by
  have hpage : (if page.text.isEmpty then [] else ' ' :: page.text.toList) =
      ((page.limit.map fun n => ("LIMIT " ++ toString n).toList).toList ++
        (page.offset.map fun n => ("OFFSET " ++ toString n).toList).toList).flatMap (' ' :: ·) := by
    obtain ⟨limit, offset⟩ := page
    cases limit <;> cases offset <;> simp [Page.text]
  rw [Statement.text, toList_joinParts (by simp)]
  simp only [Clause.all, List.filterMap_eq_flatMap_toList, List.flatMap_cons, List.flatMap_nil,
    Clause.text, List.flatMap_append, toList_present, hpage, Option.toList_some,
    String.toList_append, List.append_nil, List.append_assoc]
  simp

/-- A count has the table and the conditions behind it. -/
theorem Statement.toList_count : (Statement.count table conditions).text.toList =
    "SELECT COUNT(*)".toList ++
      (Clause.all.filterMap (Clause.text table conditions [] {})).flatMap (' ' :: ·) := by
  have horder : present (SortTerm.clause []) = none := rfl
  rw [Statement.text, toList_joinParts (by simp)]
  simp only [Clause.all, List.filterMap_eq_flatMap_toList, List.flatMap_cons, List.flatMap_nil,
    Clause.text, List.flatMap_append, toList_present, horder, Option.map_none, Option.toList_none,
    Option.toList_some, String.toList_append, List.append_nil, List.append_assoc]
  simp

/-- Clauses behind a text without any are read back. -/
theorem Clause.read?_behind (hsolid : ∀ s ∈ Predicate.slotsOf conditions, s.IsSolid)
    {head : List Char} (hhead : Clear head) :
    let text := head ++
      (all.filterMap (Clause.text table conditions order page)).flatMap (' ' :: ·)
    (split text).1 = head ∧
      ∀ clause : Clause, clause.read? text = clause.text table conditions order page := by
  intro text
  have hspec : ∀ clause : Clause, ∀ cs ∈ clause.text table conditions order page,
      clause.opening <+: cs ∧ Clear cs := Clause.text_spec hsolid
  have hsplit : split text = (head, all.filterMap (Clause.text table conditions order page)) := by
    refine split_clauses hhead fun part hmem => ?_
    obtain ⟨clause, _, hpart⟩ := List.mem_filterMap.mp hmem
    obtain ⟨hstart, hclear⟩ := hspec clause part hpart
    exact ⟨hclear, opens_iff.mpr ⟨clause, hstart⟩⟩
  refine ⟨by rw [hsplit], fun clause => ?_⟩
  rw [read?, hsplit]
  exact find?_filterMap (fun clause cs hcs => (hspec clause cs hcs).1) clause

/-- **The clauses of a selection are read back from its text**, and what stands in front of them
names the columns. -/
theorem Statement.read?_select (hsolid : ∀ s ∈ Predicate.slotsOf conditions, s.IsSolid)
    {columns : Columns} (hcolumns : columns ≠ .named []) :
    let text := (Statement.select table columns conditions order page).text.toList
    (Clause.split text).1 = ("SELECT " ++ columns.text).toList ∧
      ∀ clause : Clause, clause.read? text = clause.text table conditions order page := by
  intro text
  have hbody : Fragment columns.text.toList := by
    cases columns with
    | all => exact ⟨by decide, by decide⟩
    | named names =>
      refine fragment_words (by decide) (fun word hmem => ?_) ?_
      · obtain ⟨i, _, rfl⟩ := List.mem_map.mp hmem
        exact i.fragment_quoted
      · simpa using hcolumns
  have hhead : Clear ("SELECT " ++ columns.text).toList := by
    have hword : Leads "SELECT ".toList := by decide
    rw [String.toList_append]
    exact hword.append hbody
  rw [show text = _ from toList_select columns]
  exact Clause.read?_behind hsolid hhead

/-- The clauses of a count are read back. -/
theorem Statement.read?_count (hsolid : ∀ s ∈ Predicate.slotsOf conditions, s.IsSolid)
    (clause : Clause) : clause.read? (Statement.count table conditions).text.toList =
      clause.text table conditions [] {} := by
  have hhead : Clear "SELECT COUNT(*)".toList := by decide
  rw [toList_count]
  exact (Clause.read?_behind hsolid hhead).2 clause

end Text

end Rowgate.Sql
