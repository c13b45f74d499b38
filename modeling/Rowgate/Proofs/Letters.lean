import Mathlib.Data.List.Basic
import Rowgate.Sql.Statement
/-
The letters that checked names, types and numbers are made of.

A statement's text takes three kinds of foreign words: identifiers, names of types and numbers. Each
is made of few characters, whatever was given, and none of them is a mark that the text uses between
words. The statements below are of the form "every character is one of these", so that a word is
kept out of a scanner by looking at one character.
-/
set_option autoImplicit false

namespace Rowgate.Sql

/-- A character that is none of some differs from each of them. -/
theorem bne_of_notMem {c : Char} {cs : List Char} (h : c ∉ cs) : ∀ d ∈ cs, (d != c) = true := by
  intro d hmem
  have hne : d ≠ c := fun heq => h (heq ▸ hmem)
  simpa using hne

/-! ## Identifiers -/

theorem Identifier.isNameChar_of_mem (i : Identifier) {c : Char} (h : c ∈ i.name.toList) :
    isNameChar c = true := by
  obtain ⟨d, ds, hname, _, hall, _⟩ := (Identifier.rejection?_eq_none_iff i.name).mp i.accepted
  rw [hname] at h
  exact List.all_eq_true.mp hall c h

/-- A character that names are not made of stands in no name. -/
theorem Identifier.notMem_name (i : Identifier) {c : Char} (h : isNameChar c = false) :
    c ∉ i.name.toList := by
  intro hmem
  rw [i.isNameChar_of_mem hmem] at h
  cases h

theorem Identifier.toList_quoted (i : Identifier) :
    i.quoted.toList = '"' :: (i.name.toList ++ ['"']) := by
  rw [quoted, String.toList_append, String.toList_append]
  rfl

/-! ## Types -/

/-- A character of a type's name: one of a name, a space or a bracket. -/
def isTypeChar (c : Char) : Bool := isNameChar c || c == ' ' || c == '[' || c == ']'

/-- A type's name is its base, perhaps with brackets behind it. -/
private theorem ColumnType.toList_base (t : ColumnType) :
    ∃ base, (t.name.toList = base ∨ t.name.toList = base ++ ['[', ']']) ∧
      ∀ c ∈ base, (isNameChar c || c == ' ') = true := by
  have husable := t.usable
  unfold ColumnType.isUsable at husable
  simp only [Bool.and_eq_true] at husable
  obtain ⟨⟨⟨_, hall⟩, _⟩, _⟩ := husable
  refine ⟨_, ?_, List.all_eq_true.mp hall⟩
  split
  · rename_i hsuffix
    obtain ⟨front, hfront⟩ := List.isSuffixOf_iff_suffix.mp hsuffix
    -- the base is what stands in front of the brackets
    right
    rw [← hfront, List.length_append, List.length_cons, List.length_cons, List.length_nil,
      Nat.add_sub_cancel, List.take_left']
    rfl
  · exact .inl rfl

theorem ColumnType.isTypeChar_of_mem (t : ColumnType) {c : Char} (h : c ∈ t.name.toList) :
    isTypeChar c = true := by
  obtain ⟨base, hname, hall⟩ := t.toList_base
  have hbase : c ∈ base → isTypeChar c = true := by
    intro hmem
    have hc := hall c hmem
    simp only [Bool.or_eq_true] at hc
    rcases hc with hc | hc <;> simp [isTypeChar, hc]
  rcases hname with hname | hname
  · exact hbase (hname ▸ h)
  · rw [hname, List.mem_append] at h
    rcases h with h | h
    · exact hbase h
    · simp only [List.mem_cons, List.not_mem_nil, or_false] at h
      rcases h with rfl | rfl <;> decide

/-! ## Numbers -/

theorem isDigit_of_mem_toString {n : Nat} {c : Char} (h : c ∈ (toString n).toList) :
    c.isDigit = true := by
  rw [show toString n = n.repr from rfl, Nat.toList_repr] at h
  exact Nat.isDigit_of_mem_toDigits (by omega) (by omega) h

theorem isDigit_of_mem_toString_int {n : Int} {c : Char} (h : c ∈ (toString n).toList) :
    c.isDigit = true ∨ c = '-' := by
  cases n with
  | ofNat m => exact .inl (isDigit_of_mem_toString (n := m) h)
  | negSucc m =>
    rw [show toString (Int.negSucc m) = "-" ++ toString (m + 1) from rfl, String.toList_append,
      List.mem_append] at h
    rcases h with h | h
    · exact .inr (by simpa using h)
    · exact .inl (isDigit_of_mem_toString h)

/-- Behind a number its digits end at the first character that is none. -/
theorem span_toString (n : Nat) {cs : List Char} (hcs : ∀ c ∈ cs.head?, c.isDigit = false) :
    ((toString n).toList ++ cs).takeWhile Char.isDigit = (toString n).toList ∧
      ((toString n).toList ++ cs).dropWhile Char.isDigit = cs := by
  have hdigits : ∀ c ∈ (toString n).toList, c.isDigit = true :=
    fun c hmem => isDigit_of_mem_toString hmem
  rw [List.takeWhile_append_of_pos hdigits, List.dropWhile_append_of_pos hdigits]
  cases cs with
  | nil => simp
  | cons c cs =>
    have hc : c.isDigit = false := hcs c rfl
    simp [hc]

/-- The letters of a page's clauses. -/
theorem Page.mem_text {page : Page} {c : Char} (h : c ∈ page.text.toList) :
    c.isDigit = true ∨ c = '-' ∨ c ∈ "LIMIT OFFSET".toList := by
  have hclause : ∀ (word : String) (n : Int), (∀ c ∈ word.toList, c ∈ "LIMIT OFFSET".toList) →
      c ∈ (word ++ toString n).toList → c.isDigit = true ∨ c = '-' ∨ c ∈ "LIMIT OFFSET".toList := by
    intro word n hword hmem
    rw [String.toList_append, List.mem_append] at hmem
    rcases hmem with hmem | hmem
    · exact .inr (.inr (hword c hmem))
    · rcases isDigit_of_mem_toString_int hmem with hdigit | hminus
      · exact .inl hdigit
      · exact .inr (.inl hminus)
  have hlimit := fun n => hclause "LIMIT " n (by simp)
  have hoffset := fun n => hclause "OFFSET " n (by simp)
  obtain ⟨limit, offset⟩ := page
  cases limit with
  | none =>
    cases offset with
    | none => cases h
    | some m => exact hoffset m (by simpa [text] using h)
  | some n =>
    cases offset with
    | none => exact hlimit n (by simpa [text] using h)
    | some m =>
      rw [text, Option.map_some, Option.map_some, Option.toList_some, Option.toList_some,
        List.singleton_append, String.intercalate_cons_cons, String.intercalate_singleton,
        String.toList_append, String.toList_append, List.mem_append, List.mem_append] at h
      rcases h with (h | h) | h
      · exact hlimit n h
      · have hspace : ∀ c ∈ " ".toList, c ∈ "LIMIT OFFSET".toList := by simp
        exact .inr (.inr (hspace c h))
      · exact hoffset m h

/-! ## Placeholders -/

/-- The text of a cast, if there is one. -/
def castChars : Option String → List Char
  | none => []
  | some type => ':' :: ':' :: type.toList

theorem Slot.toList_text (s : Slot) (number : Nat) :
    (s.text number).toList =
      '$' :: ((toString number).toList ++ castChars (s.cast.map (·.name))) := by
  obtain ⟨cast, value⟩ := s
  cases cast <;> simp [text, castChars]

/-! ## What ends a word -/

/-- A character that ends a word or a placeholder. -/
def isStop (c : Char) : Bool := c == ' ' || c == ',' || c == ')'

/-- A text in front of which a word or a placeholder ends. -/
def Stops (cs : List Char) : Prop := ∀ c ∈ cs.head?, isStop c = true

theorem all_head?_isStop_iff {cs : List Char} : cs.head?.all isStop = true ↔ Stops cs := by
  cases cs <;> simp [Stops]

instance (cs : List Char) : Decidable (Stops cs) := decidable_of_iff _ all_head?_isStop_iff

theorem stops_cons {c : Char} {cs : List Char} (h : isStop c = true) : Stops (c :: cs) := by
  intro d hd
  cases hd
  exact h

end Rowgate.Sql
