import Mathlib.Algebra.GroupWithZero.Nat
import Rowgate.Proofs.Quoting
/-
The words that casts bring into a clause.

A type registered for a column may be named by several words, and all of them are written behind each
placeholder of the column. Whether a clause still joins the conditions that its filters ask for shows
in its words: every `AND` and every `OR` that is not between quotes. `Query.whereClause_words` counts
them. A clause has the words that it has without types, and those of the types of its operands. So a
type adds nothing but a cast as long as its name holds neither of the two words, and a name that holds
one, which is accepted like any other, adds it to the condition.
-/
set_option autoImplicit false

namespace Rowgate.Sql

/-! ## Whole words -/

/-- Where a reader of words stands: between double quotes, or outside of them behind the letters of a
word, last one first. -/
inductive Reading where
  | quoted
  | outside (letters : List Char)

/-- The word that letters make, in upper case; no letters make none. -/
def wordOf (letters : List Char) : List (List Char) :=
  if letters = [] then [] else [letters.reverse.map Char.toUpper]

/-- The words of a text outside of double quotes, each as long as letters, digits and underscores
go on. -/
def readWords : Reading → List Char → List (List Char)
  | .quoted, [] => []
  | .outside letters, [] => wordOf letters
  | .quoted, c :: cs => if c = '"' then readWords (.outside []) cs else readWords .quoted cs
  | .outside letters, c :: cs =>
    if isNameChar c then readWords (.outside (c :: letters)) cs
    else wordOf letters ++ readWords (if c = '"' then .quoted else .outside []) cs

/-- How often a word stands in a text, in whichever case. -/
def wordCount (word text : String) : Nat :=
  (readWords (.outside []) text.toList).count (word.toList.map Char.toUpper)

/-! ## Reading in parts -/

/-- A text in front of which a word ends. -/
def Breaks (cs : List Char) : Prop := ∀ c ∈ cs.head?, isNameChar c = false

theorem Stops.breaks {cs : List Char} (h : Stops cs) : Breaks cs := by
  intro c hc
  have hstop := h c hc
  simp only [isStop, Bool.or_eq_true, beq_iff_eq] at hstop
  rcases hstop with (rfl | rfl) | rfl <;> decide

theorem readWords_breaks (letters : List Char) {rest : List Char} (h : Breaks rest) :
    readWords (.outside letters) rest = wordOf letters ++ readWords (.outside []) rest := by
  cases rest with
  | nil => exact (List.append_nil _).symm
  | cons c cs =>
    have hc : isNameChar c = false := h c rfl
    simp only [readWords, hc, Bool.false_eq_true, if_false]
    rfl

/-- Text without quotes is read on its own in front of what ends a word. -/
theorem readWords_append {letters cs rest : List Char} (hquote : '"' ∉ cs) (h : Breaks rest) :
    readWords (.outside letters) (cs ++ rest) =
      readWords (.outside letters) cs ++ readWords (.outside []) rest := by
  induction cs generalizing letters with
  | nil => exact readWords_breaks letters h
  | cons c cs ih =>
    have hc : c ≠ '"' := fun heq => hquote (heq ▸ List.mem_cons_self)
    have hcs : '"' ∉ cs := fun hmem => hquote (List.mem_cons_of_mem _ hmem)
    rw [List.cons_append, readWords, readWords, if_neg hc]
    split
    · exact ih hcs
    · rw [ih hcs, List.append_assoc]

/-- Whatever follows a text without quotes, its complete words are the same, and so are the letters
that it ends with. -/
theorem exists_readWords_append (letters : List Char) {cs : List Char} (hquote : '"' ∉ cs) :
    ∃ words letters', ∀ rest,
      readWords (.outside letters) (cs ++ rest) = words ++ readWords (.outside letters') rest := by
  induction cs generalizing letters with
  | nil => exact ⟨[], letters, fun _ => rfl⟩
  | cons c cs ih =>
    have hc : c ≠ '"' := fun heq => hquote (heq ▸ List.mem_cons_self)
    have hcs : '"' ∉ cs := fun hmem => hquote (List.mem_cons_of_mem _ hmem)
    cases hletter : isNameChar c with
    | true =>
      obtain ⟨words, letters', hread⟩ := ih (c :: letters) hcs
      refine ⟨words, letters', fun rest => ?_⟩
      rw [List.cons_append, readWords, if_pos hletter, hread]
    | false =>
      obtain ⟨words, letters', hread⟩ := ih [] hcs
      refine ⟨wordOf letters ++ words, letters', fun rest => ?_⟩
      rw [List.cons_append, readWords, if_neg (by rw [hletter]; decide), if_neg hc, hread,
        List.append_assoc]

/-- Nothing is read of a quoted name, and a word ends in front of it. -/
theorem Identifier.readWords_quoted (i : Identifier) (letters rest : List Char) :
    readWords (.outside letters) (i.quoted.toList ++ rest) =
      wordOf letters ++ readWords (.outside []) rest := by
  have hskip : ∀ cs : List Char, '"' ∉ cs →
      readWords .quoted (cs ++ '"' :: rest) = readWords (.outside []) rest := by
    intro cs
    induction cs with
    | nil => intro _; rw [List.nil_append, readWords, if_pos rfl]
    | cons c cs ih =>
      intro h
      have hc : c ≠ '"' := fun heq => h (heq ▸ List.mem_cons_self)
      rw [List.cons_append, readWords, if_neg hc, ih fun hmem => h (List.mem_cons_of_mem _ hmem)]
  have hname : '"' ∉ i.name.toList := i.notMem_name (by decide)
  rw [i.toList_quoted, List.cons_append, readWords, if_neg (by decide), if_pos rfl,
    List.append_assoc, List.cons_append, List.nil_append, hskip _ hname]

/-- The words of the name of a type, if there is a type. -/
def castWords (type : Option String) : List (List Char) :=
  type.elim [] fun name => readWords (.outside []) name.toList

/-- The words of a placeholder: its number, and those of the type it is cast to. -/
theorem Slot.readWords_text (s : Slot) (number : Nat) (letters : List Char) {rest : List Char}
    (hrest : Stops rest) :
    readWords (.outside letters) ((s.text number).toList ++ rest) =
      wordOf letters ++ (readWords (.outside []) (toString number).toList ++
        (castWords (s.cast.map (·.name)) ++ readWords (.outside []) rest)) := by
  have hdigits : '"' ∉ (toString number).toList := by
    intro hmem
    cases isDigit_of_mem_toString hmem
  have hdollar : ∀ cs, readWords (.outside letters) ('$' :: cs) =
      wordOf letters ++ readWords (.outside []) cs := by
    intro cs
    rw [readWords, if_neg (by decide), if_neg (by decide)]
  rw [s.toList_text, List.cons_append, List.append_assoc, hdollar]
  cases hcast : s.cast with
  | none =>
    rw [Option.map_none, castChars, castWords, Option.elim_none, List.nil_append, List.nil_append,
      readWords_append hdigits hrest.breaks]
  | some type =>
    -- the colons end the number, and the type's last word ends where the placeholder does
    have htype : '"' ∉ type.name.toList := by
      intro hmem
      cases type.isTypeChar_of_mem hmem
    have hcolons : ∀ cs, readWords (.outside []) (':' :: ':' :: cs) =
        readWords (.outside []) cs := by
      intro cs
      rfl
    have hbreaks : Breaks (':' :: ':' :: (type.name.toList ++ rest)) := by
      intro c hc
      cases hc
      decide
    rw [Option.map_some, castChars, castWords, Option.elim_some, List.cons_append,
      List.cons_append, readWords_append hdigits hbreaks, hcolons,
      readWords_append htype hrest.breaks]

/-! ## Pieces without casts -/

namespace Piece

/-- The piece without its cast, if it has one. -/
def uncast : Piece → Piece
  | .slot column s => .slot column { s with cast := none }
  | .fixed text => .fixed text
  | .name identifier => .name identifier
  | .expression sql => .expression sql

theorem map_uncast_joined (separator : String) (parts : List (List Piece)) :
    (joined separator parts).map uncast = joined separator (parts.map (List.map uncast)) := by
  induction parts with
  | nil => rfl
  | cons p rest ih =>
    cases rest with
    | nil =>
      rw [joined, List.map_cons, List.map_nil, joined, List.intercalate_singleton,
        List.intercalate_singleton]
    | cons q rest =>
      rw [joined_cons_cons, List.map_append, List.map_cons, ih, List.map_cons, List.map_cons,
        List.map_cons, joined_cons_cons, uncast]

theorem Stop.uncast {ps : List Piece} (h : Stop ps) : Stop (ps.map Piece.uncast) := by
  cases ps with
  | nil => exact h
  | cons p rest => cases p <;> exact h

/-- **Casts add their own words** and nothing else, wherever the reading of pieces starts. -/
theorem count_readWords_uncast {given : List String} {led : Prop} (word : List Char) (ps : List Piece)
    (hwithin : AllWithin given ps) (current : Option Identifier) (horder : Orderly led current ps)
    (first : Nat) (letters : List Char) :
    (readWords (.outside letters) (charsOf first ps)).count word =
      (readWords (.outside letters) (charsOf first (ps.map uncast))).count word +
        ((slots ps).map fun s => (castWords (s.cast.map (·.name))).count word).sum := by
  induction ps generalizing current first letters with
  | nil => rfl
  | cons p rest ih =>
    obtain ⟨hp, hrest⟩ := List.forall_mem_cons.mp hwithin
    cases p with
    | fixed text =>
      -- what is read of the text does not depend on what follows it
      obtain ⟨words, letters', hread⟩ := exists_readWords_append letters hp.unquoted
      rw [List.map_cons, uncast, charsOf, charsOf, hread, hread, List.count_append,
        List.count_append, ih hrest current horder.2.2, slots, Nat.add_assoc]
    | name identifier =>
      rw [List.map_cons, uncast, charsOf, charsOf, identifier.readWords_quoted,
        identifier.readWords_quoted, List.count_append, List.count_append,
        ih hrest (some identifier) horder, slots, Nat.add_assoc]
    | expression sql => exact hp.elim
    | slot column s =>
      obtain ⟨_, hstop, hlater⟩ := horder
      rw [List.map_cons, uncast, charsOf, charsOf,
        s.readWords_text first letters (hstop.stops (first + 1)),
        Slot.readWords_text _ first letters (hstop.uncast.stops (first + 1))]
      simp only [List.count_append, slots, List.map_cons, List.sum_cons, Option.map_none, castWords,
        Option.elim_none, List.count_nil, ih hrest current hlater (first + 1)]
      omega

end Piece

/-! ## Filters without types -/

/-- **Filters that are accepted with types are accepted without**, and are written alike but for the
casts. -/
theorem Filter.checkAll_uncast {types : Keyed String} {fs : List Filter} {ps : List Predicate}
    (h : Filter.checkAll types fs = .ok ps) :
    ∃ ps', Filter.checkAll [] fs = .ok ps' ∧
      Predicate.wherePieces ps' = (Predicate.wherePieces ps).map Piece.uncast := by
  have inv : CheckInvariant types
      (fun f p => ∃ p', f.check [] = .ok p' ∧ p'.pieces = p.pieces.map Piece.uncast)
      (fun fs ps => ∃ ps', Filter.checkAll [] fs = .ok ps' ∧
        Predicate.piecesOf ps' = (Predicate.piecesOf ps).map (List.map Piece.uncast)) :=
    { condition := by
        intro c column p hcolumn hp
        have hcheck : Filter.check [] (.condition c) = c.question.check [] column := by
          rw [Filter.check, Condition.check_eq, Identifier.ofName_eq_ok.mpr hcolumn]
          rfl
        rw [hcheck]
        obtain ⟨isNull, hq, rfl⟩ | ⟨holds, hq, rfl⟩ | ⟨comparison, value, cast, hq, _, rfl⟩ |
          ⟨isIn, value, values, cast, hq, _, rfl⟩ := Question.check_cases hp
        · rw [hq]
          exact ⟨_, rfl, by cases isNull <;> rfl⟩
        · rw [hq]
          exact ⟨_, rfl, by cases holds <;> rfl⟩
        · rw [hq]
          exact ⟨_, rfl, rfl⟩
        · rw [hq]
          refine ⟨_, rfl, ?_⟩
          simp only [Predicate.pieces, Piece.placeholders, List.map_cons, List.map_append,
            List.map_map, List.map_nil, Piece.map_uncast_joined, Piece.uncast, Function.comp_def]
      all := ⟨_, rfl, rfl⟩
      any := ⟨_, rfl, rfl⟩
      group := by
        rintro j f fs p ps ⟨ps', hchecked, hpieces⟩
        obtain ⟨first, hf, hchecked⟩ := bind_eq_ok.mp hchecked
        obtain ⟨others, hfs, hchecked⟩ := bind_eq_ok.mp hchecked
        cases hchecked
        refine ⟨.group j (first :: others), ?_, ?_⟩
        · rw [Filter.check_group, hf, hfs]
          rfl
        · rw [Predicate.pieces, Predicate.pieces, hpieces, List.map_cons, List.map_append,
            Piece.map_uncast_joined]
          rfl
      nil := ⟨[], rfl, rfl⟩
      cons := by
        rintro f fs p ps ⟨p', hp, hpieces⟩ ⟨ps', hps, hall⟩
        refine ⟨p' :: ps', ?_, ?_⟩
        · rw [Filter.checkAll, hp, hps]
          rfl
        · rw [Predicate.piecesOf, Predicate.piecesOf, List.map_cons, hpieces, hall] }
  obtain ⟨ps', hchecked, hpieces⟩ := inv.checkAll fs ps h
  refine ⟨ps', hchecked, ?_⟩
  cases ps with
  | nil =>
    cases ps' with
    | nil => rfl
    | cons p' rest' => cases hpieces
  | cons p rest =>
    cases ps' with
    | nil => cases hpieces
    | cons p' rest' =>
      rw [Predicate.wherePieces, Predicate.wherePieces, if_neg (by simp), if_neg (by simp), hpieces,
        List.map_cons, Piece.map_uncast_joined, Piece.uncast]

/-! ## Clauses -/

/-- How often a word stands in the names of the types of the operands' columns, once for each
operand. -/
def Operand.typeWords (types : Keyed String) (word : String) (os : List Operand) : Nat :=
  (os.map fun o => (Keyed.get? o.column types).elim 0 (wordCount word)).sum

/-- Slots that fit operands are cast to the types of the operands' columns. -/
theorem Operand.sum_castWords {types : Keyed String} {os : List Operand}
    {bound : List (Identifier × Slot)} (h : List.Forall₂ (Operand.Fits types) os bound)
    (word : String) :
    (bound.map fun b =>
        (castWords (b.2.cast.map (·.name))).count (word.toList.map Char.toUpper)).sum =
      typeWords types word os := by
  induction h with
  | nil => rfl
  | @cons o b os bound hone _ ih =>
    rw [List.map_cons, List.sum_cons, ih, typeWords, typeWords, List.map_cons, List.sum_cons,
      hone.cast]
    cases Keyed.get? o.column types <;> rfl

theorem Operand.typeWords_eq_zero_iff {types : Keyed String} {word : String} {os : List Operand} :
    typeWords types word os = 0 ↔ ∀ o ∈ os, ∀ type, Keyed.get? o.column types = some type →
      wordCount word type = 0 := by
  rw [typeWords, List.sum_eq_zero_iff_forall_eq_nat, List.forall_mem_map]
  refine forall₂_congr fun o _ => ?_
  cases Keyed.get? o.column types <;> simp

/-- **Words of a clause.** If the clause of a query is accepted, then so is the clause of the same
filters without types, and of each word it has as many as that one and the types of the operands'
columns together, counted outside of double quotes and in any case. So it has as many `AND` and `OR`
as the clause without types if and only if no type of an operand's column has either of them. -/
theorem Query.whereClause_words {query : Query} {first : Nat} {r : Rendered}
    (h : query.whereClause first = .ok r) :
    ∃ r', Query.whereClause first { query with columnTypes := [] } = .ok r' ∧
      (∀ word, wordCount word r.text = wordCount word r'.text +
        Operand.typeWords query.columnTypes word (Filter.operandsOf query.filters)) ∧
      ((∀ word ∈ ["AND", "OR"], wordCount word r.text = wordCount word r'.text) ↔
        ∀ o ∈ Filter.operandsOf query.filters, ∀ type,
          Keyed.get? o.column query.columnTypes = some type →
          wordCount "AND" type = 0 ∧ wordCount "OR" type = 0) := by
  obtain ⟨ps, hps, h⟩ := bind_eq_ok.mp h
  cases h
  obtain ⟨ps', hps', hpieces⟩ := Filter.checkAll_uncast hps
  have hwords : ∀ word, wordCount word (Predicate.whereClause first ps) =
      wordCount word (Predicate.whereClause first ps') +
        Operand.typeWords query.columnTypes word (Filter.operandsOf query.filters) := by
    intro word
    have hwithin := Filter.allWithin_wherePieces hps (List.Subset.refl _)
    have hclosed : Piece.Closed True (Predicate.wherePieces ps) := Predicate.closed_wherePieces ps
    have horder := hclosed [] Piece.follows_nil none
    rw [List.append_nil] at horder
    have hcount := Piece.count_readWords_uncast (word.toList.map Char.toUpper) _ hwithin none horder
      first []
    rw [← hpieces, Predicate.charsOf_wherePieces, Predicate.charsOf_wherePieces, ← Piece.map_bound,
      List.map_map] at hcount
    rw [← Operand.sum_castWords (Filter.checkAll_operands hps) word]
    exact hcount
  refine ⟨_, bind_eq_ok.mpr ⟨ps', hps', rfl⟩, hwords, ?_⟩
  have hequal : ∀ word, wordCount word (Predicate.whereClause first ps) =
      wordCount word (Predicate.whereClause first ps') ↔
      Operand.typeWords query.columnTypes word (Filter.operandsOf query.filters) = 0 := by
    intro word
    rw [hwords word]
    omega
  simp only [List.forall_mem_cons, List.not_mem_nil, false_implies, implies_true, and_true, hequal,
    Operand.typeWords_eq_zero_iff]
  constructor
  · rintro ⟨hand, hor⟩ o ho type htype
    exact ⟨hand o ho type htype, hor o ho type htype⟩
  · intro hboth
    exact ⟨fun o ho type htype => (hboth o ho type htype).1,
      fun o ho type htype => (hboth o ho type htype).2⟩

/-- A type whose name ends in a condition: the clause has an `OR` that no filter asks for. -/
theorem Query.whereClause_words_smuggled :
    let query : Query := { filters := [.eq "a" (.string "x")], columnTypes := [("a", "text OR true")] }
    ∃ r r', query.whereClause 1 = .ok r ∧
      Query.whereClause 1 { query with columnTypes := [] } = .ok r' ∧
      r.text = "WHERE \"a\" = $1::text OR true" ∧ r'.text = "WHERE \"a\" = $1" ∧
      wordCount "OR" r.text = wordCount "OR" r'.text + 1 := by
  intro query
  obtain ⟨r, hr, htext⟩ : ∃ r, query.whereClause 1 = .ok r ∧
      r.text = "WHERE \"a\" = $1::text OR true" := ⟨_, rfl, by decide⟩
  obtain ⟨r', hr', hwords, _⟩ := whereClause_words hr
  have htext' : r'.text = "WHERE \"a\" = $1" := by
    cases hr'
    decide
  exact ⟨r, r', hr, hr', htext, htext', hwords "OR"⟩

end Rowgate.Sql
