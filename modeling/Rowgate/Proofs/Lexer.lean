import Rowgate.Proofs.Letters
/-
Tokens: the text of a condition, word by word.

The lexer knows quoted names, parentheses, commas and words with blanks between them; a word is a
keyword in either case, a comparison, a placeholder or something else. It reads one character at a
time and is written as a step on what is pending, so that reading a text in two halves is reading it
(`lexFrom_append`).

`Predicate.lexFrom_text` says which tokens the text of a predicate has. The name of a type may be
several words long; those behind the first are tokens of their own.
-/
set_option autoImplicit false

namespace Rowgate.Sql

/-! ## Words -/

/-- What the text of a condition is made of. -/
inductive Token where
  | name (name : String)
  | opening
  | closing
  | comma
  | junction (j : Junction)
  | is
  | not
  | isIn
  | null
  | constant (holds : Bool)
  | comparison (c : Comparison)
  /-- the number, and whether a cast follows -/
  | placeholder (number : Nat) (cast : Bool)
  /-- any other word -/
  | other
  /-- a name that is still open where the text ends -/
  | unclosed
deriving DecidableEq, Repr

/-- The words with a meaning of their own, in upper case. -/
def keywords : List (List Char × Token) :=
  [("AND".toList, .junction .and), ("OR".toList, .junction .or), ("IS".toList, .is),
    ("NOT".toList, .not), ("IN".toList, .isIn), ("NULL".toList, .null),
    ("1=1".toList, .constant true), ("1=0".toList, .constant false),
    ("=".toList, .comparison .eq), ("!=".toList, .comparison .ne), (">".toList, .comparison .gt),
    (">=".toList, .comparison .gte), ("<".toList, .comparison .lt),
    ("<=".toList, .comparison .lte), ("LIKE".toList, .comparison .like),
    ("ILIKE".toList, .comparison .ilike)]

/-- A placeholder with the number, by what stands in its word behind the digits. -/
def numbered? (number : Nat) : List Char → Option Token
  | [] => some (.placeholder number false)
  | ':' :: ':' :: _ => some (.placeholder number true)
  | _ => none

/-- The placeholder that a word is: `$` with a number, perhaps with a cast behind it. -/
def placeholder? : List Char → Option Token
  | '$' :: cs =>
    let digits := cs.takeWhile Char.isDigit
    if digits = [] then none
    else numbered? (Nat.ofDigitChars 10 digits 0) (cs.dropWhile Char.isDigit)
  | _ => none

/-- The token of a word. Keywords may be written in either case. -/
def wordToken (letters : List Char) : Token :=
  ((placeholder? letters).or
    ((keywords.find? fun k => k.1 = letters.map Char.toUpper).map (·.2))).getD .other

/-! ## Reading characters -/

/-- What has been read of a token that may go on, last character first. -/
inductive Pending where
  | gap
  | word (letters : List Char)
  | name (letters : List Char)

/-- The tokens that are complete where nothing goes on. -/
def Pending.finish : Pending → List Token
  | .gap => []
  | .word letters => [wordToken letters.reverse]
  | .name _ => [.unclosed]

/-- A letter of a word. -/
def Pending.letter (c : Char) : Pending → Pending
  | .word letters => .word (c :: letters)
  | _ => .word [c]

/-- A character that stands in no word. -/
def isMark (c : Char) : Bool := c == ' ' || c == '"' || c == '(' || c == ')' || c == ','

/-- The tokens that a mark gives on its own. -/
def markTokens (c : Char) : List Token :=
  if c = '(' then [.opening] else if c = ')' then [.closing] else if c = ',' then [.comma] else []

/-- One character: the tokens that it completes, and what is pending behind it. -/
def lexStep (pending : Pending) (c : Char) : List Token × Pending :=
  match pending with
  | .name letters =>
    if c = '"' then ([.name (String.ofList letters.reverse)], .gap) else ([], .name (c :: letters))
  | pending =>
    if isMark c then (pending.finish ++ markTokens c, if c = '"' then .name [] else .gap)
    else ([], pending.letter c)

/-- The tokens of a text behind what is pending. -/
def lexFrom (pending : Pending) : List Char → List Token
  | [] => pending.finish
  | c :: cs => (lexStep pending c).1 ++ lexFrom (lexStep pending c).2 cs

/-- The tokens of a text. -/
def lex (text : String) : List Token := lexFrom .gap text.toList

/-! ## Words in front of what ends them -/

/-- What is pending, other than a name, is complete in front of what ends a word. -/
theorem lexFrom_stops {pending : Pending} (hpending : ∀ letters, pending ≠ .name letters)
    {rest : List Char} (hrest : Stops rest) :
    lexFrom pending rest = pending.finish ++ lexFrom .gap rest := by
  cases rest with
  | nil => exact (List.append_nil _).symm
  | cons c cs =>
    have hc : isStop c = true := hrest c rfl
    simp only [isStop, Bool.or_eq_true, beq_iff_eq] at hc
    cases pending with
    | name letters => exact absurd rfl (hpending letters)
    | gap => rfl
    | word letters =>
      rcases hc with (rfl | rfl) | rfl
      · rfl
      · exact List.append_assoc _ _ _
      · exact List.append_assoc _ _ _

/-- A word is complete in front of what ends it. -/
theorem lexFrom_word (letters : List Char) {rest : List Char} (hrest : Stops rest) :
    lexFrom (.word letters) rest = wordToken letters.reverse :: lexFrom .gap rest :=
  lexFrom_stops (fun _ h => Pending.noConfusion h) hrest

/-- Letters go on with a word. -/
theorem lexFrom_letters {letters cs rest : List Char} (h : ∀ c ∈ cs, isMark c = false) :
    lexFrom (.word letters) (cs ++ rest) = lexFrom (.word (cs.reverse ++ letters)) rest := by
  induction cs generalizing letters with
  | nil => rfl
  | cons c cs ih =>
    have hc : isMark c = false := h c List.mem_cons_self
    have hstep : lexStep (.word letters) c = ([], .word (c :: letters)) := by
      simp [lexStep, hc, Pending.letter]
    rw [List.cons_append, lexFrom, hstep, ih fun d hd => h d (List.mem_cons_of_mem _ hd),
      List.reverse_cons, List.append_assoc]
    rfl

/-- **Text in two halves.** Words and blanks are read on their own in front of what ends a word. -/
theorem lexFrom_append {pending : Pending} (hpending : ∀ letters, pending ≠ .name letters)
    {cs rest : List Char} (h : ∀ c ∈ cs, isTypeChar c = true) (hrest : Stops rest) :
    lexFrom pending (cs ++ rest) = lexFrom pending cs ++ lexFrom .gap rest := by
  induction cs generalizing pending with
  | nil => exact lexFrom_stops hpending hrest
  | cons c cs ih =>
    have hc : isTypeChar c = true := h c List.mem_cons_self
    -- no name is opened, so the rest goes on from a gap or a word
    have hquote : c ≠ '"' := by
      rintro rfl
      cases hc
    have hnext : ∀ letters, (lexStep pending c).2 ≠ .name letters := by
      intro letters
      cases pending with
      | name letters => exact absurd rfl (hpending letters)
      | gap => by_cases hmark : isMark c = true <;> simp [lexStep, hmark, hquote, Pending.letter]
      | word w => by_cases hmark : isMark c = true <;> simp [lexStep, hmark, hquote, Pending.letter]
    rw [List.cons_append, lexFrom, lexFrom, ih hnext fun d hd => h d (List.mem_cons_of_mem _ hd),
      List.append_assoc]

/-- A quoted name is one token, whatever follows. -/
theorem Identifier.lexFrom_quoted (i : Identifier) (rest : List Char) :
    lexFrom .gap (i.quoted.toList ++ rest) = .name i.name :: lexFrom .gap rest := by
  -- a name goes on up to its closing quote, whatever else it holds
  have hread : ∀ (cs letters : List Char), '"' ∉ cs →
      lexFrom (.name letters) (cs ++ '"' :: rest) =
        .name (String.ofList (letters.reverse ++ cs)) :: lexFrom .gap rest := by
    intro cs
    induction cs with
    | nil => intro letters _; rw [List.append_nil]; rfl
    | cons c cs ih =>
      intro letters h
      have hc : c ≠ '"' := fun heq => h (heq ▸ List.mem_cons_self)
      have hstep : lexStep (.name letters) c = ([], .name (c :: letters)) := by simp [lexStep, hc]
      rw [List.cons_append, lexFrom, hstep, List.nil_append,
        ih (c :: letters) fun hmem => h (List.mem_cons_of_mem _ hmem), List.reverse_cons,
        List.append_assoc]
      rfl
  have hname : '"' ∉ i.name.toList := i.notMem_name (by decide)
  rw [i.toList_quoted, List.cons_append, List.append_assoc]
  show lexFrom (.name []) (i.name.toList ++ '"' :: rest) = _
  rw [hread _ _ hname, List.reverse_nil, List.nil_append, String.ofList_toList]

/-! ## Placeholders -/

/-- The tokens of a type's name behind its first word. -/
def ColumnType.laterTokens (t : ColumnType) : List Token :=
  lexFrom .gap (t.name.toList.dropWhile (· != ' '))

/-- The tokens of a placeholder: the placeholder, and what the name of its type goes on with. -/
def Slot.tokens (number : Nat) (s : Slot) : List Token :=
  .placeholder number s.cast.isSome :: s.cast.elim [] ColumnType.laterTokens

/-- A word of `$` and digits is a placeholder. -/
theorem placeholder?_number (number : Nat) {cs : List Char}
    (hcs : ∀ c ∈ cs.head?, c.isDigit = false) :
    placeholder? ('$' :: ((toString number).toList ++ cs)) = numbered? number cs := by
  obtain ⟨htake, hdrop⟩ := span_toString number hcs
  -- decimal digits are read back as the number
  have hnumber : Nat.ofDigitChars 10 (toString number).toList 0 = number := by
    rw [show toString number = number.repr from rfl, Nat.toList_repr]
    exact Nat.ofDigitChars_toDigits (by omega) (by omega)
  have hne : (toString number).toList ≠ [] := by
    rw [show toString number = number.repr from rfl, Nat.toList_repr]
    exact Nat.toDigits_ne_nil
  simp only [placeholder?, htake, hdrop, if_neg hne, hnumber]

theorem isMark_of_isDigit {c : Char} (h : c.isDigit = true) : isMark c = false := by
  simp only [isMark, Bool.or_eq_false_iff, beq_eq_false_iff_ne]
  refine ⟨⟨⟨⟨?_, ?_⟩, ?_⟩, ?_⟩, ?_⟩ <;> (rintro rfl; revert h; decide)

theorem isMark_of_isTypeChar {c : Char} (h : isTypeChar c = true) (hblank : c ≠ ' ') :
    isMark c = false := by
  simp only [isMark, Bool.or_eq_false_iff, beq_eq_false_iff_ne]
  refine ⟨⟨⟨⟨hblank, ?_⟩, ?_⟩, ?_⟩, ?_⟩ <;> (rintro rfl; revert h; decide)

/-- The name of a type is its first word, and behind it a blank or nothing. -/
theorem ColumnType.exists_words (t : ColumnType) : ∃ first later,
    t.name.toList = first ++ later ∧ (∀ c ∈ first, isMark c = false) ∧
      (∀ c ∈ later, isTypeChar c = true) ∧ Stops later ∧ t.laterTokens = lexFrom .gap later := by
  have hsplit : t.name.toList =
      t.name.toList.takeWhile (· != ' ') ++ t.name.toList.dropWhile (· != ' ') :=
    List.takeWhile_append_dropWhile.symm
  refine ⟨_, _, hsplit, fun c hmem => ?_, fun c hmem => ?_, fun c hc => ?_, rfl⟩
  · have hblank : (c != ' ') = true := List.all_eq_true.mp List.all_takeWhile c hmem
    have htype := t.isTypeChar_of_mem (List.takeWhile_subset _ hmem)
    exact isMark_of_isTypeChar htype (by simpa using hblank)
  · exact t.isTypeChar_of_mem (hsplit ▸ List.mem_append_right _ hmem)
  · have hblank := List.head?_dropWhile_not (· != ' ') t.name.toList
    rw [Option.mem_def.mp hc] at hblank
    have : c = ' ' := by simpa using hblank
    rw [this]
    rfl

/-- A word that starts with `$`, in front of what ends it. -/
theorem lexFrom_dollar {cs rest : List Char} (hcs : ∀ c ∈ cs, isMark c = false)
    (hrest : Stops rest) :
    lexFrom .gap ('$' :: (cs ++ rest)) = wordToken ('$' :: cs) :: lexFrom .gap rest := by
  show lexFrom (.word ['$']) (cs ++ rest) = _
  rw [lexFrom_letters hcs, lexFrom_word _ hrest]
  simp

/-- The tokens of a placeholder's text, in front of what ends it. -/
theorem Slot.lexFrom_text (s : Slot) (number : Nat) {rest : List Char} (hrest : Stops rest) :
    lexFrom .gap ((s.text number).toList ++ rest) = s.tokens number ++ lexFrom .gap rest := by
  have hnumber : ∀ c ∈ (toString number).toList, isMark c = false :=
    fun c hmem => isMark_of_isDigit (isDigit_of_mem_toString hmem)
  rw [s.toList_text]
  obtain ⟨cast, value⟩ := s
  cases cast with
  | none =>
    rw [Option.map_none, castChars, List.append_nil, List.cons_append, lexFrom_dollar hnumber hrest,
      wordToken, ← List.append_nil (toString number).toList, placeholder?_number number (by simp)]
    rfl
  | some type =>
    -- the first word of the type's name stands in the placeholder's word
    obtain ⟨first, later, hsplit, hfirst, hlater, hstops, htokens⟩ := type.exists_words
    have hmarks : ∀ c ∈ (toString number).toList ++ ':' :: ':' :: first, isMark c = false := by
      intro c hmem
      simp only [List.mem_append, List.mem_cons] at hmem
      rcases hmem with hmem | rfl | rfl | hmem
      · exact hnumber c hmem
      · rfl
      · rfl
      · exact hfirst c hmem
    have hbehind : Stops (later ++ rest) := by
      cases later with
      | nil => exact hrest
      | cons c cs => exact stops_cons (hstops c rfl)
    have htext : '$' :: ((toString number).toList ++ castChars (some type.name)) ++ rest =
        '$' :: ((toString number).toList ++ ':' :: ':' :: first ++ (later ++ rest)) := by
      rw [castChars, hsplit]
      simp
    rw [Option.map_some, htext, lexFrom_dollar hmarks hbehind, lexFrom_append (by simp) hlater hrest,
      wordToken, placeholder?_number number (by simp), ← htokens]
    rfl

/-! ## Predicates -/

/-- The tokens of placeholders in a list, without its parentheses. -/
def Slot.listTokens (first : Nat) : List Slot → List Token
  | [] => []
  | [s] => s.tokens first
  | s :: t :: rest => s.tokens first ++ .comma :: listTokens (first + 1) (t :: rest)

theorem Slot.lexFrom_list (first : Nat) (operands : List Slot) {rest : List Char}
    (hrest : Stops rest) :
    lexFrom .gap ((String.intercalate ", " (Predicate.placeholders first operands)).toList ++ rest)
      = listTokens first operands ++ lexFrom .gap rest := by
  induction operands generalizing first with
  | nil => rfl
  | cons s tail ih =>
    cases tail with
    | nil =>
      rw [Predicate.placeholders, Predicate.placeholders, String.intercalate_singleton]
      exact s.lexFrom_text first hrest
    | cons t tail =>
      have hcomma : ∀ cs, lexFrom .gap (", ".toList ++ cs) = .comma :: lexFrom .gap cs :=
        fun cs => rfl
      have hstops : ∀ cs, Stops (", ".toList ++ cs) := fun cs => stops_cons rfl
      rw [Predicate.placeholders, Predicate.placeholders, String.intercalate_cons_cons,
        String.toList_append, String.toList_append, List.append_assoc, List.append_assoc,
        s.lexFrom_text first (hstops _), hcomma, ← Predicate.placeholders, ih, listTokens,
        List.append_assoc]
      rfl

namespace Predicate

mutual

/-- The tokens of a predicate's text. -/
def tokens (first : Nat) : Predicate → List Token
  | .constant holds => [.constant holds]
  | .nullity column true => [.name column.name, .is, .null]
  | .nullity column false => [.name column.name, .is, .not, .null]
  | .compare column comparison operand =>
    .name column.name :: .comparison comparison :: operand.tokens first
  | .membership column isIn operands =>
    .name column.name :: ((if isIn then [.isIn] else [.not, .isIn]) ++
      .opening :: (Slot.listTokens first operands ++ [.closing]))
  | .group junction parts => .opening :: (tokensOf junction first parts ++ [.closing])

/-- The tokens of predicates with a junction between each two. -/
def tokensOf (j : Junction) (first : Nat) : List Predicate → List Token
  | [] => []
  | p :: rest => tokens first p ++ laterTokens j (first + (slots p).length) rest

/-- The tokens of predicates, each behind a junction. -/
def laterTokens (j : Junction) (first : Nat) : List Predicate → List Token
  | [] => []
  | p :: rest => .junction j :: (tokens first p ++ laterTokens j (first + (slots p).length) rest)

end

/-- The text of predicates, each behind a junction. -/
def laterText (j : Junction) (first : Nat) : List Predicate → List Char
  | [] => []
  | p :: rest =>
    j.joiner.toList ++ ((text first p).toList ++ laterText j (first + (slots p).length) rest)

theorem toList_intercalate_texts (j : Junction) (first : Nat) (p : Predicate)
    (rest : List Predicate) :
    (String.intercalate j.joiner (texts first (p :: rest))).toList =
      (text first p).toList ++ laterText j (first + (slots p).length) rest := by
  induction rest generalizing first p with
  | nil =>
    rw [texts, texts, String.intercalate_singleton, laterText, List.append_nil]
  | cons q rest ih =>
    rw [texts, texts, String.intercalate_cons_cons, String.toList_append, String.toList_append,
      ← texts, ih, laterText, List.append_assoc]

/-- What follows a predicate in a junction ends its last word. -/
theorem stops_laterText (j : Junction) (first : Nat) (ps : List Predicate) {rest : List Char}
    (hrest : Stops rest) : Stops (laterText j first ps ++ rest) := by
  cases ps with
  | nil => exact hrest
  | cons p ps => cases j <;> exact stops_cons rfl

theorem lexFrom_comparison (c : Comparison) (rest : List Char) :
    lexFrom .gap ((" " ++ c.token ++ " ").toList ++ rest) =
      .comparison c :: lexFrom .gap rest := by
  cases c <;> rfl

theorem lexFrom_joiner (j : Junction) (rest : List Char) :
    lexFrom .gap (j.joiner.toList ++ rest) = .junction j :: lexFrom .gap rest := by
  cases j <;> rfl

mutual

/-- **The tokens of a predicate's text**, in front of what ends a word. -/
theorem lexFrom_text : ∀ (first : Nat) (p : Predicate) (rest : List Char), Stops rest →
    lexFrom .gap ((p.text first).toList ++ rest) = p.tokens first ++ lexFrom .gap rest
  | _, .constant true, _, hrest => by
    rw [text, tokens]
    exact lexFrom_word ['1', '=', '1'] hrest
  | _, .constant false, _, hrest => by
    rw [text, tokens]
    exact lexFrom_word ['0', '=', '1'] hrest
  | first, .nullity column true, rest, hrest => by
    rw [text, String.toList_append, List.append_assoc, column.lexFrom_quoted]
    exact congrArg (.name column.name :: .is :: ·) (lexFrom_word ['L', 'L', 'U', 'N'] hrest)
  | first, .nullity column false, rest, hrest => by
    rw [text, String.toList_append, List.append_assoc, column.lexFrom_quoted]
    exact congrArg (.name column.name :: .is :: .not :: ·)
      (lexFrom_word ['L', 'L', 'U', 'N'] hrest)
  | first, .compare column comparison operand, rest, hrest => by
    have htext : (text first (.compare column comparison operand)).toList ++ rest =
        column.quoted.toList ++ ((" " ++ comparison.token ++ " ").toList ++
          ((operand.text first).toList ++ rest)) := by
      simp only [text, String.toList_append, List.append_assoc]
    rw [htext, column.lexFrom_quoted, lexFrom_comparison, operand.lexFrom_text first hrest]
    rfl
  | first, .membership column isIn operands, rest, hrest => by
    -- the keyword in front of the list is one token or two
    have hkeyword : ∀ cs, lexFrom .gap ((if isIn then " IN (" else " NOT IN (").toList ++ cs) =
        (if isIn then [.isIn] else [.not, .isIn]) ++ .opening :: lexFrom .gap cs := by
      intro cs
      cases isIn <;> rfl
    have hclose : lexFrom .gap (")".toList ++ rest) = .closing :: lexFrom .gap rest := rfl
    have hstops : Stops (")".toList ++ rest) := stops_cons rfl
    have htext : (text first (.membership column isIn operands)).toList ++ rest =
        column.quoted.toList ++ ((if isIn then " IN (" else " NOT IN (").toList ++
          ((String.intercalate ", " (placeholders first operands)).toList ++
            (")".toList ++ rest))) := by
      simp only [text, String.toList_append, List.append_assoc]
    rw [htext, column.lexFrom_quoted, hkeyword, Slot.lexFrom_list first operands hstops,
      hclose, tokens]
    simp only [List.cons_append, List.nil_append, List.append_assoc]
  | first, .group j parts, rest, hrest => by
    have hclose : lexFrom .gap (")".toList ++ rest) = .closing :: lexFrom .gap rest := rfl
    have hstops : Stops (")".toList ++ rest) := stops_cons rfl
    have hparts := lexFrom_texts first j parts (")".toList ++ rest) hstops
    have htext : (text first (.group j parts)).toList ++ rest =
        "(".toList ++ ((String.intercalate j.joiner (texts first parts)).toList ++
          (")".toList ++ rest)) := by
      simp only [text, String.toList_append, List.append_assoc]
    have hopen : ∀ cs, lexFrom .gap ("(".toList ++ cs) = .opening :: lexFrom .gap cs :=
      fun cs => rfl
    rw [htext, hopen, hparts, hclose, tokens, List.cons_append, List.append_assoc]
    rfl

/-- The tokens of predicates that are joined. -/
theorem lexFrom_texts : ∀ (first : Nat) (j : Junction) (ps : List Predicate) (rest : List Char),
    Stops rest →
    lexFrom .gap ((String.intercalate j.joiner (texts first ps)).toList ++ rest) =
      tokensOf j first ps ++ lexFrom .gap rest
  | first, j, [], rest, hrest => rfl
  | first, j, p :: ps, rest, hrest => by
    rw [toList_intercalate_texts, List.append_assoc,
      lexFrom_text first p _ (stops_laterText j _ ps hrest), lexFrom_laterText _ j ps rest hrest,
      tokensOf, List.append_assoc]

/-- The tokens of predicates that each stand behind a junction. -/
theorem lexFrom_laterText : ∀ (first : Nat) (j : Junction) (ps : List Predicate)
    (rest : List Char), Stops rest →
    lexFrom .gap (laterText j first ps ++ rest) = laterTokens j first ps ++ lexFrom .gap rest
  | first, j, [], rest, hrest => rfl
  | first, j, p :: ps, rest, hrest => by
    rw [laterText, List.append_assoc, List.append_assoc, lexFrom_joiner,
      lexFrom_text first p _ (stops_laterText j _ ps hrest), lexFrom_laterText _ j ps rest hrest,
      laterTokens, List.cons_append, List.append_assoc]

end

end Predicate

end Rowgate.Sql
