import Rowgate.Proofs.Formula
import Rowgate.Proofs.Lexer
/-
Reading a condition by precedence.

The reader goes through the tokens once, with a stack of parentheses: for each that is open, the
disjunction so far and, as `AND` binds tighter, the conjunction that is still going on. Everything
else it remembers is the mode: what has been read of an atom. A word that is no keyword goes on
with the name of a type and is allowed nowhere else.

`Predicate.read_text` says that the reader gets the predicate's formula back from its text. A group
is read as one operand because its text is in parentheses; without them a disjunction in a
conjunction would come apart.
-/
set_option autoImplicit false

namespace Rowgate.Sql

/-! ## The reader -/

/-- What was read since a parenthesis was opened. -/
structure Frame where
  disjunction : Option Formula := none
  conjunction : Option Formula := none

namespace Frame

/-- An operand goes to the conjunction that is going on. -/
def take (f : Frame) (e : Formula) : Frame :=
  { f with conjunction := some (Formula.joinTo .and f.conjunction e) }

/-- The formula of what was read. -/
def close (f : Frame) : Option Formula := f.conjunction.map (Formula.joinTo .or f.disjunction)

/-- A junction follows an operand: `OR` ends the conjunction. -/
def connect (f : Frame) : Junction → Frame
  | .and => f
  | .or => { disjunction := f.close }

end Frame

/-- What the reader expects. -/
inductive Mode where
  | operand
  /-- a junction or a closing parenthesis, perhaps behind the rest of a type's name -/
  | operator (inType : Bool)
  | column (name : String)
  | is (name : String)
  | isNot (name : String)
  | not (name : String)
  | compare (name : String) (comparison : Comparison)
  | list (name : String) (isIn : Bool)
  | item (name : String) (isIn : Bool) (numbers : List Nat)
  | separator (name : String) (isIn : Bool) (numbers : List Nat) (inType : Bool)
deriving DecidableEq

structure Reader where
  frame : Frame := {}
  outer : List Frame := []
  mode : Mode := .operand

namespace Reader

/-- The operand of a junction has been read. -/
def take (r : Reader) (e : Formula) (inType : Bool) : Reader :=
  { r with frame := r.frame.take e, mode := .operator inType }

/-- A closing parenthesis: the formula inside is an operand of what stands around it. -/
def leave (r : Reader) : Option Reader :=
  match r.outer, r.frame.close with
  | frame :: outer, some e => some (take { frame, outer } e false)
  | _, _ => none

/-- One token. -/
def step (r : Reader) (t : Token) : Option Reader :=
  match r.mode, t with
  | .operand, .opening => some { outer := r.frame :: r.outer }
  | .operand, .constant holds => some (r.take (.constant holds) false)
  | .operand, .name column => some { r with mode := .column column }
  | .operator _, .junction j => some { r with frame := r.frame.connect j, mode := .operand }
  | .operator _, .closing => r.leave
  | .operator true, .other => some r
  | .column c, .is => some { r with mode := .is c }
  | .column c, .not => some { r with mode := .not c }
  | .column c, .isIn => some { r with mode := .list c true }
  | .column c, .comparison k => some { r with mode := .compare c k }
  | .is c, .null => some (r.take (.atom (.nullity c true)) false)
  | .is c, .not => some { r with mode := .isNot c }
  | .isNot c, .null => some (r.take (.atom (.nullity c false)) false)
  | .not c, .isIn => some { r with mode := .list c false }
  | .compare c k, .placeholder n cast => some (r.take (.atom (.compare c k n)) cast)
  | .list c isIn, .opening => some { r with mode := .item c isIn [] }
  | .item c isIn ns, .placeholder n cast =>
    some { r with mode := .separator c isIn (ns ++ [n]) cast }
  | .separator c isIn ns _, .comma => some { r with mode := .item c isIn ns }
  | .separator c isIn ns _, .closing => some (r.take (.atom (.membership c isIn ns)) false)
  | .separator _ _ _ true, .other => some r
  | _, _ => none

/-- Tokens, one after the other. -/
def run (r : Reader) (ts : List Token) : Option Reader := ts.foldlM step r

/-- The formula that was read, if nothing is left open. -/
def finish (r : Reader) : Option Formula :=
  match r.outer, r.mode with
  | [], .operator _ => r.frame.close
  | _, _ => none

theorem run_append (r : Reader) (ts us : List Token) :
    r.run (ts ++ us) = (r.run ts).bind fun r => r.run us := by
  rw [run, List.foldlM_append]
  rfl

theorem run_cons (r : Reader) (t : Token) (ts : List Token) :
    r.run (t :: ts) = (r.step t).bind fun r => r.run ts := by
  rw [run, List.foldlM_cons]
  rfl

end Reader

/-- The formula of a text, if it is a condition. -/
def read (text : String) : Option Formula := (Reader.run {} (lex text)).bind Reader.finish

/-! ## What can be read -/

/-- A name of a type that has no keyword behind its first word. -/
def PlainType (name : String) : Prop :=
  ∀ word ∈ lexFrom .gap (name.toList.dropWhile (· != ' ')), word = .other

/-- A name that is a single word is plain. -/
theorem plainType_of_noSpace {name : String} (h : ' ' ∉ name.toList) : PlainType name := by
  intro word hword
  rw [← List.append_nil name.toList, List.dropWhile_append_of_pos (bne_of_notMem h)] at hword
  cases hword

/-- The cast of a slot has no keyword in it. -/
def Slot.IsPlain (s : Slot) : Prop := ∀ t ∈ s.cast, PlainType t.name

namespace Predicate

mutual

/-- A predicate whose groups and lists have members and whose types have no keywords in them. -/
def Readable : Predicate → Prop
  | .constant _ => True
  | .nullity _ _ => True
  | .compare _ _ operand => operand.IsPlain
  | .membership _ _ operands => operands ≠ [] ∧ ∀ s ∈ operands, s.IsPlain
  | .group _ parts => parts ≠ [] ∧ AllReadable parts

def AllReadable : List Predicate → Prop
  | [] => True
  | p :: rest => Readable p ∧ AllReadable rest

end

end Predicate

/-! ## Reading back -/

namespace Reader

/-- The rest of a type's name changes nothing. -/
theorem run_others {r : Reader} {ts : List Token} (hmode : ∃ m, r.mode = m ∧
      (m = .operator true ∨ ∃ c isIn ns, m = .separator c isIn ns true))
    (hts : ∀ t ∈ ts, t = .other) : r.run ts = some r := by
  induction ts with
  | nil => rfl
  | cons t ts ih =>
    obtain rfl := hts t List.mem_cons_self
    have hstep : r.step .other = some r := by
      obtain ⟨frame, outer, mode⟩ := r
      obtain ⟨m, rfl, rfl | ⟨c, isIn, ns, rfl⟩⟩ := hmode <;> rfl
    rw [run_cons, hstep]
    exact ih fun t ht => hts t (List.mem_cons_of_mem _ ht)

/-- What follows a plain placeholder in its type's name changes nothing. -/
theorem run_laterTokens {s : Slot} (hplain : s.IsPlain) {r : Reader}
    (hmode : s.cast.isSome = true → ∃ m, r.mode = m ∧
      (m = .operator true ∨ ∃ c isIn ns, m = .separator c isIn ns true)) :
    r.run (s.cast.elim [] ColumnType.laterTokens) = some r := by
  cases hcast : s.cast with
  | none => rfl
  | some type =>
    exact run_others (hmode (by rw [hcast]; rfl)) (hplain type hcast)

/-- The placeholders of a list are read one after the other. -/
theorem run_listTokens (frame : Frame) (outer : List Frame) (c : String) (isIn : Bool)
    (operands : List Slot) (hne : operands ≠ []) (hplain : ∀ s ∈ operands, s.IsPlain) :
    ∀ (first : Nat) (ns : List Nat), ∃ inType,
      run ⟨frame, outer, .item c isIn ns⟩ (Slot.listTokens first operands) =
        some ⟨frame, outer,
          .separator c isIn (ns ++ List.range' first operands.length) inType⟩ := by
  induction operands with
  | nil => exact absurd rfl hne
  | cons s tail ih =>
    intro first ns
    have hs : s.IsPlain := hplain s List.mem_cons_self
    -- a comma or a parenthesis may follow the placeholder, or more of its type's name
    have hone : run ⟨frame, outer, .item c isIn ns⟩ (s.tokens first) =
        some ⟨frame, outer, .separator c isIn (ns ++ [first]) s.cast.isSome⟩ := by
      rw [Slot.tokens, run_cons]
      refine run_laterTokens hs fun hcast => ⟨_, rfl, .inr ⟨c, isIn, ns ++ [first], ?_⟩⟩
      rw [hcast]
    cases tail with
    | nil => exact ⟨_, hone⟩
    | cons t tail =>
      obtain ⟨inType, hrest⟩ := ih (by simp)
        (fun u hu => hplain u (List.mem_cons_of_mem _ hu)) (first + 1) (ns ++ [first])
      refine ⟨inType, ?_⟩
      rw [Slot.listTokens, run_append, hone, Option.bind_some, run_cons]
      refine hrest.trans ?_
      rw [List.append_assoc, List.length_cons, List.range'_succ]
      rfl

end Reader

/-- What was read of a junction before its next operand. -/
def Frame.behind (j : Junction) (before : Option Formula) : Frame :=
  match j with
  | .and => { conjunction := before }
  | .or => { disjunction := before }

theorem Frame.close_take_behind (j : Junction) (before : Option Formula) (e : Formula) :
    ((behind j before).take e).close = some (Formula.joinTo j before e) := by
  cases j <;> rfl

theorem Frame.connect_take_behind (j : Junction) (before : Option Formula) (e : Formula) :
    ((behind j before).take e).connect j = behind j (some (Formula.joinTo j before e)) := by
  cases j <;> rfl

namespace Predicate

mutual

/-- **A predicate is read as one operand**: its formula. -/
theorem run_tokens : ∀ (p : Predicate), p.Readable → ∀ (first : Nat) (frame : Frame)
    (outer : List Frame), ∃ inType,
    Reader.run ⟨frame, outer, .operand⟩ (p.tokens first) =
      some ⟨frame.take (p.formula first), outer, .operator inType⟩
  | .constant holds, _, first, frame, outer => ⟨false, rfl⟩
  | .nullity column true, _, first, frame, outer => ⟨false, rfl⟩
  | .nullity column false, _, first, frame, outer => ⟨false, rfl⟩
  | .compare column comparison operand, hreadable, first, frame, outer => by
    refine ⟨operand.cast.isSome, ?_⟩
    refine Reader.run_laterTokens hreadable fun hcast => ⟨_, rfl, .inl ?_⟩
    exact congrArg Mode.operator hcast
  | .membership column isIn operands, hreadable, first, frame, outer => by
    obtain ⟨inType, hlist⟩ := Reader.run_listTokens frame outer column.name isIn operands
      hreadable.1 hreadable.2 first []
    have hstart : Reader.run ⟨frame, outer, .operand⟩ (tokens first
        (.membership column isIn operands)) = Reader.run ⟨frame, outer, .item column.name isIn []⟩
          (Slot.listTokens first operands ++ [.closing]) := by
      cases isIn <;> rfl
    refine ⟨false, ?_⟩
    rw [hstart, Reader.run_append, hlist]
    rfl
  | .group j [], hreadable, first, frame, outer => absurd rfl hreadable.1
  | .group j (p :: ps), hreadable, first, frame, outer => by
    obtain ⟨hp, hps⟩ := hreadable.2
    obtain ⟨inType, hone⟩ := run_tokens p hp first (Frame.behind j none) (frame :: outer)
    obtain ⟨inner, inType', hrest, hclose⟩ := run_laterTokens j ps hps
      (first + (slots p).length) none (p.formula first) (frame :: outer) inType
    -- inside the parenthesis nothing has been read, which is where both junctions start
    have hstart : Reader.run ⟨frame, outer, .operand⟩ (tokens first (.group j (p :: ps))) =
        Reader.run ⟨Frame.behind j none, frame :: outer, .operand⟩
          (tokens first p ++ (laterTokens j (first + (slots p).length) ps ++ [.closing])) := by
      rw [tokens, tokensOf, List.append_assoc]
      cases j <;> rfl
    have hformula : Formula.joinFrom j none (formulas first (p :: ps)) = inner.close := by
      rw [formulas, Formula.joinFrom, ← hclose]
    cases hinner : inner.close with
    | none =>
      -- at least the first member was read
      obtain ⟨e, hjoin, _⟩ := Formula.value_joinFrom j (p.formula first)
        (formulas (first + (slots p).length) ps)
      rw [hinner] at hclose
      rw [Formula.joinTo, hjoin] at hclose
      cases hclose
    | some e =>
      refine ⟨false, ?_⟩
      rw [hstart, Reader.run_append, hone, Option.bind_some, Reader.run_append, hrest,
        Option.bind_some, formula, hformula, hinner, Option.getD_some, Reader.run_cons]
      simp only [Reader.step, Reader.leave, hinner]
      rfl

/-- Predicates that each stand behind a junction are joined to what was read before. -/
theorem run_laterTokens (j : Junction) : ∀ (ps : List Predicate), AllReadable ps →
    ∀ (first : Nat) (before : Option Formula) (e : Formula) (outer : List Frame) (inType : Bool),
    ∃ frame inType', Reader.run ⟨(Frame.behind j before).take e, outer, .operator inType⟩
        (laterTokens j first ps) = some ⟨frame, outer, .operator inType'⟩ ∧
      frame.close = Formula.joinFrom j (some (Formula.joinTo j before e)) (formulas first ps)
  | [], _, first, before, e, outer, inType =>
    ⟨_, inType, rfl, Frame.close_take_behind j before e⟩
  | p :: ps, hreadable, first, before, e, outer, inType => by
    obtain ⟨hp, hps⟩ := hreadable
    obtain ⟨inType₁, hone⟩ := run_tokens p hp first
      (Frame.behind j (some (Formula.joinTo j before e))) outer
    obtain ⟨frame, inType₂, hrest, hclose⟩ := run_laterTokens j ps hps
      (first + (slots p).length) (some (Formula.joinTo j before e)) (p.formula first) outer inType₁
    refine ⟨frame, inType₂, ?_, hclose⟩
    -- the junction closes what was read, and the next operand is joined to it
    have hjunction : Reader.step ⟨(Frame.behind j before).take e, outer, .operator inType⟩
        (.junction j) =
          some ⟨Frame.behind j (some (Formula.joinTo j before e)), outer, .operand⟩ := by
      rw [← Frame.connect_take_behind]
      rfl
    rw [laterTokens, Reader.run_cons, hjunction, Option.bind_some, Reader.run_append, hone,
      Option.bind_some, hrest]

end

/-- **Conjunctions are read back.** What stands behind `WHERE ` is a condition, and its formula is
that of the predicates, joined by `AND`. -/
theorem read_conjunction {ps : List Predicate} (hne : ps ≠ []) (hreadable : AllReadable ps)
    (first : Nat) :
    read (String.intercalate " AND " (texts first ps)) =
      Formula.joinFrom .and none (formulas first ps) := by
  cases ps with
  | nil => exact absurd rfl hne
  | cons p ps =>
    obtain ⟨hp, hps⟩ := hreadable
    have hnil : Stops [] := fun c hc => by cases hc
    have hlex := lexFrom_texts first .and (p :: ps) [] hnil
    rw [List.append_nil, lexFrom, Pending.finish, List.append_nil, tokensOf] at hlex
    obtain ⟨inType, hone⟩ := run_tokens p hp first {} []
    obtain ⟨frame, inType', hrest, hclose⟩ := run_laterTokens .and ps hps
      (first + (slots p).length) none (p.formula first) [] inType
    have hrun : Reader.run {} (lex (String.intercalate " AND " (texts first (p :: ps)))) =
        some ⟨frame, [], .operator inType'⟩ := by
      rw [lex]
      refine (congrArg (Reader.run {}) hlex).trans ?_
      rw [Reader.run_append, hone]
      exact hrest
    rw [read, hrun, Option.bind_some, Reader.finish, hclose, formulas, Formula.joinFrom]

/-- Without parentheses `AND` binds tighter than `OR`, so a group needs them. -/
example : read "\"a\" = $1 OR \"b\" IS NULL AND 1=0" =
    some (.join .or (.atom (.compare "a" .eq 1))
      (.join .and (.atom (.nullity "b" true)) (.constant false))) := by
  rfl

end Predicate

end Rowgate.Sql
