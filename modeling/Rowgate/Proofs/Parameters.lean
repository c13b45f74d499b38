import Rowgate.Proofs.Literals
import Rowgate.Proofs.Offenders
import Rowgate.Proofs.SingleRow
/-
The parameters that integers are sent as.

There are two types for integers, of 32 and of 64 bits with a sign, and an integer is sent as the
narrower one that holds it. What is sent is told by the builder alone: one parameter for each
operand, in their order, in whichever of the ways the statement is run. So an integer that is given
anywhere in a builder arrives as itself (`Builder.integers_sent`).

JSON integers go on to 2 ^ 64, where the wider type ends at 2 ^ 63. What is past its end is sent as a
double. There doubles stand 2048 apart, so integers are rounded, and different ones are sent as the
same double.
-/
set_option autoImplicit false

namespace Rowgate

/-! ## Doubles past 63 bits -/

/-- The `m`-th multiple of 2048 is the nearest to `n`, and the one of an even `m` if two are equally
near. -/
structure NearestStep (n m : Nat) : Prop where
  above : n ≤ 2048 * m + 1024
  below : 2048 * m ≤ n + 1024
  even : n = 2048 * m + 1024 ∨ 2048 * m = n + 1024 → m % 2 = 0

theorem nearestStep_iff {n m : Nat} : NearestStep n m ↔ roundHalfEven n 2048 = m := by
  unfold roundHalfEven
  constructor
  · rintro ⟨habove, hbelow, heven⟩
    dsimp only
    split_ifs <;> omega
  · rintro rfl
    dsimp only
    split_ifs <;> constructor <;> omega

theorem NearestStep.ge {n m : Nat} (h : NearestStep n m) (hlow : 2 ^ 63 ≤ n) : 2 ^ 52 ≤ m := by
  have habove := h.above
  omega

theorem NearestStep.le {n m : Nat} (h : NearestStep n m) (hhigh : n < 2 ^ 64) : m ≤ 2 ^ 53 := by
  have hbelow := h.below
  omega

namespace Binary

variable {n m : Nat}

theorem binaryExponent_eq (hlow : 2 ^ 63 ≤ n) (hhigh : n < 2 ^ 64) :
    FloatFormat.binaryExponent n 1 = 63 := by
  have hlog : n.log2 = 63 := (Nat.log2_eq_iff (by omega)).mpr ⟨hlow, hhigh⟩
  have hone : Nat.log2 1 = 0 := by decide
  have hle : 1 * twoTo 63 ≤ n * twoTo 0 := by
    show 1 * 2 ^ 63 ≤ n * 2 ^ 0
    omega
  -- the estimate by the logarithms needs no correction
  rw [FloatFormat.binaryExponent, hlog, hone]
  exact if_pos hle

/-- The double of an integer of 64 bits, the highest of which is set. -/
theorem ofInt_eq (hlow : 2 ^ 63 ≤ n) (hhigh : n < 2 ^ 64) (h : NearestStep n m) :
    (ofInt n : Double) = ⟨1085 * 2 ^ 52 + m⟩ := by
  have hround : roundHalfEven (n * twoTo 0) (1 * twoTo 11) = m := by
    rw [show n * twoTo 0 = n from Nat.mul_one n]
    exact nearestStep_iff.mp h
  have hbits : FloatFormat.double.roundBits n 1 = 1085 * 2 ^ 52 + m := by
    -- the quantum is two to the 11, and what is rounded up stays far below infinity
    have hle := h.le hhigh
    rw [FloatFormat.roundBits, if_neg (by omega), binaryExponent_eq hlow hhigh]
    show min (1085 * 2 ^ 52 + roundHalfEven (n * twoTo 0) (1 * twoTo 11)) (2047 * 2 ^ 52) = _
    rw [hround]
    omega
  have hsign : ¬((n : Int) < 0) := by omega
  rw [ofInt, ofRatio, Int.natAbs_natCast, hbits, signed, decide_eq_false hsign]
  rfl

theorem isNegative_step (hhigh : m ≤ 2 ^ 53) :
    (⟨1085 * 2 ^ 52 + m⟩ : Double).isNegative = false := by
  have hweight : ¬2 ^ 63 ≤ 1085 * 2 ^ 52 + m := by omega
  exact decide_eq_false hweight

/-- The value of a double there. The greatest is two to the 64, where the exponent is one more. -/
theorem ratio_step (hlow : 2 ^ 52 ≤ m) (hhigh : m ≤ 2 ^ 53) :
    (⟨1085 * 2 ^ 52 + m⟩ : Double).ratio = (2048 * m, 1) := by
  have hmagnitude : (⟨1085 * 2 ^ 52 + m⟩ : Double).magnitude = 1085 * 2 ^ 52 + m :=
    Nat.mod_eq_of_lt (show 1085 * 2 ^ 52 + m < 2 ^ 63 by omega)
  by_cases hcarry : m = 2 ^ 53
  · -- the carry has gone into the exponent field
    subst hcarry
    decide
  · have hparts : (⟨1085 * 2 ^ 52 + m⟩ : Double).parts = (m, 11) := by
      have hstored : (1085 * 2 ^ 52 + m) / 2 ^ 52 = 1086 := by omega
      have hfraction : (1085 * 2 ^ 52 + m) % 2 ^ 52 = m - 2 ^ 52 := by omega
      have hwidth : twoTo 52 = 2 ^ 52 := rfl
      have hm : twoTo 52 + (m - 2 ^ 52) = m := by
        rw [hwidth]
        omega
      have hfields : (1085 * 2 ^ 52 + m) / twoTo FloatFormat.double.fractionBits = 1086 ∧
          (1085 * 2 ^ 52 + m) % twoTo FloatFormat.double.fractionBits = m - 2 ^ 52 :=
        ⟨hstored, hfraction⟩
      rw [parts, hmagnitude, hfields.1, hfields.2]
      exact congrArg (·, (11 : Int)) hm
    rw [ratio, hparts]
    exact Prod.ext (Nat.mul_comm m 2048) rfl

/-- A significand has 53 bits. -/
theorem parts_lt (x : Double) : x.parts.1 < 2 ^ 53 := by
  have hfraction : x.magnitude % twoTo FloatFormat.double.fractionBits < 2 ^ 52 :=
    Nat.mod_lt _ (Nat.two_pow_pos 52)
  have hwidth : twoTo FloatFormat.double.fractionBits = 2 ^ 52 := rfl
  rw [parts]
  split_ifs
  · exact Nat.lt_trans hfraction (by decide)
  · dsimp only
    omega

/-- A double is less than two to the 63, or a multiple of 2048. -/
theorem ratio_cases (x : Double) :
    x.ratio.1 < 2 ^ 63 * x.ratio.2 ∨ ∃ m, x.ratio = (2048 * m, 1) := by
  have hlt := x.parts_lt
  rw [ratio]
  generalize x.parts = p at hlt
  obtain ⟨m, q⟩ := p
  dsimp only at hlt ⊢
  -- from the scale 11 on all are multiples of it, and 53 bits at a smaller one stay below
  by_cases hq : 11 ≤ q
  · right
    obtain ⟨k, rfl⟩ : ∃ k : Nat, q = (11 + k : Nat) := ⟨(q - 11).toNat, by omega⟩
    have hup : twoTo (11 + k) = 2048 * twoTo k := Nat.pow_add 2 11 k
    have hdown : (-((11 + k : Nat) : Int)).toNat = 0 := by omega
    refine ⟨m * twoTo k, ?_⟩
    rw [Int.toNat_natCast, hup, hdown, Nat.mul_left_comm]
  · left
    have hup : twoTo q.toNat ≤ 2 ^ 10 := Nat.pow_le_pow_right (by decide) (by omega)
    have hdown : 0 < twoTo (-q).toNat := Nat.two_pow_pos _
    calc m * twoTo q.toNat ≤ m * 2 ^ 10 := Nat.mul_le_mul_left m hup
      _ < 2 ^ 63 := by omega
      _ ≤ 2 ^ 63 * twoTo (-q).toNat := Nat.le_mul_of_pos_right _ hdown

/-- The magnitude of no double is nearer to `n`. The distances are quotients, compared crosswise. -/
def IsNearest (x : Double) (n : Nat) : Prop :=
  ∀ y : Double, (x.ratio.1 - n * x.ratio.2 : Int).natAbs * y.ratio.2 ≤
    (y.ratio.1 - n * y.ratio.2 : Int).natAbs * x.ratio.2

/-- **Rounding to steps is rounding to doubles**, past 63 bits. -/
theorem isNearest_of_step {x : Double} (hlow : 2 ^ 63 ≤ n) (hvalue : x.ratio = (2048 * m, 1))
    (hstep : NearestStep n m) : x.IsNearest n := by
  intro y
  have habove := hstep.above
  have hbelow := hstep.below
  rw [hvalue]
  dsimp only
  rcases y.ratio_cases with hless | ⟨m', hy⟩
  · -- less near than two to the 63, which is a multiple itself
    have hdist : ((2048 * m : Nat) - n * (1 : Nat) : Int).natAbs ≤ n - 2 ^ 63 := by omega
    have hcast : ((n * y.ratio.2 : Nat) : Int) = n * y.ratio.2 := Int.natCast_mul n y.ratio.2
    calc ((2048 * m : Nat) - n * (1 : Nat) : Int).natAbs * y.ratio.2
        ≤ (n - 2 ^ 63) * y.ratio.2 := Nat.mul_le_mul_right _ hdist
      _ = n * y.ratio.2 - 2 ^ 63 * y.ratio.2 := Nat.sub_mul _ _ _
      _ ≤ (y.ratio.1 - n * y.ratio.2 : Int).natAbs * 1 := by omega
  · rw [hy]
    dsimp only
    omega

end Binary

namespace Sql

/-! ## What conditions bind -/

mutual

/-- The operands of a filter are those of its conditions. -/
theorem Filter.operands_eq : ∀ f : Filter,
    f.operands = f.conditions.flatMap fun c => c.question.values.map (⟨c.field, ·⟩)
  | .condition c => by rw [operands, conditions, List.flatMap_singleton]
  | .group _ filters => by rw [operands, conditions, operandsOf_eq filters]

theorem Filter.operandsOf_eq : ∀ fs : List Filter,
    operandsOf fs = (conditionsOf fs).flatMap fun c => c.question.values.map (⟨c.field, ·⟩)
  | [] => rfl
  | f :: fs => by
    rw [operandsOf, conditionsOf, List.flatMap_append, operands_eq f, operandsOf_eq fs]

end

/-- The value of a comparison is bound. -/
theorem Condition.values_compared {c : Condition} {comparison : Comparison} {v : Json}
    (hoperator : c.operator = .compare comparison) (hvalue : c.value = some v) :
    c.question.values = [v] := by
  rw [question, hoperator, hvalue]
  cases comparison <;> rfl

/-- The elements of a list are bound. -/
theorem Condition.values_elements {c : Condition} {items : List Json}
    (hoperator : c.operator = .isIn ∨ c.operator = .isNotIn)
    (hvalue : c.value = some (.array items)) : c.question.values = items := by
  rw [question, hvalue]
  rcases hoperator with hoperator | hoperator <;> rw [hoperator] <;> cases items <;> rfl

end Sql

namespace Store

/-! ## Integers -/

/-- What an integer is sent as: the narrower of the two types for integers that holds it, and past
both the double that is nearest, which is a multiple of 2048. -/
inductive Param.OfInteger : Int → Param → Prop where
  | int4 {n : Int} (hlow : -(twoTo 31 : Nat) ≤ n) (hhigh : n < (twoTo 31 : Nat)) :
    OfInteger n (.int4 n)
  | int8 {n : Int} (hwide : n < -(twoTo 31 : Nat) ∨ (twoTo 31 : Nat) ≤ n)
    (hlow : -(twoTo 63 : Nat) ≤ n) (hhigh : n < (twoTo 63 : Nat)) : OfInteger n (.int8 n)
  | float8 {n m : Nat} {x : Double} (hlow : twoTo 63 ≤ n) (hhigh : n < twoTo 64)
    (hsign : x.isNegative = false) (hvalue : x.ratio = (2048 * m, 1)) (hstep : NearestStep n m)
    (hnearest : x.IsNearest n) : OfInteger n (.float8 x)

/-- Two integers past 63 bits that the same double is nearest to. -/
def SameStep (n n' : Int) : Prop :=
  ∃ k k' m : Nat, n = k ∧ n' = k' ∧ twoTo 63 ≤ k ∧ twoTo 63 ≤ k' ∧ NearestStep k m ∧
    NearestStep k' m

namespace Param

theorem contains_signed {bits : Nat} {n : Int} :
    (Text.IntegerRange.signed bits).contains n = true ↔
      -(twoTo (bits - 1) : Nat) ≤ n ∧ n < (twoTo (bits - 1) : Nat) := by
  have hpos : 0 < twoTo (bits - 1) := Nat.two_pow_pos _
  have hgreatest : n ≤ (twoTo (bits - 1) - 1 : Nat) ↔ n < (twoTo (bits - 1) : Nat) := by omega
  rw [Text.IntegerRange.contains, Bool.and_eq_true, decide_eq_true_eq, decide_eq_true_eq]
  exact and_congr_right fun _ => hgreatest

/-- An integer that no type holds is sent as a double. -/
theorem ofJson_step {n m : Nat} (hlow : twoTo 63 ≤ n) (hhigh : n < twoTo 64)
    (h : NearestStep n m) : ofJson (.int n) = .float8 ⟨1085 * 2 ^ 52 + m⟩ := by
  have hless : twoTo 31 ≤ twoTo 63 := by decide +kernel
  have hnarrow : ¬(Text.IntegerRange.signed 32).contains n = true := by
    intro hcontains
    have hlt : (n : Int) < (twoTo 31 : Nat) := (contains_signed.mp hcontains).2
    omega
  have hwide : ¬(Text.IntegerRange.signed 64).contains n = true := by
    intro hcontains
    have hlt : (n : Int) < (twoTo 63 : Nat) := (contains_signed.mp hcontains).2
    omega
  rw [ofJson, if_neg hnarrow, if_neg hwide, Binary.ofInt_eq hlow hhigh h]

/-- Every JSON integer is sent as it should be. -/
theorem ofInteger_ofJson {n : Int} (h : Json.Fits n) : OfInteger n (ofJson (.int n)) := by
  by_cases hnarrow : -(twoTo 31 : Nat) ≤ n ∧ n < (twoTo 31 : Nat)
  · rw [ofJson, if_pos (contains_signed.mpr hnarrow)]
    exact .int4 hnarrow.1 hnarrow.2
  by_cases hwide : -(twoTo 63 : Nat) ≤ n ∧ n < (twoTo 63 : Nat)
  · rw [ofJson, if_neg (mt contains_signed.mp hnarrow), if_pos (contains_signed.mpr hwide)]
    exact .int8 (by omega) hwide.1 hwide.2
  · -- neither type holds it, so it is past the end of the wider one
    obtain ⟨hleast, hgreatest⟩ := h
    obtain ⟨k, rfl⟩ := Int.eq_ofNat_of_zero_le (show 0 ≤ n by omega)
    have hlow : twoTo 63 ≤ k := by omega
    have hhigh : k < twoTo 64 := by omega
    have hstep : NearestStep k (roundHalfEven k 2048) := nearestStep_iff.mpr rfl
    have hvalue := Binary.ratio_step (hstep.ge hlow) (hstep.le hhigh)
    rw [ofJson_step hlow hhigh hstep]
    exact .float8 hlow hhigh (Binary.isNegative_step (hstep.le hhigh)) hvalue hstep
      (Binary.isNearest_of_step hlow hvalue hstep)

/-- Integers are sent as one parameter only if they are one, or rounded to one double. -/
theorem ofJson_int_inj {n n' : Int} (h : Json.Fits n) (h' : Json.Fits n') :
    ofJson (.int n) = ofJson (.int n') ↔ n = n' ∨ SameStep n n' := by
  constructor
  · intro heq
    -- what one parameter is sent for is read off it twice
    have hn := ofInteger_ofJson h
    have hn' := ofInteger_ofJson h'
    rw [← heq] at hn'
    generalize ofJson (.int n) = p at hn hn'
    cases hn with
    | int4 => cases hn'; exact .inl rfl
    | int8 => cases hn'; exact .inl rfl
    | @float8 k m _ hlow _ _ hvalue hstep =>
      cases hn' with
      | @float8 k' m' _ hlow' _ _ hvalue' hstep' =>
        -- the double tells the step
        obtain ⟨hm, _⟩ := Prod.mk.inj (hvalue.symm.trans hvalue')
        obtain rfl := Nat.eq_of_mul_eq_mul_left (by decide) hm
        exact .inr ⟨k, k', m, rfl, rfl, hlow, hlow', hstep, hstep'⟩
  · rintro (rfl | ⟨k, k', m, rfl, rfl, hlow, hlow', hstep, hstep'⟩)
    · rfl
    · have hhigh : k < twoTo 64 := Int.ofNat_lt.mp h.2
      have hhigh' : k' < twoTo 64 := Int.ofNat_lt.mp h'.2
      rw [ofJson_step hlow hhigh hstep, ofJson_step hlow' hhigh' hstep']

end Param

/-! ## Statements that are run -/

/-- The builder of a write. -/
def Write.builder : Write → Builder
  | .insert i => .insert i
  | .update u => .update u
  | .delete d => .delete d

/-- The ways to run a builder, by what each makes of a session. -/
inductive Builder.Runs : Builder → (Session → Session) → Prop where
  | fetchAll (s : Select) : Runs (.select s) fun session => (s.fetchAll session).2
  | fetchOne (s : Select) : Runs (.select s) fun session => (s.fetchOne session).2
  | fetchOptional (s : Select) : Runs (.select s) fun session => (s.fetchOptional session).2
  | count (s : Select) : Runs (.count s) fun session => (s.count session).2
  | execute (w : Write) : Runs w.builder fun session => (w.execute session).2
  | fetchReturning {ρ : Type} (w : Write) (read : Row → Except LinkError ρ) :
    Runs w.builder fun session => (w.fetchReturning read session).2

/-- The parameters of a builder: one for each operand. -/
def Builder.params (b : Builder) : List Param := b.operands.map fun o => .ofJson o.value

/-- The session after what was rendered is sent, unless rendering was refused. -/
def Session.after (rendered : Except StoreError Sql.Rendered) (session : Session) : Session :=
  match rendered with
  | .error _ => session
  | .ok r => (session.execute (.ofRendered r)).2

theorem sending_snd {α : Type} {read : Answer → Except LinkError α}
    (rendered : Except StoreError Sql.Rendered) (session : Session) :
    (sending rendered read session).2 = session.after rendered := by
  cases rendered <;> rfl

/-- A session sends a statement or nothing. -/
theorem Session.sent_execute (session : Session) (statement : Sent) :
    (session.execute statement).2.sent = session.sent ∨
      (session.execute statement).2.sent = session.sent ++ [statement] := by
  unfold execute
  split
  · exact .inl rfl
  · split
    · exact .inl rfl
    · dsimp only
      split <;> exact .inr rfl

/-- A selection of one row binds what the selection binds. -/
theorem Select.values_single (s : Select) :
    s.single.render.map (·.values) = s.render.map (·.values) := by
  unfold render statement
  -- the two differ in the page, which is neither checked nor bound
  dsimp only [single, apply, Sql.Query.apply, Sql.Query.predicates]
  cases checked (Sql.Identifier.ofName s.table) with
  | error e => rfl
  | ok table =>
    cases checked (Sql.Columns.ofNames s.columns) with
    | error e => rfl
    | ok columns =>
      cases checked (Sql.Filter.checkAll s.query.columnTypes s.query.filters) with
      | error e => rfl
      | ok conditions => cases checked (Sql.SortTerm.ofNames s.query.order) <;> rfl

theorem Write.render_builder (w : Write) : w.builder.render = w.render := by cases w <;> rfl

/-- A run sends what is rendered as the builder is, up to the text: the same values, or nothing for
the same reason. -/
theorem Builder.Runs.after_eq {b : Builder} {run : Session → Session} (h : b.Runs run) :
    ∃ rendered : Except StoreError Sql.Rendered,
      rendered.map (·.values) = b.render.map (·.values) ∧ run = Session.after rendered := by
  cases h with
  | fetchAll s => exact ⟨s.render, rfl, funext fun session => sending_snd _ session⟩
  | fetchOne s =>
    exact ⟨s.single.render, s.values_single, funext fun session => sending_snd _ session⟩
  | fetchOptional s =>
    exact ⟨s.single.render, s.values_single, funext fun session => sending_snd _ session⟩
  | count s => exact ⟨s.renderCount, rfl, funext fun session => sending_snd _ session⟩
  | execute w =>
    refine ⟨w.render, by rw [w.render_builder], funext fun session => ?_⟩
    rw [w.execute_eq]
    exact sending_snd _ session
  | fetchReturning w read =>
    refine ⟨w.givingBack.render, ?_, funext fun session => ?_⟩
    · rw [w.render_givingBack, w.render_builder]
      cases w.render <;> rfl
    · rw [w.fetchReturning_eq]
      exact sending_snd _ session

/-- The values of a builder that renders are those of its operands. -/
theorem Builder.values_render {b : Builder} {r : Sql.Rendered} (h : b.render = .ok r) :
    r.values = b.operands.map (·.value) := by
  rw [Builder.render_eq] at h
  obtain ⟨s, hstatement, rfl⟩ := map_eq_ok.mp h
  rw [← Sql.Operand.values_of_fits (Builder.statement_operands hstatement), Sql.Statement.render,
    Sql.Statement.values, ← s.slots_pieces, ← Sql.Piece.map_bound, List.map_map]
  rfl

/-- What is sent has a parameter for each operand. -/
theorem Builder.ofRendered_eq {b : Builder} {r : Sql.Rendered}
    (h : b.render.map (·.values) = .ok r.values) : Sent.ofRendered r = ⟨r.text, b.params⟩ := by
  obtain ⟨r', hr', hvalues⟩ := map_eq_ok.mp h
  rw [Sent.ofRendered, Builder.params, ← hvalues, values_render hr', List.map_map]
  rfl

/-- **What a run sends.** Nothing, or one statement with a parameter for each operand; and this
whenever the builder renders and the session is open and its link up. -/
theorem Builder.Runs.sent {b : Builder} {run : Session → Session} (h : b.Runs run)
    (session : Session) :
    ((run session).sent = session.sent ∨
      ∃ sql, (run session).sent = session.sent ++ [⟨sql, b.params⟩]) ∧
    ∀ r replies, b.render = .ok r → session.closed = false → session.link = .up replies →
      ∃ sql, (run session).sent = session.sent ++ [⟨sql, b.params⟩] := by
  obtain ⟨rendered, hvalues, rfl⟩ := h.after_eq
  cases rendered with
  | error e =>
    refine ⟨.inl rfl, fun r replies hrender _ _ => ?_⟩
    -- a builder that renders does so in every way
    rw [hrender] at hvalues
    cases hvalues
  | ok r =>
    have hstatement := Builder.ofRendered_eq hvalues.symm
    refine ⟨?_, fun _ replies _ hopen hlink => ⟨r.text, ?_⟩⟩
    · rcases session.sent_execute (.ofRendered r) with hnone | hone
      · exact .inl hnone
      · right
        refine ⟨r.text, ?_⟩
        rw [← hstatement]
        exact hone
    · have hup := @sending_up Answer .ok r session replies hopen hlink
      rw [sending_snd] at hup
      rw [← hstatement, hup]

/-! ## What builders are given -/

/-- A builder is given a value for a column: to insert, to set, to compare the column with, or as an
element of a list that the column is looked up in. -/
inductive Builder.Gives : Builder → String → Json → Prop where
  | inserted {i : Insert} {column : String} {v : Json} (h : (column, v) ∈ i.values) :
    Gives (.insert i) column v
  | set {u : Update} {column : String} {v : Json} (h : (column, .value v) ∈ u.set) :
    Gives (.update u) column v
  | compared {b : Builder} {c : Sql.Condition} {comparison : Sql.Comparison} {v : Json}
    (h : c ∈ Sql.Filter.conditionsOf b.filters) (hoperator : c.operator = .compare comparison)
    (hvalue : c.value = some v) : Gives b c.field v
  | element {b : Builder} {c : Sql.Condition} {items : List Json} {v : Json}
    (h : c ∈ Sql.Filter.conditionsOf b.filters)
    (hoperator : c.operator = .isIn ∨ c.operator = .isNotIn) (hvalue : c.value = some (.array items))
    (hv : v ∈ items) : Gives b c.field v

theorem Builder.operands_of_filters {b : Builder} {o : Sql.Operand}
    (h : o ∈ Sql.Filter.operandsOf b.filters) : o ∈ b.operands := by
  cases b with
  | select s => exact h
  | count s => exact h
  | insert i => cases h
  | update u => exact List.mem_append_right _ h
  | delete d => exact h

/-- What a builder is given is among its operands. -/
theorem Builder.Gives.mem_operands {b : Builder} {column : String} {v : Json}
    (h : b.Gives column v) : ⟨column, v⟩ ∈ b.operands := by
  have hcondition : ∀ {b : Builder} {c : Sql.Condition} {v : Json},
      c ∈ Sql.Filter.conditionsOf b.filters → v ∈ c.question.values → ⟨c.field, v⟩ ∈ b.operands := by
    intro b c v hc hv
    refine Builder.operands_of_filters ?_
    rw [Sql.Filter.operandsOf_eq]
    exact List.mem_flatMap.mpr ⟨c, hc, List.mem_map_of_mem hv⟩
  cases h with
  | inserted h => exact List.mem_map.mpr ⟨_, h, rfl⟩
  | set h => exact List.mem_append_left _ (List.mem_flatMap.mpr ⟨_, h, List.mem_singleton_self _⟩)
  | compared h hoperator hvalue =>
    refine hcondition h ?_
    rw [Sql.Condition.values_compared hoperator hvalue]
    exact List.mem_singleton_self _
  | element h hoperator hvalue hv =>
    refine hcondition h ?_
    rw [Sql.Condition.values_elements hoperator hvalue]
    exact hv

/-! ## Main result -/

/-- The parameter of an operand stands where the operand does. -/
theorem Builder.getElem?_params {b : Builder} {i : Nat} {o : Sql.Operand}
    (h : b.operands[i]? = some o) : b.params[i]? = some (.ofJson o.value) := by
  rw [params, List.getElem?_map, h]
  rfl

/-- **Integers are sent as they are, up to 63 bits.** Whichever way a builder is run, it sends one
statement or none, and one if it renders and the session takes it; and the statement has the
parameters of the builder, of which there is one for every value that the builder is given. For an
integer this is an integer of the same value, of the narrower type if that holds it; past 63 bits,
where no type for integers goes, it is the double nearest to it. So two statements have the same
parameter for two integers exactly if these are the same, or are both past 63 bits and rounded to
the same double. -/
theorem Builder.integers_sent :
    (∀ (b : Builder) (run : Session → Session) (session : Session), b.Runs run →
      ((run session).sent = session.sent ∨
        ∃ sql, (run session).sent = session.sent ++ [⟨sql, b.params⟩]) ∧
      ∀ r replies, b.render = .ok r → session.closed = false → session.link = .up replies →
        ∃ sql, (run session).sent = session.sent ++ [⟨sql, b.params⟩]) ∧
    (∀ (b : Builder) (column : String) (v : Json), b.Gives column v →
      ∃ i : Nat, b.operands[i]? = some ⟨column, v⟩) ∧
    (∀ (b : Builder) (i : Nat) (column : String) (n : Int),
      b.operands[i]? = some ⟨column, .int n⟩ → Json.Fits n →
      ∃ p, b.params[i]? = some p ∧ Param.OfInteger n p) ∧
    ∀ (b b' : Builder) (i i' : Nat) (column column' : String) (n n' : Int),
      b.operands[i]? = some ⟨column, .int n⟩ → b'.operands[i']? = some ⟨column', .int n'⟩ →
      Json.Fits n → Json.Fits n' → (b.params[i]? = b'.params[i']? ↔ n = n' ∨ SameStep n n') := by
  refine ⟨fun b run session h => h.sent session, fun b column v h => ?_, ?_, ?_⟩
  · exact List.getElem?_of_mem h.mem_operands
  · intro b i column n h hn
    exact ⟨_, getElem?_params h, Param.ofInteger_ofJson hn⟩
  · intro b b' i i' column column' n n' h h' hn hn'
    rw [getElem?_params h, getElem?_params h', Option.some.injEq]
    exact Param.ofJson_int_inj hn hn'

/-- An update that sets the integer just below the narrower type, and looks a column up among the
greatest integer of this type and the greatest of all, which is sent as two to the 64. -/
theorem Builder.integers_sent_update :
    let u : Update :=
      { table := "t", set := [("a", .value (.int (-2147483649)))]
        filters := [.isIn "b" [.int 2147483647, .int 18446744073709551615]] }
    let double : Param := .float8 ⟨0x43F0000000000000⟩
    let params : List Param := [.int8 (-2147483649), .int4 2147483647, double]
    (∃ sql, ((Write.update u).execute { link := .up [] }).2.sent = [⟨sql, params⟩]) ∧
      (∃ i : Nat, (Builder.update u).operands[i]? = some ⟨"b", .int 18446744073709551615⟩) ∧
      Param.OfInteger 18446744073709551615 double ∧
      (Builder.update u).params[1]? ≠ (Builder.update u).params[2]? := by
  intro u double params
  obtain ⟨hsent, hgiven, hinteger, hsame⟩ := integers_sent
  have hparams : (Builder.update u).params = params := by decide
  obtain ⟨r, hrender⟩ : ∃ r, (Builder.update u).render = .ok r := by
    dsimp only [u]
    exact ⟨_, rfl⟩
  have hgives : (Builder.update u).Gives "b" (.int 18446744073709551615) := by
    have hlist : (⟨"b", .isIn, some (.array [.int 2147483647, .int 18446744073709551615])⟩ :
        Sql.Condition) ∈ Sql.Filter.conditionsOf (Builder.update u).filters := List.mem_cons_self
    exact .element hlist (.inl rfl) rfl (by simp)
  refine ⟨?_, hgiven _ _ _ hgives, ?_, ?_⟩
  · obtain ⟨sql, h⟩ :=
      (hsent _ _ { link := .up [] } (.execute (.update u))).2 r [] hrender rfl rfl
    exact ⟨sql, hparams ▸ h⟩
  · obtain ⟨p, hp, h⟩ := hinteger (.update u) 2 "b" 18446744073709551615 rfl (by decide)
    rw [hparams] at hp
    cases hp
    exact h
  · intro h
    have heq := (hsame (.update u) (.update u) 1 2 "b" "b" 2147483647 18446744073709551615 rfl rfl
      (by decide) (by decide)).mp h
    rcases heq with heq | ⟨k, _, _, hk, _, hlow, _⟩
    · exact absurd heq (by decide)
    · have hless : 2147483647 < twoTo 63 := by decide
      omega

/-- Two integers past 63 bits are sent as one parameter, which is a double. -/
theorem Insert.execute_past_int8 :
    let sent (n : Int) : List Sent :=
      (Insert.execute { table := "t", values := [("a", .int n)] } { link := .up [] }).2.sent
    let double : Param := .float8 ⟨0x43E0000000000000⟩
    sent 9223372036854775808 = [⟨"INSERT INTO \"t\" (\"a\") VALUES ($1)", [double]⟩] ∧
      sent 9223372036854775809 = [⟨"INSERT INTO \"t\" (\"a\") VALUES ($1)", [double]⟩] := by
  decide

end Store

end Rowgate
