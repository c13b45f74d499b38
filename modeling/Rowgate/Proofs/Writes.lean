import Mathlib.Data.List.TakeWhile
import Rowgate.Proofs.Checked
import Rowgate.Proofs.Layout
import Rowgate.Proofs.Letters
import Rowgate.Proofs.Sentinel
import Rowgate.Sample.Note
/-
What becomes of a write.

A write is rendered, sent, counted, reported and settled. What these come to is stated here from the
reply of the server alone: a write that was refused sent nothing and settles to its refusal; any
other sent one statement, and settles to success if the server counted a row, to a row not found if
it counted none, and to the server's error if there was one.

A write is executed in two ways, which count in two ways: by the last word of the tag, or by the
rows that came back. Both send the same statement, but for the clause that asks for the rows. What is
read of the rows is for the caller to say, and the first row that cannot be read so is an error of
its own.

The main result is `Write.settles`.
-/
set_option autoImplicit false

namespace Rowgate

open Operation (Failure OpError Report)

/-! ## The clause that asks for every column -/

namespace Sql

/-- The same statement, giving back every column. -/
def Statement.returningAll : Statement → Statement
  | .insert table values _ => .insert table values (some .all)
  | .update table assignments conditions _ => .update table assignments conditions (some .all)
  | .delete table conditions _ => .delete table conditions (some .all)
  | s => s

/-- A write that gives nothing back. -/
def Statement.IsSilent : Statement → Prop
  | .insert _ _ returning => returning = none
  | .update _ _ _ returning => returning = none
  | .delete _ _ returning => returning = none
  | _ => False

/-- The clause stands at the end, and nothing before it changes. -/
theorem joinParts_returningAll {head : String} (hhead : head ≠ "") (parts : List String) :
    joinParts (head :: (parts ++ [returningClause (some .all)])) =
      joinParts (head :: (parts ++ [returningClause none])) ++ " RETURNING *" := by
  have hall : returningClause (some .all) = "RETURNING *" := by decide
  rw [hall, ← String.toList_inj]
  simp [toList_joinParts hhead, returningClause]

theorem Statement.text_returningAll {s : Statement} (h : s.IsSilent) :
    s.returningAll.text = s.text ++ " RETURNING *" := by
  cases s with
  | select table columns conditions order page => cases h
  | count table conditions => cases h
  | insert table values returning =>
    cases h
    cases values with
    | nil => exact joinParts_returningAll (by simp) []
    | cons value rest => exact joinParts_returningAll (by simp) []
  | update table assignments conditions returning =>
    cases h
    exact joinParts_returningAll (by simp) [_]
  | delete table conditions returning =>
    cases h
    exact joinParts_returningAll (by simp) [_]

theorem Statement.values_returningAll (s : Statement) : s.returningAll.values = s.values := by
  cases s <;> rfl

end Sql

namespace Store

/-! ## Writes -/

/-- A write under construction. -/
inductive Write where
  | insert (i : Insert)
  | update (u : Update)
  | delete (d : Delete)

namespace Write

/-- The columns that are named to be given back. -/
def returning : Write → List String
  | .insert i => i.returning
  | .update u => u.returning
  | .delete d => d.returning

def statement : Write → Except StoreError Sql.Statement
  | .insert i => i.statement
  | .update u => u.statement
  | .delete d => d.statement

/-- The text and the values. -/
def render : Write → Except StoreError Sql.Rendered
  | .insert i => i.render
  | .update u => u.render
  | .delete d => d.render

/-- The same write, giving back rows. -/
def givingBack : Write → Write
  | .insert i => .insert i.givingBack
  | .update u => .update u.givingBack
  | .delete d => .delete d.givingBack

/-- Writes and counts the rows that were touched. -/
def execute : Write → Run Outcome
  | .insert i => i.execute
  | .update u => u.execute
  | .delete d => d.execute

/-- Writes and gives back the rows that were touched, each as it is read. -/
def fetchReturning {ρ : Type} (w : Write) (read : Row → Except LinkError ρ) :
    Run (List ρ × Outcome) :=
  match w with
  | .insert i => i.fetchReturning read
  | .update u => u.fetchReturning read
  | .delete d => d.fetchReturning read

theorem render_eq (w : Write) : w.render = w.statement.map (·.render) := by cases w <;> rfl

theorem execute_eq (w : Write) : w.execute = executing w.render := by cases w <;> rfl

theorem fetchReturning_eq {ρ : Type} (w : Write) (read : Row → Except LinkError ρ) :
    w.fetchReturning read = fetching w.givingBack.render read := by
  cases w <;> rfl

end Write

/-! ## Giving rows back -/

theorem Insert.statement_silent {i : Insert} {s : Sql.Statement} (h : i.returning = [])
    (hs : i.statement = .ok s) : s.IsSilent := by
  obtain ⟨table, returning, values, _, hreturning, _, rfl⟩ := Insert.statement_cases hs
  rw [h] at hreturning
  cases hreturning
  rfl

theorem Update.statement_silent {u : Update} {s : Sql.Statement} (h : u.returning = [])
    (hs : u.statement = .ok s) : s.IsSilent := by
  obtain ⟨_, _, _, returning, _, _, _, _, _, hreturning, rfl⟩ := Update.statement_cases hs
  rw [h] at hreturning
  cases hreturning
  rfl

theorem Delete.statement_silent {d : Delete} {s : Sql.Statement} (h : d.returning = [])
    (hs : d.statement = .ok s) : s.IsSilent := by
  obtain ⟨_, _, returning, _, _, _, hreturning, rfl⟩ := Delete.statement_cases hs
  rw [h] at hreturning
  cases hreturning
  rfl

/-- Where no column was named, all of them are asked for, and nothing else changes: also not what
is refused, nor the reason. -/
theorem Insert.statement_givingBack {i : Insert} (h : i.returning = []) :
    i.givingBack.statement = i.statement.map (·.returningAll) := by
  simp only [statement, givingBack, h]
  cases checked (Sql.Identifier.ofName i.table) with
  | error e => rfl
  | ok table => cases checked (slots i.columnTypes i.values) <;> rfl

theorem Update.statement_givingBack {u : Update} (h : u.returning = []) :
    u.givingBack.statement = u.statement.map (·.returningAll) := by
  simp only [statement, givingBack, h]
  cases checked (Sql.Identifier.ofName u.table) with
  | error e => rfl
  | ok table =>
    cases hset : u.set with
    | nil => rfl
    | cons first rest =>
      cases u.filters with
      | nil => rfl
      | cons f fs =>
        cases checked (assigned u.columnTypes (first :: rest)) with
        | error e => rfl
        | ok assignments => cases checked (Sql.Filter.checkAll u.columnTypes (f :: fs)) <;> rfl

theorem Delete.statement_givingBack {d : Delete} (h : d.returning = []) :
    d.givingBack.statement = d.statement.map (·.returningAll) := by
  simp only [statement, givingBack, h]
  cases checked (Sql.Identifier.ofName d.table) with
  | error e => rfl
  | ok table =>
    cases d.filters with
    | nil => rfl
    | cons f fs => cases checked (Sql.Filter.checkAll d.columnTypes (f :: fs)) <;> rfl

namespace Write

theorem statement_givingBack {w : Write} (h : w.returning = []) :
    w.givingBack.statement = w.statement.map (·.returningAll) := by
  cases w with
  | insert i => exact Insert.statement_givingBack h
  | update u => exact Update.statement_givingBack h
  | delete d => exact Delete.statement_givingBack h

theorem statement_silent {w : Write} {s : Sql.Statement} (h : w.returning = [])
    (hs : w.statement = .ok s) : s.IsSilent := by
  cases w with
  | insert i => exact Insert.statement_silent h hs
  | update u => exact Update.statement_silent h hs
  | delete d => exact Delete.statement_silent h hs

theorem givingBack_of_named {w : Write} (h : w.returning ≠ []) : w.givingBack = w := by
  have hnames : returningOrAll w.returning = w.returning := if_neg (by simpa using h)
  cases w with
  | insert i => exact congrArg (fun names => Write.insert { i with returning := names }) hnames
  | update u => exact congrArg (fun names => Write.update { u with returning := names }) hnames
  | delete d => exact congrArg (fun names => Write.delete { d with returning := names }) hnames

/-- What is rendered where rows are given back, from what is rendered where they are counted. -/
def withRows (w : Write) (r : Sql.Rendered) : Sql.Rendered :=
  { r with text := if w.returning = [] then r.text ++ " RETURNING *" else r.text }

/-- **Two ways, one statement.** Where rows are given back, what is refused is refused for the same
reason, and what is sent is the same but for the clause at its end. -/
theorem render_givingBack (w : Write) : w.givingBack.render = w.render.map w.withRows := by
  by_cases h : w.returning = []
  · rw [render_eq, render_eq, statement_givingBack h]
    cases hs : w.statement with
    | error e => rfl
    | ok s =>
      have htext := Sql.Statement.text_returningAll (statement_silent h hs)
      simp [Except.map, Sql.Statement.render, withRows, h, htext,
        Sql.Statement.values_returningAll]
  · have hrows : w.withRows = id := by
      funext r
      rw [withRows, if_neg h]
      rfl
    rw [givingBack_of_named h, hrows]
    cases w.render <;> rfl

end Write

/-! ## Refusals -/

/-- A result that can only have failed before anything was sent. -/
def Refusing {α : Type} (result : Except StoreError α) : Prop :=
  ∀ e, result = .error e → ∀ cause, e ≠ .database cause

namespace Refusing

variable {α β : Type}

theorem checked (result : Except Sql.NameError α) : Refusing (checked result) := by
  rintro e h cause rfl
  cases result <;> cases h

theorem invalidQuery (table reason : String) :
    Refusing (throw (.invalidQuery table reason) : Except StoreError α) := by
  rintro e h cause rfl
  cases h

theorem bind {result : Except StoreError α} {next : α → Except StoreError β}
    (h : Refusing result) (hnext : ∀ a, Refusing (next a)) : Refusing (result >>= next) := by
  cases result with
  | ok a => exact hnext a
  | error e => exact fun e' he => h e' (by cases he; rfl)

theorem pure (a : α) : Refusing (.ok a) := fun _ h => nomatch h

theorem insert (i : Insert) : Refusing i.statement :=
  bind (checked _) fun _ => bind (checked _) fun _ => bind (checked _) fun _ => pure _

theorem update (u : Update) : Refusing u.statement := by
  refine bind (checked _) fun table => ?_
  by_cases hset : u.set.isEmpty = true
  · simp only [hset, if_true]
    exact invalidQuery _ _
  by_cases hfilters : u.filters.isEmpty = true
  · simp only [hset, hfilters, if_true]
    exact invalidQuery _ _
  simp only [hset, hfilters]
  exact bind (checked _) fun _ => bind (checked _) fun _ => bind (checked _) fun _ => pure _

theorem delete (d : Delete) : Refusing d.statement := by
  refine bind (checked _) fun table => ?_
  by_cases hfilters : d.filters.isEmpty = true
  · simp only [hfilters, if_true]
    exact invalidQuery _ _
  simp only [hfilters]
  exact bind (checked _) fun _ => bind (checked _) fun _ => pure _

theorem map {result : Except StoreError α} (f : α → β) (h : Refusing result) :
    Refusing (result.map f) := by
  cases result with
  | ok a => exact pure (f a)
  | error e => exact fun e' he => h e' (by cases he; rfl)

theorem render (w : Write) : Refusing w.render := by
  rw [w.render_eq]
  cases w with
  | insert i => exact map _ (insert i)
  | update u => exact map _ (update u)
  | delete d => exact map _ (delete d)

theorem select (s : Select) : Refusing s.render :=
  map _ (bind (checked _) fun _ => bind (checked _) fun _ => bind (checked _) fun _ =>
    bind (checked _) fun _ => pure _)

end Refusing

/-! ## Counts -/

/-- The word behind the last blank of a text. -/
def IsLastWord (word text : String) : Prop :=
  ' ' ∉ word.toList ∧ (text = word ∨ ∃ front, text = front ++ " " ++ word)

/-- The tag of an answer ends in a count. -/
def Answer.EndsIn (a : Answer) (n : Nat) : Prop :=
  ∃ word, IsLastWord word a.tag ∧ (Text.IntegerRange.unsigned 64).read? word = some (n : Int)

/-- The last word is read from the back, up to the first blank. -/
theorem isLastWord_iff {word text : String} :
    IsLastWord word text ↔
      word = String.ofList (text.toList.reverse.takeWhile (· != ' ')).reverse := by
  rw [← String.toList_inj, String.toList_ofList, ← List.reverse_inj, List.reverse_reverse]
  constructor
  · rintro ⟨hword, htext⟩
    have hall : ∀ c ∈ word.toList.reverse, (c != ' ') = true :=
      Sql.bne_of_notMem (by simpa using hword)
    rcases htext with rfl | ⟨front, rfl⟩
    · exact (List.takeWhile_eq_self_iff.mpr hall).symm
    · rw [String.toList_append, String.toList_append, List.reverse_append, List.reverse_append,
        List.takeWhile_append_of_pos hall]
      simp
  · intro hword
    have hblank : ' ' ∉ word.toList.reverse := by
      rw [hword]
      exact fun h => by simpa using List.mem_takeWhile_imp h
    have hsplit : text.toList.reverse =
        word.toList.reverse ++ text.toList.reverse.dropWhile (· != ' ') := by
      rw [hword]
      exact List.takeWhile_append_dropWhile.symm
    refine ⟨by simpa using hblank, ?_⟩
    cases hrest : text.toList.reverse.dropWhile (· != ' ') with
    | nil =>
      rw [hrest, List.append_nil, List.reverse_inj, String.toList_inj] at hsplit
      exact .inl hsplit
    | cons c front =>
      -- what is dropped first is the blank
      have hc : c = ' ' := by
        have hhead := List.head?_dropWhile_not (· != ' ') text.toList.reverse
        rw [hrest] at hhead
        simpa using hhead
      refine .inr ⟨String.ofList front.reverse, ?_⟩
      rw [hrest, hc, ← List.reverse_inj, List.reverse_reverse] at hsplit
      rw [← String.toList_inj, hsplit]
      simp

/-- The count of an answer is the one that its tag ends in, and zero where the tag ends in none. -/
theorem Answer.rowsAffected_cases (a : Answer) :
    a.EndsIn a.rowsAffected ∨ (∀ n, ¬a.EndsIn n) ∧ a.rowsAffected = 0 := by
  let word := String.ofList (a.tag.toList.reverse.takeWhile (· != ' ')).reverse
  cases hread : (Text.IntegerRange.unsigned 64).read? word with
  | none =>
    refine .inr ⟨?_, ?_⟩
    · rintro n ⟨last, hlast, hn⟩
      rw [isLastWord_iff.mp hlast, hread] at hn
      cases hn
    · rw [rowsAffected, hread]
      rfl
  | some z =>
    have hz : 0 ≤ z := by
      have hcontains := Option.filter_eq_some_iff.mp hread |>.2
      simp only [Text.IntegerRange.contains, Bool.and_eq_true, decide_eq_true_eq] at hcontains
      exact hcontains.1
    refine .inl ⟨word, isLastWord_iff.mpr rfl, ?_⟩
    rw [rowsAffected, hread, Option.getD_some, Int.toNat_of_nonneg hz]

/-- A tag ends in one count at most. -/
theorem Answer.rowsAffected_of_endsIn {a : Answer} {n : Nat} (h : a.EndsIn n) :
    a.rowsAffected = n := by
  obtain ⟨word, hword, hn⟩ := h
  rw [rowsAffected, ← isLastWord_iff.mp hword, hn]
  rfl

/-! ## Settling -/

/-- What the result of a write is settled to, once it was reported. -/
def settled (result : Except StoreError Outcome) : Except Failure Unit :=
  (Report.ofOutcome (result.mapError .store)).settle

theorem settled_ok (rows : Nat) :
    settled (.ok (.known rows)) = if rows = 0 then .error .notFound else .ok () := by
  cases rows <;> rfl

theorem settled_error {e : StoreError} (h : e ≠ .database .rowNotFound) :
    settled (.error e) = .error (.operation (.store e)) := by
  have hrows : (OpError.store e).isNoRows = false :=
    Bool.eq_false_iff.mpr fun hrows => h (OpError.store_isNoRows_iff.mp hrows)
  simp [settled, Report.ofOutcome, Except.mapError, Report.settle, Report.failed,
    Report.touchedNothing, Report.errorResult, hrows]

/-- How the reply of the server is told: `counts` says which counts an answer gives. -/
structure Tells (reply : Reply) (counts : Answer → Nat → Prop) (result : Except Failure Unit) :
    Prop where
  success : result = .ok () ↔ ∃ a n, reply = .answer a ∧ counts a n ∧ 0 < n
  notFound : result = .error .notFound ↔
    ∃ a, reply = .answer a ∧ (counts a 0 ∨ ∀ n, ¬counts a n)
  failure : ∀ e, result = .error (.operation e) ↔
    ∃ code text, reply = .refusal code text ∧ e = .store (.database (.server code text))

/-- A write whose result is `count` of an answer and the server's error otherwise tells of the
reply. -/
theorem tells_of_count {counts : Answer → Nat → Prop} {count : Answer → Nat} {reply : Reply}
    {result : Except StoreError Outcome}
    (hcount : ∀ a, counts a (count a) ∨ (∀ n, ¬counts a n) ∧ count a = 0)
    (hunique : ∀ a n, counts a n → count a = n)
    (hanswer : ∀ a, reply = .answer a → result = .ok (.known (count a)))
    (hrefusal : ∀ code text, reply = .refusal code text →
      result = .error (.database (.server code text))) :
    Tells reply counts (settled result) := by
  cases reply with
  | refusal code text =>
    rw [hrefusal code text rfl, settled_error (by simp)]
    exact ⟨by simp, by simp, fun e => by simp [eq_comm]⟩
  | answer a =>
    rw [hanswer a rfl, settled_ok]
    -- only the count decides now, and a count that the answer does not give is zero
    refine ⟨?_, ?_, fun e => by split <;> simp⟩
    · constructor
      · intro h
        have hpos : count a ≠ 0 := fun hzero => by simp [hzero] at h
        rcases hcount a with hcounted | ⟨_, hzero⟩
        · exact ⟨a, _, rfl, hcounted, Nat.pos_of_ne_zero hpos⟩
        · exact absurd hzero hpos
      · rintro ⟨_, n, ⟨⟩, hn, hpos⟩
        rw [if_neg (by rw [hunique a n hn]; omega)]
    · constructor
      · intro h
        have hzero : count a = 0 := by
          by_contra hpos
          simp [hpos] at h
        rcases hcount a with hcounted | ⟨hnone, _⟩
        · exact ⟨a, rfl, .inl (hzero ▸ hcounted)⟩
        · exact ⟨a, rfl, .inr hnone⟩
      · rintro ⟨_, ⟨⟩, hzero | hnone⟩
        · rw [if_pos (hunique a 0 hzero)]
        · rcases hcount a with hcounted | ⟨_, hzero⟩
          · exact absurd hcounted (hnone _)
          · rw [if_pos hzero]

/-- A row that was expected and did not come counts as not found. -/
theorem settled_database (e : LinkError) :
    settled (.error (.database e)) =
      if e = .rowNotFound then .error .notFound else .error (.operation (.store (.database e))) := by
  by_cases hrows : e = .rowNotFound
  · rw [if_pos hrows, hrows]
    rfl
  · rw [if_neg hrows, settled_error (by simpa using hrows)]

/-! ## Rows that are given back -/

/-- How the reply of the server is told where rows are given back: by their number, if every row can
be read, and otherwise by the error of the first that cannot. -/
structure TellsRows {ρ : Type} (reply : Reply) (read : Row → Except LinkError ρ)
    (result : Except Failure Unit) : Prop where
  counted : (∀ a, reply = .answer a → ∀ row ∈ a.namedRows, ∃ item, read row = .ok item) →
    Tells reply (fun a n => n = a.rows.length) result
  unread : ∀ a front row rest e, reply = .answer a → a.namedRows = front ++ row :: rest →
    (∀ earlier ∈ front, ∃ item, read earlier = .ok item) → read row = .error e →
    result =
      if e = .rowNotFound then .error .notFound else .error (.operation (.store (.database e)))

/-- What is made of an answer that gives rows back. -/
theorem fetching_answer {ρ : Type} (r : Sql.Rendered) (read : Row → Except LinkError ρ)
    (a : Answer) (later : List Reply) (sent : List Sent) :
    (fetching (.ok r) read { link := .up (.answer a :: later), sent }).1 =
      ((a.namedRows.mapM read).map fun rows => (rows, .known rows.length)).mapError .database := by
  show ((a.namedRows.mapM read >>= fun rows => _).mapError _) = _
  cases a.namedRows.mapM read <;> rfl

/-- What a write that gives rows back settles to is told by the reply and by its rows. -/
theorem fetching_tellsRows {ρ : Type} (r : Sql.Rendered) (read : Row → Except LinkError ρ)
    (reply : Reply) (later : List Reply) (sent : List Sent) :
    TellsRows reply read
      (settled ((fetching (.ok r) read { link := .up (reply :: later), sent }).1.map (·.2))) where
  counted hread := by
    refine tells_of_count (fun _ => .inl rfl) (fun _ _ hn => hn.symm) ?_
      (by rintro code text rfl; rfl)
    rintro a rfl
    obtain ⟨items, hitems⟩ := exists_mapM_eq_ok.mpr (hread a rfl)
    -- every row was read, so there are as many items as rows
    have hlength : a.rows.length = items.length := by
      rw [← (mapM_eq_ok hitems).length_eq, Answer.namedRows, List.length_map]
    rw [fetching_answer, hitems, hlength]
    rfl
  unread a front row rest e hreply hsplit hfront hrow := by
    subst hreply
    rw [fetching_answer, mapM_eq_error.mpr ⟨front, row, rest, hsplit, hfront, hrow⟩,
      ← settled_database]
    rfl

/-! ## Main result -/

/-- **What becomes of a write.** A write that is refused sends nothing, in whichever way it is
executed, and settles to its refusal. Any other sends one statement: both ways the same text with
the same parameters, but that the way that gives rows back asks for all of them where none were
named. What it settles to is told by the reply of the server, which counts by its tag or by the rows
that it gives back; of these the first that cannot be read as asked decides, though the server has
written. -/
theorem Write.settles {ρ : Type} (w : Write) (read : Row → Except LinkError ρ) (reply : Reply)
    (later : List Reply) (sent : List Sent) :
    let session : Session := { link := .up (reply :: later), sent }
    let executed := w.execute session
    let fetched := w.fetchReturning read session
    (∀ e, w.render = .error e →
      executed.2 = session ∧ settled executed.1 = .error (.operation (.store e)) ∧
      fetched.2 = session ∧ settled (fetched.1.map (·.2)) = .error (.operation (.store e))) ∧
    ∀ r, w.render = .ok r →
      executed.2 = { link := .up later, sent := sent ++ [⟨r.text, r.values.map .ofJson⟩] } ∧
      Tells reply Answer.EndsIn (settled executed.1) ∧
      fetched.2 = { link := .up later, sent := sent ++
        [⟨if w.returning = [] then r.text ++ " RETURNING *" else r.text, r.values.map .ofJson⟩] } ∧
      TellsRows reply read (settled (fetched.1.map (·.2))) := by
  intro session executed fetched
  have hfetched : fetched = fetching (w.render.map w.withRows) read session := by
    rw [← w.render_givingBack, ← w.fetchReturning_eq]
  have hexecuted : executed = executing w.render session := by rw [← w.execute_eq]
  refine ⟨fun e h => ?_, fun r h => ?_⟩
  · have hsettled := settled_error (Refusing.render w e h _)
    rw [hexecuted, hfetched, h]
    exact ⟨rfl, hsettled, rfl, hsettled⟩
  · rw [hexecuted, hfetched, h]
    refine ⟨?_, ?_, ?_, ?_⟩
    · cases reply <;> rfl
    · exact tells_of_count Answer.rowsAffected_cases (fun _ _ => Answer.rowsAffected_of_endsIn)
        (by rintro a rfl; rfl) (by rintro code text rfl; rfl)
    · cases reply <;> rfl
    · exact fetching_tellsRows (w.withRows r) read reply later sent

/-- An update that touches two rows and gives none back, and a deletion without a filter. -/
theorem Write.settles_update :
    let session : Session := { link := .up [.answer { tag := "UPDATE 2" }] }
    let update : Write := .update { table := "item", set := [("name", .value (.string "lamp"))]
                                    filters := [.eq "_id" (.string "abc")] }
    (update.execute session).2.sent =
        [⟨"UPDATE \"item\" SET \"name\" = $1 WHERE \"_id\" = $2", [.text "lamp", .text "abc"]⟩] ∧
      settled (update.execute session).1 = .ok () ∧
      settled ((update.fetchReturning Sample.Item.readRow session).1.map (·.2)) =
        .error .notFound ∧
      settled ((Write.delete { table := "item" }).execute session).1 =
        .error (.operation (.store (.invalidQuery "item" "delete without filter"))) := by
  intro session update
  have hrender : update.render = .ok ⟨"UPDATE \"item\" SET \"name\" = $1 WHERE \"_id\" = $2",
      [.string "lamp", .string "abc"]⟩ := by decide
  obtain ⟨hsent, htells, _, hfetched⟩ :=
    (settles update Sample.Item.readRow (.answer { tag := "UPDATE 2" }) [] []).2 _ hrender
  refine ⟨?_, ?_, ?_, ?_⟩
  · rw [hsent]
    decide
  · exact htells.success.mpr ⟨_, 2, rfl, ⟨"2", ⟨by decide, .inr ⟨"UPDATE", by decide⟩⟩, by decide⟩,
      by decide⟩
  · have hnone : ∀ a, Reply.answer { tag := "UPDATE 2" } = .answer a →
        ∀ row ∈ a.namedRows, ∃ item, Sample.Item.readRow row = .ok item := by
      rintro _ ⟨⟩ row hrow
      contradiction
    exact (hfetched.counted hnone).notFound.mpr ⟨_, rfl, .inl rfl⟩
  · exact ((settles (.delete { table := "item" }) Sample.Item.readRow _ [] []).1 _
      (by decide)).2.1

/-- The server has inserted a note and gives back one row, of which no item can be read: this is no
success, and the number of rows does not tell of it. -/
theorem Write.unread_row_is_no_success :
    let reply : Reply := .answer
      { columns := [{ name := "x" }], rows := [[some "1"]], tag := "INSERT 0 1" }
    let session : Session := { link := .up [reply] }
    let insertion : Write := .insert { table := "note", values := [("_id", .string "n1")] }
    let result := settled ((insertion.fetchReturning Sample.Item.readRow session).1.map (·.2))
    settled (insertion.execute session).1 = .ok () ∧
      result = .error (.operation (.store (.database (.columnNotFound "_id")))) ∧
      ¬ Tells reply (fun a n => n = a.rows.length) result := by
  intro reply session insertion result
  have hresult : result = .error (.operation (.store (.database (.columnNotFound "_id")))) := by
    decide
  refine ⟨by decide, hresult, fun htells => ?_⟩
  have hsuccess : result = .ok () := htells.success.mpr ⟨_, 1, rfl, rfl, Nat.one_pos⟩
  rw [hresult] at hsuccess
  contradiction

end Store

end Rowgate
