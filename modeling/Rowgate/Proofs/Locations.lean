import Mathlib.Data.List.TakeWhile
import Rowgate.Http.Message
import Rowgate.Proofs.Credentials
import Rowgate.Proofs.Forms
import Rowgate.Url.Basic
/-
What a connection string says when it is read as a URL.

Of a URL one reads the authority, the path up to the first `?` or `#`, and the query behind the `?`.
The host, the database and the mode of a configuration stand in its connection string as they are, so
what is read is what was configured only if no character in them ends a part early and no escape
stands for something else. For checked configurations that is exactly the condition
(`DatabaseConfig.readsBack_iff`): whatever is cut off or read as an escape is missed, as reading makes
nothing longer.
-/
set_option autoImplicit false

namespace Rowgate

/-! ## Lists -/

/-- What is computed for the members of a list holds of each. -/
theorem forall_mem_of_all {α : Type} {p : α → Prop} [DecidablePred p] {l : List α}
    (h : l.all (fun a => decide (p a)) = true) : ∀ a ∈ l, p a :=
  fun a ha => of_decide_eq_true (List.all_eq_true.mp h a ha)

/-- What ends a prefix that is taken is where it is. -/
theorem takeWhile_append_cons {α : Type} {p : α → Bool} {a : α} (h : p a = false)
    (front rest : List α) : (front ++ a :: rest).takeWhile p = front.takeWhile p := by
  induction front with
  | nil => rw [List.nil_append, List.takeWhile_cons, h, List.takeWhile_nil, if_neg Bool.false_ne_true]
  | cons b front ih => rw [List.cons_append, List.takeWhile_cons, List.takeWhile_cons, ih]

theorem takeWhile_twice {α : Type} (p q : α → Bool) (cs : List α) :
    (cs.takeWhile q).takeWhile p = cs.takeWhile fun a => p a && q a := by
  rw [List.takeWhile_takeWhile]
  simp only [Bool.decide_and, Bool.decide_eq_true]

theorem takeWhile_eq_self_iff_all {α : Type} {p : α → Bool} {cs : List α} :
    cs.takeWhile p = cs ↔ cs.all p = true := by
  rw [List.takeWhile_eq_self_iff, List.all_eq_true]

/-- A text goes on to the end exactly if no mark stands in it that ends it. -/
theorem all_iff_of_marks {p : Char → Bool} {marks cs : List Char}
    (hp : ∀ c, p c = false ↔ c ∈ marks) : cs.all p = true ↔ ∀ d ∈ marks, d ∉ cs := by
  rw [List.all_eq_true]
  constructor
  · intro hall d hd hmem
    have hpass := hall d hmem
    rw [(hp d).mpr hd] at hpass
    contradiction
  · intro hnot c hc
    by_contra hstop
    exact hnot c ((hp c).mp (eq_false_of_ne_true hstop)) hc

theorem Url.all_endsAuthority_iff {cs : List Char} :
    cs.all (!endsAuthority ·) = true ↔ ∀ d ∈ ['/', '?', '#'], d ∉ cs :=
  all_iff_of_marks fun c => by simp [endsAuthority, imp_iff_not_or, or_assoc]

/-! ## Parts of URLs -/

/-- The authority of a URL, and the target that follows it. -/
def Url.parts? (url : String) : Option (List Char × Http.Target) :=
  (behindScheme? url.toList).map fun rest =>
    (rest.takeWhile (!endsAuthority ·), .split (rest.dropWhile (!endsAuthority ·)))

namespace Http.Target

/-- Whether a character belongs to the path. -/
def isPathChar (c : Char) : Bool := c != '?' && c != '#'

theorem all_isPathChar_iff {cs : List Char} :
    cs.all isPathChar = true ↔ ∀ d ∈ ['?', '#'], d ∉ cs :=
  all_iff_of_marks fun c => by simp [isPathChar, imp_iff_not_or]

theorem path_split (cs : List Char) :
    (split cs).path = String.ofList (cs.takeWhile isPathChar) := by
  have hcut : (cs.takeWhile (· != '#')).takeWhile (· != '?') = cs.takeWhile isPathChar := by
    rw [takeWhile_twice]
    rfl
  rw [← hcut]
  unfold split
  dsimp only
  split <;> rfl

theorem query_split {path : List Char} (h : path.all isPathChar = true) (query : List Char) :
    (split (path ++ '?' :: query)).query = some (String.ofList (query.takeWhile (· != '#'))) := by
  have hchar : ∀ c ∈ path, (c != '#') = true ∧ (c != '?') = true := fun c hc =>
    (Bool.and_eq_true_iff.mp (List.all_eq_true.mp h c hc)).symm
  have hcut : (path ++ '?' :: query).takeWhile (· != '#') =
      path ++ '?' :: query.takeWhile (· != '#') := by
    rw [List.takeWhile_append_of_pos fun c hc => (hchar c hc).1]
    rfl
  have hquery : (path ++ '?' :: query.takeWhile (· != '#')).dropWhile (· != '?') =
      '?' :: query.takeWhile (· != '#') := by
    rw [List.dropWhile_append_of_pos fun c hc => (hchar c hc).2]
    rfl
  rw [split, hcut, hquery]

end Http.Target

/-! ## Texts that are cut and read -/

/-- What is cut off has no bytes if the bytes that are left are as many. -/
theorem takeWhile_eq_self_of_length {p : Char → Bool} {cs : List Char}
    (h : (Utf8.encode (String.ofList cs)).length ≤
      (Utf8.encode (String.ofList (cs.takeWhile p))).length) : cs.takeWhile p = cs := by
  have hbytes : (Utf8.encode (String.ofList cs)).length =
      (Utf8.encode (String.ofList (cs.takeWhile p))).length +
        (Utf8.encode (String.ofList (cs.dropWhile p))).length := by
    rw [← List.length_append, ← Utf8.encode_append, ← String.ofList_append,
      List.takeWhile_append_dropWhile]
  cases hrest : cs.dropWhile p with
  | nil => simpa [hrest] using List.takeWhile_append_dropWhile (p := p) (l := cs)
  | cons c rest =>
    obtain ⟨first, later, hspelled, -⟩ := Utf8.exists_utf8EncodeChar c
    rw [hrest, Utf8.encode_eq (String.ofList (c :: rest)), String.toList_ofList, List.flatMap_cons,
      hspelled, List.cons_append, List.length_cons] at hbytes
    omega

/-- **A text that is cut and read strictly is itself exactly if it is not cut and holds no
escape.** -/
theorem Percent.decodeText?_takeWhile_eq_some_iff {p : Char → Bool} {s : String} :
    decodeText? (String.ofList (s.toList.takeWhile p)) = some s ↔
      s.toList.all p = true ∧ hasEscape (Utf8.encode s) = false := by
  rw [← takeWhile_eq_self_iff_all, ← decode_eq_self_iff, decodeText?]
  constructor
  · intro h
    have hread := Utf8.encode_of_decode? h
    have hcut : s.toList.takeWhile p = s.toList := by
      refine takeWhile_eq_self_of_length ?_
      rw [String.ofList_toList, hread]
      exact (length_decode _).1
    rw [hcut, String.ofList_toList] at hread
    exact ⟨hcut, hread.symm⟩
  · rintro ⟨hcut, hread⟩
    rw [hcut, String.ofList_toList, hread, Utf8.decode?_encode]

namespace Form

/-- What a character stands for in a form: a plus sign for a space. -/
def unplus (c : Char) : Char := if c = '+' then ' ' else c

theorem decodePart_ofList (cs : List Char) : decodePart (Utf8.encode (String.ofList cs)) =
    Percent.decodeTextLenient ((cs.map unplus).flatMap String.utf8EncodeChar) := by
  have hchar (c : Char) : (String.utf8EncodeChar c).map (fun b => if b = 43 then 32 else b) =
      String.utf8EncodeChar (unplus c) := by
    by_cases hc : c = '+'
    · subst hc
      decide
    · have hplus : (43 : UInt8) ∉ String.utf8EncodeChar c := fun hmem =>
        hc ((Utf8.mem_utf8EncodeChar_iff (c := '+') (by decide)).mp hmem).symm
      rw [unplus, if_neg hc]
      refine (List.map_congr_left fun b hb => ?_).trans (List.map_id _)
      have hne : b ≠ 43 := fun heq => hplus (heq ▸ hb)
      rw [if_neg hne]
      rfl
  rw [decodePart, Utf8.encode_eq, String.toList_ofList, List.map_flatMap, List.flatMap_map]
  simp only [hchar]

/-- **A text that is cut and read from a form is itself exactly if it is not cut and holds neither a
plus sign nor an escape.** -/
theorem decodePart_takeWhile_eq_iff {p : Char → Bool} {s : String} :
    decodePart (Utf8.encode (String.ofList (s.toList.takeWhile p))) = s ↔
      s.toList.all p = true ∧ '+' ∉ s.toList ∧ Percent.hasEscape (Utf8.encode s) = false := by
  rw [← takeWhile_eq_self_iff_all, decodePart_ofList, Utf8.encode_eq]
  constructor
  · intro h
    obtain ⟨hle, hlt⟩ := Percent.length_decodeTextLenient ((s.toList.takeWhile p).map unplus)
    rw [h, List.length_map] at hle hlt
    have hcut : s.toList.takeWhile p = s.toList := (List.takeWhile_prefix p).eq_of_length_le hle
    rw [hcut] at h hlt
    have hescape : Percent.hasEscape ((s.toList.map unplus).flatMap String.utf8EncodeChar) = false :=
      eq_false_of_ne_true fun htrue => Nat.lt_irrefl _ (hlt htrue)
    rw [Percent.decodeTextLenient_of_escapes hescape] at h
    have hplain : s.toList.map unplus = s.toList := by
      rw [← String.toList_ofList (l := s.toList.map unplus), h]
    refine ⟨hcut, fun hmem => ?_, by rwa [hplain] at hescape⟩
    rw [← hplain] at hmem
    obtain ⟨c, -, hc⟩ := List.mem_map.mp hmem
    unfold unplus at hc
    split at hc
    · exact absurd hc (by decide)
    · contradiction
  · rintro ⟨hcut, hplus, hescape⟩
    have hplain : s.toList.map unplus = s.toList := by
      refine (List.map_congr_left fun c hc => ?_).trans (List.map_id _)
      have hne : c ≠ '+' := fun heq => hplus (heq ▸ hc)
      rw [unplus, if_neg hne]
      rfl
    rw [hcut, hplain, Percent.decodeTextLenient_of_escapes hescape, String.ofList_toList]

/-- The first piece of a query is what stands up to the first ampersand. -/
theorem exists_splitAt_encode (s : String) : ∃ later, splitAt 38 (Utf8.encode s) =
    Utf8.encode (String.ofList (s.toList.takeWhile (· != '&'))) :: later := by
  have hpass {cs : List Char} (h : '&' ∉ cs) :
      ∀ b ∈ Utf8.encode (String.ofList cs), (b == (38 : UInt8)) = false := by
    intro b hb
    rw [beq_eq_false_iff_ne]
    rintro rfl
    have hmem := (Utf8.mem_encode_iff (c := '&') (by decide) _).mp hb
    rw [String.toList_ofList] at hmem
    exact h hmem
  by_cases hmem : '&' ∈ s.toList
  · obtain ⟨front, rest, hs, hfront⟩ := List.eq_append_cons_of_mem hmem
    have hbytes : Utf8.encode s =
        Utf8.encode (String.ofList front) ++ 38 :: Utf8.encode (String.ofList rest) := by
      have hsign : String.utf8EncodeChar '&' = [38] := by decide
      simp only [Utf8.encode_eq, hs, String.toList_ofList, List.flatMap_append, List.flatMap_cons,
        hsign, List.singleton_append]
    rw [hs, takeWhile_bne_append hfront, hbytes, splitAt,
      List.splitOnP_append_cons_of_forall_mem (hpass hfront) 38 rfl]
    exact ⟨_, rfl⟩
  · have hall : s.toList.takeWhile (· != '&') = s.toList :=
      List.takeWhile_eq_self_iff.mpr (Sql.bne_of_notMem hmem)
    have hbytes := hpass hmem
    rw [String.ofList_toList] at hbytes
    rw [hall, String.ofList_toList, splitAt, List.splitOnP_eq_singleton hbytes]
    exact ⟨_, rfl⟩

/-- A plain key that comes first is looked up as what stands up to the first ampersand. -/
theorem lookup_pairs {key : String} (hkey : key.toList.all isPlain = true)
    (hequals : '=' ∉ key.toList) (hampersand : '&' ∉ key.toList) (value : List Char) :
    (pairs (key ++ "=" ++ String.ofList value)).lookup key =
      some (decodePart (Utf8.encode (String.ofList (value.takeWhile (· != '&'))))) := by
  have hpass : ∀ d ∈ (key ++ "=").toList, (d != '&') = true := by
    have hsign : "=".toList = ['='] := rfl
    exact Sql.bne_of_notMem (by simp [hsign, hampersand])
  have hfirst : Utf8.encode (String.ofList
      ((key ++ "=" ++ String.ofList value).toList.takeWhile (· != '&'))) =
        Utf8.encode key ++ 61 :: Utf8.encode (String.ofList (value.takeWhile (· != '&'))) := by
    have hsign : Utf8.encode "=" = [61] := by decide +kernel
    rw [String.toList_append, List.takeWhile_append_of_pos hpass, String.toList_ofList,
      String.ofList_append, String.ofList_toList, Utf8.encode_append, Utf8.encode_append, hsign,
      List.append_assoc, List.singleton_append]
  obtain ⟨later, hpieces⟩ := exists_splitAt_encode (key ++ "=" ++ String.ofList value)
  rw [pairs, hpieces, hfirst, List.filter_cons_of_pos (by simp), List.map_cons,
    decodePair_append hkey hequals, List.lookup_cons_self]

end Form

/-! ## Connection strings -/

namespace DatabaseConfig

/-- The authority that a connection string is to have: the credentials, the host and the port. -/
def authorityText (c : DatabaseConfig) : List Char :=
  c.credentialsText ++ '@' :: (c.host.toList ++ ':' :: (toString c.port).toList)

/-- Whether a connection string says, as a URL, what was configured: it has the authority, the path
spells the database, and the query the mode. -/
def ReadsBack (c : DatabaseConfig) : Prop :=
  ∃ target, Url.parts? c.connectionString = some (c.authorityText, target) ∧
    Percent.decodeText? (String.ofList (target.path.toList.drop 1)) = some c.database ∧
    ((target.query.map Form.pairs).getD []).lookup "sslmode" = some c.sslMode

variable {c : DatabaseConfig}

/-- What follows the authority in a connection string. -/
def targetText (c : DatabaseConfig) : List Char :=
  ('/' :: c.database.toList) ++ '?' :: ("sslmode=".toList ++ c.sslMode.toList)

theorem toList_connectionString_eq (c : DatabaseConfig) : c.connectionString.toList =
    c.driver.toList ++ ':' :: '/' :: '/' :: (c.authorityText ++ c.targetText) := by
  have hmode : "?sslmode=".toList = '?' :: "sslmode=".toList := rfl
  rw [toList_connectionString]
  simp only [authorityText, credentialsText, serverText, targetText, hmode, List.append_assoc,
    List.cons_append]

theorem parts?_connectionString (h : c.Checked) : Url.parts? c.connectionString =
    some ((c.authorityText ++ c.targetText).takeWhile (!Url.endsAuthority ·),
      .split ((c.authorityText ++ c.targetText).dropWhile (!Url.endsAuthority ·))) := by
  rw [Url.parts?, toList_connectionString_eq, Url.behindScheme?_append h.colon_notMem,
    Option.map_some]

theorem all_credentialsText (c : DatabaseConfig) :
    c.credentialsText.all (!Url.endsAuthority ·) = true := by
  have hmarks : ∀ d ∈ ['/', '?', '#'], Percent.isKept d = false ∧ d ≠ '%' ∧ d ≠ ':' :=
    forall_mem_of_all (by decide)
  refine Url.all_endsAuthority_iff.mpr fun d hd => ?_
  obtain ⟨hkept, hpercent, hcolon⟩ := hmarks d hd
  exact c.notMem_credentialsText hkept hpercent hcolon

/-- The authority goes on to the end if the host does not end it. -/
theorem all_authorityText_iff : c.authorityText.all (!Url.endsAuthority ·) = true ↔
    c.host.toList.all (!Url.endsAuthority ·) = true := by
  have hport : (toString c.port).toList.all (!Url.endsAuthority ·) = true := by
    have hmarks : ∀ d ∈ ['/', '?', '#'], d.isDigit = false := forall_mem_of_all (by decide)
    refine Url.all_endsAuthority_iff.mpr fun d hd hmem => ?_
    have hdigit := Sql.isDigit_of_mem_toString hmem
    rw [hmarks d hd] at hdigit
    exact Bool.false_ne_true hdigit
  rw [authorityText, List.all_append, List.all_cons, List.all_append, List.all_cons,
    c.all_credentialsText, hport]
  simp [Url.endsAuthority]

theorem path_targetText (c : DatabaseConfig) : (Http.Target.split c.targetText).path =
    String.ofList ('/' :: c.database.toList.takeWhile Http.Target.isPathChar) := by
  rw [Http.Target.path_split, targetText, takeWhile_append_cons (by decide), List.takeWhile_cons,
    if_pos (by decide)]

theorem query_targetText (h : c.database.toList.all Http.Target.isPathChar = true) :
    (Http.Target.split c.targetText).query =
      some ("sslmode" ++ "=" ++ String.ofList (c.sslMode.toList.takeWhile (· != '#'))) := by
  have hpath : ('/' :: c.database.toList).all Http.Target.isPathChar = true := by
    rw [List.all_cons, h]
    decide
  have hkey : ∀ d ∈ "sslmode=".toList, (d != '#') = true := forall_mem_of_all (by decide)
  rw [targetText, Http.Target.query_split hpath, List.takeWhile_append_of_pos hkey,
    String.ofList_append]
  rfl

/-- An authority that goes on to the end is read, and the rest is the target. -/
theorem parts?_of_authority (h : c.Checked)
    (hauthority : c.authorityText.all (!Url.endsAuthority ·) = true) :
    Url.parts? c.connectionString = some (c.authorityText, .split c.targetText) := by
  have hpass := List.all_eq_true.mp hauthority
  rw [parts?_connectionString h, List.takeWhile_append_of_pos hpass,
    List.dropWhile_append_of_pos hpass]
  simp [targetText, Url.endsAuthority]

/-- An authority that is read goes on to the end. -/
theorem all_authorityText_of_parts? (h : c.Checked) {target : Http.Target}
    (hread : Url.parts? c.connectionString = some (c.authorityText, target)) :
    c.authorityText.all (!Url.endsAuthority ·) = true := by
  rw [parts?_connectionString h, Option.some_inj, Prod.mk.injEq] at hread
  rw [List.all_eq_true]
  intro d hd
  rw [← hread.1] at hd
  exact List.mem_takeWhile_imp (p := (!Url.endsAuthority ·)) hd

/-- The path spells the database exactly if the name goes on to the end and holds no escape. -/
theorem decodeText?_targetText_iff : Percent.decodeText? (String.ofList
    ((Http.Target.split c.targetText).path.toList.drop 1)) = some c.database ↔
      c.database.toList.all Http.Target.isPathChar = true ∧
        Percent.hasEscape (Utf8.encode c.database) = false := by
  rw [path_targetText, String.toList_ofList, List.drop_succ_cons, List.drop_zero,
    Percent.decodeText?_takeWhile_eq_some_iff]

/-- Behind a path that goes on to the end, the query says the mode exactly if no mark stands in it
that ends it and nothing that stands for something else. -/
theorem lookup_targetText_iff (h : c.database.toList.all Http.Target.isPathChar = true) :
    (((Http.Target.split c.targetText).query.map Form.pairs).getD []).lookup "sslmode" =
      some c.sslMode ↔
        (∀ d ∈ ['#', '&', '+'], d ∉ c.sslMode.toList) ∧
          Percent.hasEscape (Utf8.encode c.sslMode) = false := by
  have hmarks : c.sslMode.toList.all (fun d => d != '&' && d != '#') = true ↔
      ∀ d ∈ ['&', '#'], d ∉ c.sslMode.toList :=
    all_iff_of_marks fun d => by simp [imp_iff_not_or]
  rw [query_targetText h, Option.map_some, Option.getD_some,
    Form.lookup_pairs (by decide) (by decide) (by decide), takeWhile_twice, Option.some_inj,
    Form.decodePart_takeWhile_eq_iff, hmarks, ← and_assoc]
  simp [and_assoc, and_left_comm]

/-- **A connection string says what was configured exactly if nothing in it ends a part early or
stands for something else.** -/
theorem readsBack_iff (h : c.Checked) : c.ReadsBack ↔
    (∀ d ∈ ['/', '?', '#'], d ∉ c.host.toList) ∧
      ((∀ d ∈ ['?', '#'], d ∉ c.database.toList) ∧
        Percent.hasEscape (Utf8.encode c.database) = false) ∧
      (∀ d ∈ ['#', '&', '+'], d ∉ c.sslMode.toList) ∧
        Percent.hasEscape (Utf8.encode c.sslMode) = false := by
  rw [← Url.all_endsAuthority_iff, ← Http.Target.all_isPathChar_iff, ← all_authorityText_iff]
  constructor
  · rintro ⟨target, hread, hpath, hquery⟩
    have hauthority := all_authorityText_of_parts? h hread
    rw [parts?_of_authority h hauthority, Option.some_inj, Prod.mk.injEq] at hread
    obtain ⟨-, rfl⟩ := hread
    have hdatabase := decodeText?_targetText_iff.mp hpath
    exact ⟨hauthority, hdatabase, (lookup_targetText_iff hdatabase.1).mp hquery⟩
  · rintro ⟨hauthority, hdatabase, hmode⟩
    exact ⟨_, parts?_of_authority h hauthority, decodeText?_targetText_iff.mpr hdatabase,
      (lookup_targetText_iff hdatabase.1).mpr hmode⟩

end DatabaseConfig

end Rowgate
