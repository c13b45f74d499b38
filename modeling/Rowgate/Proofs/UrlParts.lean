import Mathlib.Data.List.TakeDrop
import Rowgate.Proofs.Decimals
import Rowgate.Proofs.Locations
import Rowgate.Url.Basic
/-
The reader of URLs, part by part.

Each part has one lemma about what the reader makes of it where nothing in it is special: credentials
and hosts of kept characters stay as they are, the digits of a number are the port, and a path whose
segments are no dots is written character by character. Writing replaces characters by escapes only,
so a part without escapes of its own is spelled by what is written (`decode_encodeWith`). The parts
together are `ofString?_of_clean`.
-/
set_option autoImplicit false

namespace Rowgate.Url

open Percent (byteOf decode digit hasEscape isKept startsDigits)

/-! ## Written characters -/

/-- What a character is written as. -/
def written (special : List Char) (c : Char) : List Char :=
  if isControl c || special.contains c then percentChar c else [c]

theorem encodeWith_eq (special cs : List Char) :
    encodeWith special cs = String.ofList (cs.flatMap (written special)) := rfl

theorem toNat_of_isKept {c : Char} (h : isKept c = true) : 0x20 < c.toNat ∧ c.toNat < 0x7F := by
  have hlt := Percent.lt_of_isKept h
  have hall : ∀ n < 128, isKept (Char.ofNat n) = true → 0x20 < n ∧ n < 0x7F := by decide +kernel
  have hc := hall c.toNat hlt
  rw [Char.ofNat_toNat] at hc
  exact hc h

theorem isControl_of_isKept {c : Char} (h : isKept c = true) : isControl c = false := by
  obtain ⟨hlow, hhigh⟩ := toNat_of_isKept h
  simp only [isControl, Bool.or_eq_false_iff, decide_eq_false_iff_not]
  omega

theorem encodeWith_of_notMem {special cs : List Char}
    (h : ∀ c ∈ cs, isControl c = false ∧ c ∉ special) : encodeWith special cs = String.ofList cs := by
  have hchar : ∀ c ∈ cs, written special c = [c] := by
    intro c hc
    obtain ⟨hcontrol, hspecial⟩ := h c hc
    rw [written, if_neg (by simp [hcontrol, hspecial])]
  rw [encodeWith_eq, List.flatMap_congr hchar, List.flatMap_singleton']

/-- Kept characters and percent signs are written as they are in each part. -/
theorem encodeWith_of_kept {special cs : List Char} (h : ∀ c ∈ cs, isKept c = true ∨ c = '%')
    (hspecial : ∀ d ∈ special, isKept d = false ∧ d ≠ '%') :
    encodeWith special cs = String.ofList cs := by
  refine encodeWith_of_notMem fun c hc => ⟨?_, fun hmem => ?_⟩
  · exact (h c hc).elim isControl_of_isKept fun heq => heq ▸ rfl
  · obtain ⟨hkept, hpercent⟩ := hspecial c hmem
    exact (h c hc).elim (fun hc => by rw [hkept] at hc; contradiction) hpercent

/-! ### Read back -/

/-- The escape of a byte. -/
def escapeBytes (b : UInt8) : List UInt8 :=
  [37, byteOf (digit (b.toNat / 16)), byteOf (digit (b.toNat % 16))]

theorem decode_escapeBytes (bytes rest : List UInt8) :
    decode (bytes.flatMap escapeBytes ++ rest) = bytes ++ decode rest := by
  induction bytes with
  | nil => rfl
  | cons b bytes ih =>
    rw [List.flatMap_cons, List.append_assoc, escapeBytes]
    simp only [List.cons_append, List.nil_append]
    rw [Percent.decode_escape, ih]

/-- A character is written as its byte or as the escapes of its bytes. -/
theorem utf8_written (special : List Char) (c : Char) :
    (written special c).flatMap String.utf8EncodeChar = [byteOf c] ∧
        String.utf8EncodeChar c = [byteOf c] ∨
      (written special c).flatMap String.utf8EncodeChar =
        (String.utf8EncodeChar c).flatMap escapeBytes := by
  unfold written
  split
  · right
    have hbyte (b : UInt8) : (['%', digit (b.toNat / 16), digit (b.toNat % 16)]).flatMap
        String.utf8EncodeChar = escapeBytes b := by
      have hb : b.toNat < 256 := b.toNat_lt
      have hdigit {n : Nat} (hn : n < 16) : String.utf8EncodeChar (digit n) = [byteOf (digit n)] :=
        Utf8.utf8EncodeChar_of_lt (Percent.lt_of_isKept (by
          simp [isKept, Percent.isAlphanum_digit hn]))
      have hpercent : String.utf8EncodeChar '%' = [37] := by decide
      simp only [List.flatMap_cons, List.flatMap_nil, hpercent, hdigit (n := b.toNat / 16) (by omega),
        hdigit (n := b.toNat % 16) (by omega)]
      rfl
    rw [percentChar, Utf8.encode_eq, String.toList_ofList, List.flatMap_assoc]
    simp only [hbyte, List.flatMap_cons, List.flatMap_nil, List.append_nil]
  · next hnot =>
    left
    have hlt : c.toNat < 128 := by
      simp only [isControl, Bool.or_eq_true, decide_eq_true_eq, not_or, Nat.not_le] at hnot
      omega
    rw [List.flatMap_cons, List.flatMap_nil, List.append_nil, Utf8.utf8EncodeChar_of_lt hlt]
    exact ⟨rfl, rfl⟩

/-- No digit comes first where a character is escaped. -/
theorem startsDigits_escaped (c : Char) (rest : List UInt8) :
    startsDigits ((String.utf8EncodeChar c).flatMap escapeBytes ++ rest) = false ∧
      ∀ b, startsDigits (b :: ((String.utf8EncodeChar c).flatMap escapeBytes ++ rest)) = false := by
  have hpercent : Percent.digitValue? 37 = none := rfl
  obtain ⟨first, later, hspelled, -⟩ := Utf8.exists_utf8EncodeChar c
  rw [hspelled, List.flatMap_cons, escapeBytes]
  simp only [List.cons_append, List.nil_append, startsDigits, hpercent, Option.isSome_none,
    Bool.false_and, Bool.and_false, implies_true, and_self]

/-- Digits that come first where a text is written come first in the text. -/
theorem startsDigits_of_written {special cs : List Char}
    (h : startsDigits ((cs.flatMap (written special)).flatMap String.utf8EncodeChar) = true) :
    startsDigits (cs.flatMap String.utf8EncodeChar) = true := by
  cases cs with
  | nil => exact h
  | cons c cs =>
    rw [List.flatMap_cons, List.flatMap_append] at h
    rcases utf8_written special c with ⟨hwritten, hspelled⟩ | hwritten
    · cases cs with
      | nil => rwa [hwritten, ← hspelled] at h
      | cons d cs =>
        rw [hwritten, List.flatMap_cons, List.flatMap_append, List.singleton_append] at h
        rcases utf8_written special d with ⟨hwritten', hspelled'⟩ | hwritten'
        · rw [hwritten'] at h
          rw [List.flatMap_cons, hspelled, List.flatMap_cons, hspelled']
          exact h
        · rw [hwritten', (startsDigits_escaped d _).2] at h
          contradiction
    · rw [hwritten, (startsDigits_escaped c _).1] at h
      contradiction

/-- **A text without escapes is spelled by what is written for it.** -/
theorem decode_encodeWith {special cs : List Char}
    (h : hasEscape (cs.flatMap String.utf8EncodeChar) = false) :
    decode (Utf8.encode (encodeWith special cs)) = cs.flatMap String.utf8EncodeChar := by
  rw [encodeWith_eq, Utf8.encode_eq, String.toList_ofList]
  induction cs with
  | nil => rfl
  | cons c cs ih =>
    rw [List.flatMap_cons] at h
    have hrest : hasEscape (cs.flatMap String.utf8EncodeChar) = false :=
      eq_false_of_ne_true fun htrue => by
        rw [Percent.hasEscape_of_append htrue] at h
        contradiction
    rw [List.flatMap_cons, List.flatMap_append, List.flatMap_cons, ← ih hrest]
    rcases utf8_written special c with ⟨hwritten, hspelled⟩ | hwritten
    · -- a percent sign that is kept starts no escape where it started none
      rw [hspelled, List.singleton_append, hasEscape] at h
      rw [hwritten, hspelled, List.singleton_append, List.singleton_append]
      refine Percent.decode_cons_of_escapes (eq_false_of_ne_true fun htrue => ?_)
      obtain ⟨hpercent, hdigits⟩ := Bool.and_eq_true_iff.mp htrue
      rw [hpercent, startsDigits_of_written hdigits] at h
      contradiction
    · rw [hwritten, decode_escapeBytes]

/-! ## Authorities -/

theorem splitAtLast_append {sep : Char} {after : List Char} (h : sep ∉ after)
    (before : List Char) : splitAtLast sep (before ++ sep :: after) = some (before, after) := by
  have hreverse : (before ++ sep :: after).reverse = after.reverse ++ sep :: before.reverse := by
    simp
  have hnot : sep ∉ after.reverse := by rwa [List.mem_reverse]
  rw [splitAtLast, hreverse, List.span_eq_takeWhile_dropWhile, takeWhile_bne_append hnot,
    dropWhile_bne_append hnot]
  simp

/-- The first colon ends the user name; an empty password is none. -/
theorem credentials_append {username password : List Char}
    (husername : ∀ c ∈ username, isKept c = true ∨ c = '%')
    (hpassword : ∀ c ∈ password, isKept c = true ∨ c = '%') :
    (credentials (username ++ ':' :: password)).1 = String.ofList username ∧
      (credentials (username ++ ':' :: password)).2.getD "" = String.ofList password := by
  have hspecial : ∀ d ∈ userSpecial, isKept d = false ∧ d ≠ '%' := forall_mem_of_all (by decide)
  have hcolon : ':' ∉ username := fun hmem => by
    rcases husername _ hmem with h | h <;> exact absurd h (by decide)
  rw [credentials, takeWhile_bne_append hcolon, dropWhile_bne_append hcolon,
    encodeWith_of_kept husername hspecial]
  cases password with
  | nil => exact ⟨rfl, rfl⟩
  | cons c password => exact ⟨rfl, encodeWith_of_kept hpassword hspecial⟩

theorem hostLength_append {host : List Char} (h : ∀ c ∈ host, isKept c = true) (rest : List Char) :
    hostLength false (host ++ ':' :: rest) = host.length := by
  induction host with
  | nil => rfl
  | cons c host ih =>
    obtain ⟨hc, hhost⟩ := List.forall_mem_cons.mp h
    have hcolon : (c == ':') = false := by
      rw [beq_eq_false_iff_ne]
      rintro rfl
      exact absurd hc (by decide)
    have hbracket : (c == '[') = false := by
      rw [beq_eq_false_iff_ne]
      rintro rfl
      exact absurd hc (by decide)
    rw [List.cons_append, hostLength, hcolon, hbracket, Bool.false_and, if_neg Bool.false_ne_true,
      if_neg Bool.false_ne_true, ite_self, ih hhost, List.length_cons]

theorem host?_of_kept {host : List Char} (h : ∀ c ∈ host, isKept c = true) :
    host? host = some (String.ofList host) := by
  have hallowed : host.any hostForbidden.contains = false := by
    have hforbidden : ∀ d ∈ hostForbidden, isKept d = false := forall_mem_of_all (by decide)
    rw [List.any_eq_false]
    intro c hc hmem
    have hkept := hforbidden c (List.contains_iff_mem.mp hmem)
    rw [h c hc] at hkept
    exact Bool.false_ne_true hkept.symm
  unfold host?
  split
  · exact absurd (h '[' List.mem_cons_self) (by decide)
  · rw [hallowed, if_neg Bool.false_ne_true,
      encodeWith_of_kept (fun c hc => .inl (h c hc)) (List.forall_mem_nil _)]

/-- The decimals of a number are the port. -/
theorem port?_toString {n : Nat} (h : n < UInt16.size) :
    port? (':' :: (toString n).toList) = some (some n) := by
  obtain ⟨⟨hne, hdigits⟩, hvalue⟩ := Text.IntegerRange.digits_toString n
  rw [Nat.ofDigitChars_eq_foldl] at hvalue
  have hall : (toString n).toList.all Char.isDigit = true := List.all_eq_true.mpr hdigits
  generalize (toString n).toList = ds at hne hall hvalue
  rw [port?.eq_def]
  split
  · contradiction
  · next heq => exact absurd (List.cons.inj heq).2 hne
  · next ds' _ heq =>
    obtain rfl := (List.cons.inj heq).2
    rw [if_pos hall]
    dsimp only
    rw [hvalue, if_pos h]
  · next hcolon => exact absurd rfl (hcolon ds)

/-! ## Paths -/

/-- Whether a segment of a path is one dot or two. -/
def isDots (segment : List Char) : Bool :=
  plainDots segment = ['.'] ∨ plainDots segment = ['.', '.']

/-- Segments that are no dots stay. -/
theorem resolve_of_dots {segments : List (List Char)} (h : ∀ s ∈ segments, isDots s = false)
    (done : List (List Char)) : resolve done segments = done.reverse ++ segments := by
  induction segments generalizing done with
  | nil => rw [resolve, List.append_nil]
  | cons segment rest ih =>
    obtain ⟨hsegment, hrest⟩ := List.forall_mem_cons.mp h
    obtain ⟨hone, htwo⟩ := not_or.mp (of_decide_eq_false hsegment)
    rw [resolve]
    dsimp only
    rw [if_neg hone, if_neg htwo, ih hrest, List.reverse_cons, List.append_assoc,
      List.singleton_append]

/-- A path without dots is written character by character. -/
theorem toList_writePath {cs : List Char} (h : ∀ s ∈ cs.splitOn '/', isDots s = false) :
    (writePath ('/' :: cs)).toList = '/' :: cs.flatMap (written pathSpecial) := by
  -- what is written for segments is written for the path that they are the segments of
  have hsegments (segments : List (List Char)) (hne : segments ≠ []) :
      segments.flatMap (fun s => '/' :: s.flatMap (written pathSpecial)) =
        '/' :: (['/'].intercalate segments).flatMap (written pathSpecial) := by
    induction segments with
    | nil => contradiction
    | cons segment rest ih =>
      cases rest with
      | nil => simp
      | cons next later =>
        have hslash : written pathSpecial '/' = ['/'] := by decide
        rw [List.flatMap_cons, ih (by simp), List.intercalate_cons_cons, List.flatMap_append,
          List.flatMap_append, List.flatMap_singleton, hslash]
        simp
  rw [writePath, List.isEmpty_cons, if_neg Bool.false_ne_true, List.head?_cons, if_pos rfl,
    List.drop_succ_cons, List.drop_zero, resolve_of_dots h]
  have hpieces := hsegments (cs.splitOn '/') (List.splitOn_ne_nil _ _)
  rw [List.intercalate_splitOn] at hpieces
  rw [List.reverse_nil, List.nil_append, String.toList_join, List.flatMap_map, ← hpieces]
  refine List.flatMap_congr fun s _ => ?_
  rw [String.toList_append, encodeWith_eq, String.toList_ofList, String.toList_ofList,
    List.singleton_append]

/-- Behind its slash, what is written for a path starts with a slash only if the path does. -/
theorem dropWhile_writePath {cs : List Char} (hdots : ∀ s ∈ cs.splitOn '/', isDots s = false)
    (hslash : cs.head? ≠ some '/') :
    (writePath ('/' :: cs)).toList.dropWhile (· == '/') = cs.flatMap (written pathSpecial) := by
  rw [toList_writePath hdots, List.dropWhile_cons, if_pos (by decide)]
  cases cs with
  | nil => rfl
  | cons c cs =>
    have hc : (c == '/') = false := by simpa using hslash
    rw [List.flatMap_cons, written]
    split
    · obtain ⟨first, later, hspelled, -⟩ := Utf8.exists_utf8EncodeChar c
      rw [percentChar, Utf8.encode_eq, String.toList_ofList, List.flatMap_singleton, hspelled]
      rfl
    · rw [List.singleton_append, List.dropWhile_cons, hc, if_neg Bool.false_ne_true]

/-! ## Reading -/

/-- A text without tabs and line ends, and without blanks around it, is read as it is. -/
theorem clean_of_notMem {s : String} (hmarks : ∀ d ∈ ['\t', '\n', '\r'], d ∉ s.toList)
    (hfirst : ∀ c ∈ s.toList.head?, 0x20 < c.toNat)
    (hlast : ∀ c ∈ s.toList.getLast?, 0x20 < c.toNat) : clean s = s.toList := by
  have hstay (cs : List Char) (hcs : ∀ c ∈ cs.head?, 0x20 < c.toNat) :
      cs.dropWhile (fun c => decide (c.toNat ≤ 0x20)) = cs := by
    cases cs with
    | nil => rfl
    | cons c cs =>
      rw [List.dropWhile_cons, decide_eq_false (Nat.not_le.mpr (hcs c rfl)),
        if_neg Bool.false_ne_true]
  unfold clean
  dsimp only
  rw [hstay _ hfirst, hstay _ (by rwa [List.head?_reverse]), List.reverse_reverse,
    List.filter_eq_self]
  intro c hc
  have hne : ∀ d ∈ ['\t', '\n', '\r'], c ≠ d := fun d hd heq => hmarks d hd (heq ▸ hc)
  simp [hne '\t' (by simp), hne '\n' (by simp), hne '\r' (by simp)]

section Parts

variable {s : String} {scheme user host path query : List Char} {port : Nat}

/-- A host of kept characters and a port hold no other character than these and a colon. -/
theorem notMem_server (hhost : ∀ c ∈ host, isKept c = true) {d : Char} (hkept : isKept d = false)
    (hcolon : d ≠ ':') : d ∉ host ++ ':' :: (toString port).toList := by
  intro hmem
  rcases List.mem_append.mp hmem with hmem | hmem
  · rw [hhost d hmem] at hkept
    contradiction
  rcases List.mem_cons.mp hmem with heq | hmem
  · exact hcolon heq
  · have hdigit := Sql.isDigit_of_mem_toString hmem
    simp [isKept, Char.isAlphanum, hdigit] at hkept

/-- The authority of credentials and such a server goes on to the slash. -/
theorem takeWhile_authority (huser : user.all (!endsAuthority ·) = true)
    (hhost : ∀ c ∈ host, isKept c = true) (rest : List Char) :
    ((user ++ '@' :: (host ++ ':' :: (toString port).toList)) ++ '/' :: rest).takeWhile
        (!endsAuthority ·) =
      user ++ '@' :: (host ++ ':' :: (toString port).toList) := by
  have hmarks : ∀ d ∈ ['/', '?', '#'], isKept d = false ∧ d ≠ ':' := forall_mem_of_all (by decide)
  have hserver : (host ++ ':' :: (toString port).toList).all (!endsAuthority ·) = true :=
    all_endsAuthority_iff.mpr fun d hd => notMem_server hhost (hmarks d hd).1 (hmarks d hd).2
  have hall : (user ++ '@' :: (host ++ ':' :: (toString port).toList)).all (!endsAuthority ·) =
      true := by
    rw [List.all_append, List.all_cons, huser, hserver]
    decide
  rw [takeWhile_append_cons (by decide), takeWhile_eq_self_iff_all.mpr hall]

/-- **The parts of a URL are read one by one**, if nothing in them ends them early. -/
theorem ofString?_of_clean
    (hclean : clean s = scheme ++ ':' :: '/' :: '/' ::
      ((user ++ '@' :: (host ++ ':' :: (toString port).toList)) ++ ('/' :: path ++ '?' :: query)))
    (hscheme : ':' ∉ scheme) (huser : user.all (!endsAuthority ·) = true)
    (hhost : ∀ c ∈ host, isKept c = true) (hnonempty : host ≠ []) (hport : port < UInt16.size)
    (hpath : '?' ∉ path ∧ '#' ∉ path) (hquery : '#' ∉ query) :
    ofString? s = some {
      scheme := String.ofList (scheme.map Char.toLower)
      username := (credentials user).1
      password := (credentials user).2
      host := String.ofList host
      port := some port
      path := writePath ('/' :: path)
      query := some (encodeWith querySpecial query) } := by
  have hserver {d : Char} (hkept : isKept d = false) (hcolon : d ≠ ':') :
      d ∉ host ++ ':' :: (toString port).toList := notMem_server hhost hkept hcolon
  -- the server: its host, then the port
  have hlength : hostLength false (host ++ ':' :: (toString port).toList) = host.length :=
    hostLength_append hhost _
  have htake : (host ++ ':' :: (toString port).toList).take host.length = host := List.take_left
  have hdrop : (host ++ ':' :: (toString port).toList).drop host.length =
      ':' :: (toString port).toList := List.drop_left
  have hbackslash : ∀ c ∈ ':' :: (toString port).toList, (c != '\\') = true := fun c hc =>
    Sql.bne_of_notMem (hserver (by decide) (by decide)) c (List.mem_append_right host hc)
  have hportText := List.takeWhile_eq_self_iff.mpr hbackslash
  have hbehind := List.dropWhile_eq_nil_iff.mpr hbackslash
  -- the authority: the credentials, then the server
  have hsplit := splitAtLast_append (hserver (d := '@') (by decide) (by decide)) user
  have hauthority : ((user ++ '@' :: (host ++ ':' :: (toString port).toList)) ++
      ('/' :: path ++ '?' :: query)).takeWhile (!endsAuthority ·) =
        user ++ '@' :: (host ++ ':' :: (toString port).toList) :=
    takeWhile_authority huser hhost (path ++ '?' :: query)
  generalize host ++ ':' :: (toString port).toList = server at *
  -- the target: the path, then the query
  have hpathText : ('/' :: path ++ '?' :: query).takeWhile (· != '?') = '/' :: path :=
    takeWhile_bne_append (by simpa using hpath.1) query
  have hqueryText : ('/' :: path ++ '?' :: query).drop ('/' :: path).length = '?' :: query :=
    List.drop_left
  have htarget : ('/' :: path ++ '?' :: query).takeWhile (· != '#') = '/' :: path ++ '?' :: query :=
    List.takeWhile_eq_self_iff.mpr (Sql.bne_of_notMem (by simp [hpath.2, hquery]))
  generalize '/' :: path ++ '?' :: query = target at *
  have hempty : (String.ofList host).isEmpty = false := by
    rw [Bool.eq_false_iff, Ne, String.isEmpty_iff]
    simpa using hnonempty
  simp only [ofString?, hclean, takeWhile_bne_append hscheme, List.drop_left, hauthority, hsplit,
    Option.getD_some, hlength, htake, hdrop, hportText, hbehind, List.nil_append, htarget, hpathText,
    hqueryText, host?_of_kept hhost, port?_toString hport, Option.bind_eq_bind, Option.bind_some,
    hempty, Bool.false_and, Bool.false_eq_true, if_false]
  rfl

end Parts

end Rowgate.Url
