import Rowgate.Proofs.UrlParts
import Rowgate.Store.Pool
/-
Where a configuration's pool leads.

As a URL, the connection string of a checked configuration says what was configured exactly if nothing
in the host, the database and the mode ends a part early or stands for something else; only the
credentials are encoded, so nothing else keeps those characters apart. A pool is opened through the
reader of URLs, which also resolves dots in paths and drops tabs and line ends. Where none of that
happens, the pool leads to the database that is configured. Behind a question mark it does not: the
path ends there, so the pool leads to the database whose name stands in front, and as the rest of the
name is glued to the key of the mode, the mode is not told. The main result is
`connectionString_leads`.
-/
set_option autoImplicit false

namespace Rowgate

open Percent (isKept hasEscape)

namespace Form

theorem isPlain_of_isKept {c : Char} (h : isKept c = true) : isPlain c = true := by
  have hpercent : c ≠ '%' := by
    rintro rfl
    exact absurd h (by decide)
  have hplus : c ≠ '+' := by
    rintro rfl
    exact absurd h (by decide)
  simp [isPlain, Percent.lt_of_isKept h, hpercent, hplus]

/-- A query that is written from plain keys and values is read as these. -/
theorem pairs_written (entries : List (String × String))
    (h : ∀ e ∈ entries, (∀ c ∈ e.1.toList, isKept c = true ∨ c = '?') ∧
      ∀ c ∈ e.2.toList, isKept c = true) :
    pairs (String.intercalate "&" (entries.map fun e => e.1 ++ "=" ++ e.2)) = entries := by
  have hsign : "=".toList = ['='] := rfl
  have hnot {e : String × String} (he : e ∈ entries) {d : Char} (hkept : isKept d = false)
      (hmark : d ≠ '?') : d ∉ e.1.toList ∧ d ∉ e.2.toList := by
    obtain ⟨hkey, hvalue⟩ := h e he
    refine ⟨fun hmem => ?_, fun hmem => ?_⟩
    · exact (hkey d hmem).elim (fun h => by rw [hkept] at h; contradiction) hmark
    · rw [hvalue d hmem] at hkept
      contradiction
  have hampersand : ∀ piece ∈ entries.map fun e => e.1 ++ "=" ++ e.2, '&' ∉ piece.toList := by
    intro piece hpiece
    obtain ⟨e, he, rfl⟩ := List.mem_map.mp hpiece
    have hparts := hnot he (d := '&') (by decide) (by decide)
    simp [hsign, hparts]
  have hnonempty (e : String × String) :
      (Utf8.encode (e.1 ++ "=" ++ e.2)).isEmpty = false := by
    have hequals : Utf8.encode "=" = [61] := by decide +kernel
    simp [hequals]
  have hpair : ∀ e ∈ entries, pairOf (e.1 ++ "=" ++ e.2) = e := by
    intro e he
    obtain ⟨hkey, hvalue⟩ := h e he
    have hplain : ∀ c ∈ e.1.toList, isPlain c = true := fun c hc =>
      (hkey c hc).elim isPlain_of_isKept fun heq => heq ▸ rfl
    exact decodePair_encode (List.all_eq_true.mpr hplain) (hnot he (by decide) (by decide)).1
      (List.all_eq_true.mpr fun c hc => isPlain_of_isKept (hvalue c hc))
  rw [pairs_intercalate hampersand, List.filter_map, List.map_map]
  simp only [Function.comp_def, hnonempty, Bool.not_false, List.filter_true]
  exact (List.map_congr_left hpair).trans (List.map_id _)

end Form

/-! ## Modes -/

namespace Store

theorem isKept_of_toLower {c : Char} (h : c.toLower.isLower = true ∨ c.toLower = '-') :
    isKept c = true := by
  by_cases hupper : c.val ≥ 'A'.val ∧ c.val ≤ 'Z'.val
  · exact Percent.isKept_of_isAlpha (Percent.isAlpha_iff.mpr (.inl hupper))
  · have hsame : c.toLower = c := dif_neg hupper
    rw [hsame] at h
    rcases h with hlower | rfl
    · have hletter : c.isAlpha = (c.isUpper || c.isLower) := rfl
      exact Percent.isKept_of_isAlpha (by rw [hletter, hlower, Bool.or_true])
    · decide

theorem toList_toLower (s : String) : s.toLower.toList = s.toList.map Char.toLower :=
  String.toList_map

/-- A known mode is a text of kept characters. -/
theorem isKept_of_sslMode {mode : String} (h : mode.toLower ∈ sslModes) :
    ∀ c ∈ mode.toList, isKept c = true := by
  have hall : ∀ known ∈ sslModes, known.toList.all (fun c => c.isLower || c == '-') = true := by
    decide
  have hchars := List.all_eq_true.mp (hall _ h)
  rw [toList_toLower] at hchars
  exact fun c hc => isKept_of_toLower (by simpa using hchars _ (List.mem_map_of_mem hc))

/-- A host of kept characters is a host as it is. -/
theorem Destination.withUrlHost_of_kept {host : String} (h : ∀ c ∈ host.toList, isKept c = true)
    (d : Destination) : d.withUrlHost host = some { d with host } := by
  have hnot {c : Char} (hc : c.toNat < 128) (hkept : isKept c = false) :
      UInt8.ofNat c.toNat ∉ Utf8.encode host := fun hmem => by
    rw [Utf8.mem_encode_iff hc] at hmem
    rw [h c hmem] at hkept
    contradiction
  have hpercent : (37 : UInt8) ∉ Utf8.encode host := hnot (c := '%') (by decide) (by decide)
  have hslash : (Utf8.encode host).head? ≠ some 0x2F := fun hhead =>
    hnot (c := '/') (by decide) (by decide) (List.mem_of_head? hhead)
  rw [withUrlHost, Percent.decode_of_notMem hpercent, if_neg hslash]

end Store

namespace DatabaseConfig

/-! ## What the reader of URLs keeps -/

/-- A text that the path of a URL gives back: nothing in it ends the path, is dropped, is resolved or
stands for something else. -/
structure PathText (name : String) : Prop where
  nonempty : name ≠ ""
  marks : ∀ d ∈ ['?', '#', '\t', '\n', '\r'], d ∉ name.toList
  escapes : hasEscape (Utf8.encode name) = false
  slash : name.toList.head? ≠ some '/'
  dots : ∀ segment ∈ name.toList.splitOn '/', Url.isDots segment = false

/-- What is written for the text in a path spells it. -/
theorem PathText.read {name : String} (h : PathText name) : Percent.decodeText?
    (String.ofList (name.toList.flatMap (Url.written Url.pathSpecial))) = some name := by
  have hescape := h.escapes
  rw [Utf8.encode_eq] at hescape
  rw [← Url.encodeWith_eq, Percent.decodeText?, Url.decode_encodeWith hescape, ← Utf8.encode_eq,
    Utf8.decode?_encode]

/-- A configuration with a name for a host and a number that a port can have. -/
structure Reachable (c : DatabaseConfig) : Prop where
  host : ∀ d ∈ c.host.toList, isKept d = true
  port : c.port < UInt16.size

/-- A pool for the configuration leads to a database on its host, and its URL has these parameters. -/
def Opens (c : DatabaseConfig) (link : Store.Link) (database : String)
    (parameters : List (String × String)) : Prop :=
  Store.Pool.ofConfig c link = .ok {
    options := .ofConfig c
    destination :=
      { host := c.host, port := c.port, username := c.username, database := some database }
    session := { link } } ∧
  ∃ url, Url.ofString? c.connectionString = some url ∧ url.queryPairs = parameters

section Opening

variable {c : DatabaseConfig} {name query : String}

theorem targetText_eq
    (htext : c.database ++ "?sslmode=" ++ c.sslMode = name ++ "?" ++ query) :
    c.targetText = '/' :: name.toList ++ '?' :: query.toList := by
  have hmark : "?".toList = ['?'] := rfl
  have hmode : "?sslmode=".toList = '?' :: "sslmode=".toList := rfl
  have hlist := congrArg String.toList htext
  simp only [String.toList_append, hmark, hmode, List.append_assoc, List.cons_append,
    List.nil_append] at hlist
  rw [targetText, List.cons_append, hlist, List.cons_append]

/-- The characters of a query: kept ones and three marks. -/
def isQueryChar (d : Char) : Bool := isKept d || ['?', '=', '&'].contains d

theorem toNat_of_isQueryChar {d : Char} (h : isQueryChar d = true) :
    0x20 < d.toNat ∧ Url.isControl d = false := by
  rcases Bool.or_eq_true_iff.mp h with h | h
  · exact ⟨(Url.toNat_of_isKept h).1, Url.isControl_of_isKept h⟩
  · have hmarks : ∀ d ∈ ['?', '=', '&'], 0x20 < d.toNat ∧ Url.isControl d = false :=
      forall_mem_of_all (by decide)
    exact hmarks d (List.contains_iff_mem.mp h)

/-- A query of these characters is written as it is. -/
theorem encodeWith_query (hquery : ∀ d ∈ query.toList, isQueryChar d = true) :
    Url.encodeWith Url.querySpecial query.toList = query := by
  have hspecial : ∀ d ∈ Url.querySpecial, isQueryChar d = false := forall_mem_of_all (by decide)
  rw [Url.encodeWith_of_notMem fun d hd => ⟨?_, fun hmem => ?_⟩, String.ofList_toList]
  · exact (toNat_of_isQueryChar (hquery d hd)).2
  · have hchar := hquery d hd
    rw [hspecial d hmem] at hchar
    exact Bool.false_ne_true hchar

section Texts

-- what stands behind the authority is split into a name and a query
variable (h : c.Checked) (hc : c.Reachable) (hname : PathText name)
  (hquery : ∀ d ∈ query.toList, isQueryChar d = true)
  (htext : c.database ++ "?sslmode=" ++ c.sslMode = name ++ "?" ++ query)

include htext in
theorem toList_connectionString_split : c.connectionString.toList =
    c.driver.toList ++ ':' :: '/' :: '/' ::
      (c.authorityText ++ ('/' :: name.toList ++ '?' :: query.toList)) := by
  rw [toList_connectionString_eq, targetText_eq htext]

include h hc hname hquery htext

theorem notMem_connectionString : ∀ d ∈ ['\t', '\n', '\r'], d ∉ c.connectionString.toList := by
  intro d hd
  have hmarks : ∀ d ∈ ['\t', '\n', '\r'], isKept d = false ∧ isQueryChar d = false ∧
      (d ≠ '%' ∧ d ≠ ':' ∧ d ≠ '/' ∧ d ≠ '@' ∧ d ≠ '?') ∧ d ∈ ['?', '#', '\t', '\n', '\r'] :=
    forall_mem_of_all (by decide)
  obtain ⟨hkept, hchar, ⟨hpercent, hcolon, hslash, hat, hmark⟩, hpath⟩ := hmarks d hd
  have hdriver : d ∉ c.driver.toList := fun hmem => by
    rw [List.all_eq_true.mp h.isKept_driver d hmem] at hkept
    exact Bool.false_ne_true hkept.symm
  have hcredentials := c.notMem_credentialsText hkept hpercent hcolon
  have hserver : d ∉ c.host.toList ++ ':' :: (toString c.port).toList :=
    Url.notMem_server hc.host hkept hcolon
  have hqueryNot : d ∉ query.toList := fun hmem => by
    rw [hquery d hmem] at hchar
    exact Bool.false_ne_true hchar.symm
  rw [toList_connectionString_split htext, authorityText]
  simp only [List.mem_append, List.mem_cons, not_or] at hserver ⊢
  exact ⟨hdriver, hcolon, hslash, hslash, ⟨hcredentials, hat, hserver⟩,
    ⟨hslash, hname.marks d hpath⟩, hmark, hqueryNot⟩

theorem clean_connectionString : Url.clean c.connectionString = c.connectionString.toList := by
  refine Url.clean_of_notMem (notMem_connectionString h hc hname hquery htext)
    (fun d hd => ?_) fun d hd => ?_
  · have hdrivers : ∀ driver ∈ drivers, driver.toList.head? = some 'p' := by decide
    rw [toList_connectionString_split htext, List.head?_append, hdrivers _ h.driver] at hd
    cases hd
    decide
  · have hsplit : c.connectionString.toList = (c.driver.toList ++ ':' :: '/' :: '/' ::
        (c.authorityText ++ ('/' :: name.toList))) ++ '?' :: query.toList := by
      rw [toList_connectionString_split htext]
      simp only [List.append_assoc, List.cons_append]
    rw [hsplit, List.getLast?_append_of_ne_nil _ (List.cons_ne_nil _ _)] at hd
    rcases List.mem_cons.mp (List.mem_of_mem_getLast? hd) with rfl | hmem
    · decide
    · exact (toNat_of_isQueryChar (hquery d hmem)).1

theorem ofString?_connectionString : Url.ofString? c.connectionString = some {
    scheme := String.ofList (c.driver.toList.map Char.toLower)
    username := (Url.credentials c.credentialsText).1
    password := (Url.credentials c.credentialsText).2
    host := c.host
    port := some c.port
    path := Url.writePath ('/' :: name.toList)
    query := some query } := by
  have hclean := (clean_connectionString h hc hname hquery htext).trans
    (toList_connectionString_split htext)
  have hhost : c.host.toList ≠ [] := by simpa using h.host
  have hpath : '?' ∉ name.toList ∧ '#' ∉ name.toList :=
    ⟨hname.marks _ (by simp), hname.marks _ (by simp)⟩
  have hsharp : '#' ∉ query.toList := fun hmem => absurd (hquery _ hmem) (by decide)
  rw [Url.ofString?_of_clean hclean h.colon_notMem c.all_credentialsText hc.host hhost hc.port
    hpath hsharp, String.ofList_toList, encodeWith_query hquery]

/-- The reader of destinations takes the name for the database, then looks at the parameters. -/
theorem destination_connectionString : Store.Destination.ofString? c.connectionString =
    ({ host := c.host, port := c.port, username := c.username,
       database := some name } : Store.Destination).withParameters (Form.pairs query) := by
  obtain ⟨husername, hpassword⟩ :=
    Url.credentials_append (fun _ => Percent.mem_encode (s := c.username))
      (fun _ => Percent.mem_encode (s := c.password))
  rw [← credentialsText, String.ofList_toList] at husername hpassword
  have hpath : (Url.writePath ('/' :: name.toList)).toList.dropWhile (· == '/') =
      name.toList.flatMap (Url.written Url.pathSpecial) :=
    Url.dropWhile_writePath hname.dots hname.slash
  have hnonempty : (String.ofList (name.toList.flatMap (Url.written Url.pathSpecial))).isEmpty =
      false := by
    rw [Bool.eq_false_iff, Ne, String.isEmpty_iff]
    intro hempty
    have hread := hname.read
    rw [hempty] at hread
    exact hname.nonempty (Option.some.inj (hread.symm.trans (by decide +kernel)))
  simp only [Store.Destination.ofString?, ofString?_connectionString h hc hname hquery htext,
    Option.bind_eq_bind, Option.bind_some, husername, hpassword, Percent.decodeText?_encode, hpath,
    hname.read, hnonempty, Bool.false_eq_true, if_false, Option.getD_some,
    Store.Destination.withUrlHost_of_kept hc.host, Url.queryPairs, Option.map_some]

end Texts

/-- A pool leads where the name and the parameters say. -/
theorem opens_of_query (h : c.validate = .ok ()) (hc : c.Reachable) (hname : PathText name)
    (hquery : ∀ d ∈ query.toList, isQueryChar d = true)
    (htext : c.database ++ "?sslmode=" ++ c.sslMode = name ++ "?" ++ query)
    {entries : List (String × String)} (hpairs : Form.pairs query = entries) {database : String}
    (hdatabase : ∀ d : Store.Destination, ({ d with database := some name }).withParameters
      entries = some { d with database := some database }) (link : Store.Link) :
    c.Opens link database entries := by
  have hchecked := checked_of_validate h
  refine ⟨?_, _, ofString?_connectionString hchecked hc hname hquery htext, hpairs⟩
  have hdestination := destination_connectionString hchecked hc hname hquery htext
  rw [hpairs, hdatabase { host := c.host, port := c.port, username := c.username }] at hdestination
  rw [Store.Pool.ofConfig, h, hdestination]
  rfl

theorem isQueryChar_piece {key value : String} (hkey : ∀ d ∈ key.toList, isKept d = true ∨ d = '?')
    (hvalue : ∀ d ∈ value.toList, isKept d = true) :
    ∀ d ∈ (key ++ "=" ++ value).toList, isQueryChar d = true := by
  have hsign : "=".toList = ['='] := rfl
  intro d hd
  rw [String.toList_append, String.toList_append, hsign, List.mem_append, List.mem_append,
    List.mem_singleton] at hd
  rcases hd with (hd | rfl) | hd
  · rcases hkey d hd with hkept | rfl
    · rw [isQueryChar, hkept, Bool.true_or]
    · decide
  · decide
  · rw [isQueryChar, hvalue d hd, Bool.true_or]

/-- One parameter behind the name, with the mode. -/
theorem opens_of_key {key : String} (h : c.validate = .ok ()) (hc : c.Reachable)
    (hmode : c.sslMode.toLower ∈ Store.sslModes) (hname : PathText name)
    (hkey : ∀ d ∈ key.toList, isKept d = true ∨ d = '?')
    (htext : c.database ++ "?sslmode" = name ++ "?" ++ key)
    (hparameter : ∀ d : Store.Destination, d.withParameter key c.sslMode = some d)
    (link : Store.Link) : c.Opens link name [(key, c.sslMode)] := by
  have hkept := Store.isKept_of_sslMode hmode
  have hpairs : Form.pairs (key ++ "=" ++ c.sslMode) = [(key, c.sslMode)] := by
    have hwritten := Form.pairs_written [(key, c.sslMode)] (by simpa using ⟨hkey, hkept⟩)
    rwa [List.map_singleton, String.intercalate_singleton] at hwritten
  have hwhole : c.database ++ "?sslmode=" ++ c.sslMode =
      name ++ "?" ++ (key ++ "=" ++ c.sslMode) := by
    have hsign : "?sslmode=" = "?sslmode" ++ "=" := rfl
    rw [hsign, ← String.append_assoc, htext]
    simp only [String.append_assoc]
  refine opens_of_query h hc hname (isQueryChar_piece hkey hkept) hwhole hpairs (fun d => ?_) link
  rw [Store.Destination.withParameters, hparameter, Option.bind_some,
    Store.Destination.withParameters]

end Opening

/-! ## Configured, cut off and appended -/

section Cases

variable {c : DatabaseConfig}

theorem validate_of_database (h : c.validate = .ok ()) {database : String} (hne : database ≠ "") :
    ({ c with database } : DatabaseConfig).validate = .ok () := by
  have hempty : c.database.isEmpty = false := by simpa using (checked_of_validate h).database
  have hempty' : database.isEmpty = false := by simpa using hne
  unfold validate at h ⊢
  simpa only [hempty, hempty'] using h

theorem validate_of_sslMode (h : c.validate = .ok ()) (sslMode : String) :
    ({ c with sslMode } : DatabaseConfig).validate = .ok () := by
  unfold validate at h ⊢
  exact h

/-- A known mode changes nothing of the destination. -/
theorem withParameter_sslmode {mode : String} (h : mode.toLower ∈ Store.sslModes)
    (d : Store.Destination) : d.withParameter "sslmode" mode = some d := by
  rw [Store.Destination.withParameter, if_pos (.inl rfl), if_pos (List.contains_iff_mem.mpr h)]

theorem withParameter_dbname (d : Store.Destination) (value : String) :
    d.withParameter "dbname" value = some { d with database := some value } :=
  rfl

/-- A key with a question mark in it is none of the known ones. -/
theorem withParameter_of_mark {key : String} (hkey : '?' ∈ key.toList) (value : String)
    (d : Store.Destination) : d.withParameter key value = some d := by
  have hknown : ∀ known ∈ ["sslmode", "ssl-mode", "statement-cache-capacity", "host", "hostaddr",
      "port", "dbname", "user"], '?' ∉ known.toList := by decide
  have hne : ∀ known ∈ ["sslmode", "ssl-mode", "statement-cache-capacity", "host", "hostaddr",
      "port", "dbname", "user"], key ≠ known := by
    rintro known hmem rfl
    exact hknown _ hmem hkey
  simp only [List.forall_mem_cons] at hne
  simp [Store.Destination.withParameter, hne]

variable (h : c.validate = .ok ()) (hc : c.Reachable) (hmode : c.sslMode.toLower ∈ Store.sslModes)
  (hname : PathText c.database)

include h hc hmode hname

theorem opens_configured (link : Store.Link) :
    c.Opens link c.database [("sslmode", c.sslMode)] := by
  have hkey : ∀ d ∈ "sslmode".toList, isKept d = true ∨ d = '?' :=
    forall_mem_of_all (by decide)
  have hmark : "?sslmode" = "?" ++ "sslmode" := rfl
  refine opens_of_key h hc hmode hname hkey (by rw [hmark, String.append_assoc]) (fun d => ?_) link
  exact withParameter_sslmode hmode d

/-- A name is cut off at a question mark, and the rest of it goes into the key. -/
theorem opens_cut {text : String} (htext : ∀ d ∈ text.toList, isKept d = true) (link : Store.Link) :
    ({ c with database := c.database ++ "?" ++ text } : DatabaseConfig).Opens link c.database
      [(text ++ "?sslmode", c.sslMode)] := by
  have hmark : "?sslmode".toList = '?' :: "sslmode".toList := rfl
  have hkey : ∀ d ∈ (text ++ "?sslmode").toList, isKept d = true ∨ d = '?' := by
    have hmode : ∀ d ∈ "?sslmode".toList, isKept d = true ∨ d = '?' :=
      forall_mem_of_all (by decide)
    intro d hd
    rw [String.toList_append, List.mem_append] at hd
    exact hd.elim (fun hd => .inl (htext d hd)) (hmode d)
  have hne : c.database ++ "?" ++ text ≠ "" := by simp [String.append_eq_empty_iff]
  have hvalid := validate_of_database h hne
  refine opens_of_key hvalid ⟨hc.host, hc.port⟩ hmode hname hkey ?_ (withParameter_of_mark ?_ _) link
  · simp only [String.append_assoc]
  · rw [String.toList_append, hmark]
    simp

/-- A parameter that stands behind the mode is obeyed. -/
theorem opens_appended {text : String} (htext : ∀ d ∈ text.toList, isKept d = true)
    (link : Store.Link) :
    ({ c with sslMode := c.sslMode ++ "&dbname=" ++ text } : DatabaseConfig).Opens link text
      [("sslmode", c.sslMode), ("dbname", text)] := by
  have hkept := Store.isKept_of_sslMode hmode
  have hsslmode : ∀ d ∈ "sslmode".toList, isKept d = true ∨ d = '?' :=
    forall_mem_of_all (by decide)
  have hdbname : ∀ d ∈ "dbname".toList, isKept d = true ∨ d = '?' :=
    forall_mem_of_all (by decide)
  have hpairs : Form.pairs (("sslmode" ++ "=" ++ c.sslMode) ++ "&" ++ ("dbname" ++ "=" ++ text)) =
      [("sslmode", c.sslMode), ("dbname", text)] := by
    have hwritten := Form.pairs_written [("sslmode", c.sslMode), ("dbname", text)]
      (List.forall_mem_cons.mpr ⟨⟨hsslmode, hkept⟩,
        List.forall_mem_cons.mpr ⟨⟨hdbname, htext⟩, nofun⟩⟩)
    rwa [List.map_cons, List.map_singleton, String.intercalate_cons_cons,
      String.intercalate_singleton] at hwritten
  have hchars : ∀ d ∈ (("sslmode" ++ "=" ++ c.sslMode) ++ "&" ++
      ("dbname" ++ "=" ++ text)).toList, isQueryChar d = true := by
    have hsign : "&".toList = ['&'] := rfl
    intro d hd
    rw [String.toList_append, String.toList_append, hsign, List.mem_append, List.mem_append,
      List.mem_singleton] at hd
    rcases hd with (hd | rfl) | hd
    · exact isQueryChar_piece hsslmode hkept d hd
    · decide
    · exact isQueryChar_piece hdbname htext d hd
  have hvalid := validate_of_sslMode h (c.sslMode ++ "&dbname=" ++ text)
  refine opens_of_query hvalid ⟨hc.host, hc.port⟩ hname hchars ?_ hpairs (fun d => ?_) link
  · have hmark : "?sslmode=" = "?" ++ ("sslmode" ++ "=") := rfl
    have hand : "&dbname=" = "&" ++ ("dbname" ++ "=") := rfl
    simp only [hmark, hand, String.append_assoc]
  · rw [Store.Destination.withParameters, withParameter_sslmode hmode, Option.bind_some,
      Store.Destination.withParameters, withParameter_dbname, Option.bind_some,
      Store.Destination.withParameters]

end Cases

/-! ## Main result -/

/-- **A connection string leads where it reads, and that is not always what is configured.** As a URL
it says what was configured exactly if nothing in the host, the database and the mode ends a part
early or stands for something else. Where nothing in the name of the database is touched on the way,
the pool leads to it. With a question mark and more behind the name, the pool still leads to the
database in front and the mode is not told; with a `dbname` behind the mode, it leads to that one. -/
theorem connectionString_leads (c : DatabaseConfig) (h : c.validate = .ok ()) :
    (c.ReadsBack ↔
      (∀ d ∈ ['/', '?', '#'], d ∉ c.host.toList) ∧
      ((∀ d ∈ ['?', '#'], d ∉ c.database.toList) ∧ hasEscape (Utf8.encode c.database) = false) ∧
      (∀ d ∈ ['#', '&', '+'], d ∉ c.sslMode.toList) ∧ hasEscape (Utf8.encode c.sslMode) = false) ∧
    (c.Reachable → c.sslMode.toLower ∈ Store.sslModes → PathText c.database → ∀ link,
      c.Opens link c.database [("sslmode", c.sslMode)] ∧
      ∀ text : String, (∀ d ∈ text.toList, isKept d = true) →
        ({ c with database := c.database ++ "?" ++ text } : DatabaseConfig).Opens link
          c.database [(text ++ "?sslmode", c.sslMode)] ∧
        ({ c with sslMode := c.sslMode ++ "&dbname=" ++ text } : DatabaseConfig).Opens link
          text [("sslmode", c.sslMode), ("dbname", text)]) :=
  ⟨readsBack_iff (checked_of_validate h), fun hc hmode hname link =>
    ⟨opens_configured h hc hmode hname link, fun _ htext =>
      ⟨opens_cut h hc hmode hname htext link, opens_appended h hc hmode hname htext link⟩⟩⟩

/-- The database `orders` with the mode `require`, then with `?archive` behind its name, then with the
database `archive` behind its mode. -/
theorem connectionString_leads_orders :
    let c : DatabaseConfig := { host := "db.local", database := "orders", sslMode := "require" }
    let cut : DatabaseConfig := { c with database := "orders?archive" }
    let appended : DatabaseConfig := { c with sslMode := "require&dbname=archive" }
    (c.validate = .ok () ∧ cut.validate = .ok () ∧ appended.validate = .ok ()) ∧
    (c.ReadsBack ∧ ¬cut.ReadsBack ∧ ¬appended.ReadsBack) ∧
    ∀ link, c.Opens link "orders" [("sslmode", "require")] ∧
      cut.Opens link "orders" [("archive?sslmode", "require")] ∧
      appended.Opens link "archive" [("sslmode", "require"), ("dbname", "archive")] := by
  intro c cut appended
  have hlower : "require".toLower = "require" := by
    rw [← String.toList_inj, Store.toList_toLower]
    rfl
  have hmode : c.sslMode.toLower ∈ Store.sslModes := by
    rw [show c.sslMode.toLower = "require" from hlower]
    decide
  have hname : PathText c.database :=
    ⟨by decide, forall_mem_of_all (by decide), by decide +kernel, by decide, by decide⟩
  obtain ⟨hreads, hopens⟩ := connectionString_leads c rfl
  obtain ⟨hcutReads, -⟩ := connectionString_leads cut rfl
  obtain ⟨happendedReads, -⟩ := connectionString_leads appended rfl
  refine ⟨⟨rfl, rfl, rfl⟩, ⟨?_, ?_, ?_⟩, fun link => ?_⟩
  · exact hreads.mpr ⟨forall_mem_of_all (by decide),
      ⟨forall_mem_of_all (by decide), by decide +kernel⟩,
      forall_mem_of_all (by decide), by decide +kernel⟩
  · exact fun h => (hcutReads.mp h).2.1.1 '?' (by decide) (by decide)
  · exact fun h => (happendedReads.mp h).2.2.1 '&' (by decide) (by decide)
  · obtain ⟨hconfigured, htext⟩ := hopens ⟨forall_mem_of_all (by decide), by decide⟩ hmode hname link
    obtain ⟨hcut, happended⟩ := htext "archive" (forall_mem_of_all (by decide))
    exact ⟨hconfigured, hcut, happended⟩

end DatabaseConfig

end Rowgate
