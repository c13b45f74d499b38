import Rowgate.Config.Database
import Rowgate.Proofs.Escapes
import Rowgate.Proofs.Letters
/-
The credentials of a connection string.

A connection string is put together from parts of which only the user name and the password are
encoded. That is enough for these two: no encoded text holds a delimiter, so the first `://` is the
one behind the driver, the first at sign behind it ends the password, whatever stands in the host and
behind it, and the only colon in between ends the user name. What stands on either side of the colon
spells what was configured, so two configurations with other credentials have other connection
strings. The main result is `connectionString_credentials`.
-/
set_option autoImplicit false

namespace Rowgate

/-! ## Delimiters -/

namespace Url

/-- What stands behind the first `://`. -/
def behindScheme? : List Char → Option (List Char)
  | ':' :: '/' :: '/' :: rest => some rest
  | _ :: rest => behindScheme? rest
  | [] => none

/-- What stands between the first `://` and the first at sign behind it. -/
def userInfo? (url : String) : Option (List Char) := do
  let rest ← behindScheme? url.toList
  if '@' ∈ rest then some (rest.takeWhile (· != '@')) else none

theorem behindScheme?_append {scheme : List Char} (h : ':' ∉ scheme) (rest : List Char) :
    behindScheme? (scheme ++ ':' :: '/' :: '/' :: rest) = some rest := by
  induction scheme with
  | nil => rfl
  | cons c scheme ih =>
    obtain ⟨hc, hscheme⟩ : ':' ≠ c ∧ ':' ∉ scheme := by simpa using h
    rw [List.cons_append, behindScheme?, ih hscheme]
    exact fun _ heq _ => hc heq.symm

end Url

/-- A list is cut at the first occurrence of a member. -/
theorem takeWhile_bne_append {cs : List Char} {c : Char} (h : c ∉ cs) (rest : List Char) :
    (cs ++ c :: rest).takeWhile (· != c) = cs := by
  rw [List.takeWhile_append_of_pos (Sql.bne_of_notMem h)]
  simp

theorem dropWhile_bne_append {cs : List Char} {c : Char} (h : c ∉ cs) (rest : List Char) :
    (cs ++ c :: rest).dropWhile (· != c) = c :: rest := by
  rw [List.dropWhile_append_of_pos (Sql.bne_of_notMem h)]
  simp

/-! ## Checked configurations -/

theorem ok_of_guard {ε α : Type} {p : Prop} [Decidable p] {e : ε} {a : α}
    {next : PUnit → Except ε α} (h : (if p then throw e >>= next else next ⟨⟩) = .ok a) :
    ¬p ∧ next ⟨⟩ = .ok a := by
  by_cases hp : p
  · rw [if_pos hp] at h
    contradiction
  · rw [if_neg hp] at h
    exact ⟨hp, h⟩

namespace DatabaseConfig

/-- What the check asks of the texts of a configuration. -/
structure Checked (c : DatabaseConfig) : Prop where
  host : c.host ≠ ""
  driver : c.driver ∈ drivers
  database : c.database ≠ ""
  username : c.username ≠ ""

theorem checked_of_validate {c : DatabaseConfig} (h : c.validate = .ok ()) : c.Checked := by
  rw [validate] at h
  obtain ⟨hhost, h⟩ := ok_of_guard h
  obtain ⟨-, h⟩ := ok_of_guard h
  obtain ⟨hdriver, h⟩ := ok_of_guard h
  obtain ⟨hdatabase, h⟩ := ok_of_guard h
  obtain ⟨husername, -⟩ := ok_of_guard h
  exact ⟨by simpa using hhost, by simpa using hdriver, by simpa using hdatabase,
    by simpa using husername⟩

theorem Checked.isKept_driver {c : DatabaseConfig} (h : c.Checked) :
    c.driver.toList.all Percent.isKept = true := by
  have hall : ∀ driver ∈ drivers, driver.toList.all Percent.isKept = true := by decide
  exact hall _ h.driver

theorem Checked.colon_notMem {c : DatabaseConfig} (h : c.Checked) : ':' ∉ c.driver.toList :=
  fun hmem => absurd (List.all_eq_true.mp h.isKept_driver _ hmem) (by decide)

/-! ## The connection string -/

/-- What follows the credentials in a connection string. -/
def serverText (c : DatabaseConfig) : List Char :=
  c.host.toList ++ ':' :: ((toString c.port).toList ++ '/' :: (c.database.toList ++
    ("?sslmode=".toList ++ c.sslMode.toList)))

theorem toList_connectionString (c : DatabaseConfig) :
    c.connectionString.toList = c.driver.toList ++ ':' :: '/' :: '/' ::
      ((Percent.encode c.username).toList ++ ':' ::
        ((Percent.encode c.password).toList ++ '@' :: c.serverText)) := by
  have hcolon : ":".toList = [':'] := rfl
  have hslashes : "://".toList = [':', '/', '/'] := rfl
  have hat : "@".toList = ['@'] := rfl
  have hslash : "/".toList = ['/'] := rfl
  simp only [connectionString, serverText, String.toList_append, hcolon, hslashes, hat, hslash,
    List.append_assoc, List.cons_append, List.nil_append]

/-- The credentials as they are written. -/
def credentialsText (c : DatabaseConfig) : List Char :=
  (Percent.encode c.username).toList ++ ':' :: (Percent.encode c.password).toList

/-- A character that stands for itself nowhere and is neither a percent sign nor the colon does not
stand in the credentials. -/
theorem notMem_credentialsText (c : DatabaseConfig) {d : Char} (hkept : Percent.isKept d = false)
    (hpercent : d ≠ '%') (hcolon : d ≠ ':') : d ∉ c.credentialsText := by
  rw [credentialsText, List.mem_append, List.mem_cons, not_or, not_or]
  exact ⟨Percent.notMem_encode hkept hpercent _, hcolon, Percent.notMem_encode hkept hpercent _⟩

theorem userInfo?_connectionString {c : DatabaseConfig} (h : c.Checked) :
    Url.userInfo? c.connectionString = some c.credentialsText := by
  have hbehind : Url.behindScheme? c.connectionString.toList =
      some (c.credentialsText ++ '@' :: c.serverText) := by
    rw [toList_connectionString, Url.behindScheme?_append h.colon_notMem, credentialsText,
      List.append_assoc, List.cons_append]
  have hat : '@' ∉ c.credentialsText :=
    c.notMem_credentialsText (by decide) (by decide) (by decide)
  rw [Url.userInfo?, hbehind, Option.bind_eq_bind, Option.bind_some, if_pos (by simp),
    takeWhile_bne_append hat]

/-! ## Main result -/

/-- **The credentials stay in their slots.** Whatever the texts of a checked configuration hold, what
stands between the first `://` of its connection string and the first at sign behind it has one colon,
and what stands before and behind the colon spells the user name and the password. So configurations
with other credentials have other connection strings. -/
theorem connectionString_credentials :
    (∀ c : DatabaseConfig, c.validate = .ok () →
      ∃ info, Url.userInfo? c.connectionString = some info ∧ info.count ':' = 1 ∧
        Percent.decodeText? (String.ofList (info.takeWhile (· != ':'))) = some c.username ∧
        Percent.decodeText? (String.ofList ((info.dropWhile (· != ':')).drop 1)) =
          some c.password) ∧
    ∀ c d : DatabaseConfig, c.validate = .ok () → d.validate = .ok () →
      c.connectionString = d.connectionString →
      c.username = d.username ∧ c.password = d.password := by
  have hread (c : DatabaseConfig) (h : c.validate = .ok ()) :
      ∃ info, Url.userInfo? c.connectionString = some info ∧ info.count ':' = 1 ∧
        Percent.decodeText? (String.ofList (info.takeWhile (· != ':'))) = some c.username ∧
        Percent.decodeText? (String.ofList ((info.dropWhile (· != ':')).drop 1)) =
          some c.password := by
    have hcolon (text : String) : ':' ∉ (Percent.encode text).toList :=
      Percent.notMem_encode (by decide) (by decide) text
    refine ⟨_, userInfo?_connectionString (checked_of_validate h), ?_, ?_, ?_⟩
    · rw [credentialsText, List.count_append, List.count_cons_self,
        List.count_eq_zero_of_not_mem (hcolon _), List.count_eq_zero_of_not_mem (hcolon _)]
    · rw [credentialsText, takeWhile_bne_append (hcolon _), String.ofList_toList,
        Percent.decodeText?_encode]
    · rw [credentialsText, dropWhile_bne_append (hcolon _), List.drop_succ_cons, List.drop_zero,
        String.ofList_toList, Percent.decodeText?_encode]
  refine ⟨hread, fun c d hc hd heq => ?_⟩
  obtain ⟨info, hinfo, -, husername, hpassword⟩ := hread c hc
  obtain ⟨info', hinfo', -, husername', hpassword'⟩ := hread d hd
  rw [heq, hinfo'] at hinfo
  obtain rfl := Option.some.inj hinfo
  exact ⟨Option.some.inj (husername.symm.trans husername'),
    Option.some.inj (hpassword.symm.trans hpassword')⟩

/-- Credentials with every delimiter in them, and a host that has an at sign and a colon of its own;
another configuration has the end of the password for the beginning of its host. -/
theorem connectionString_credentials_delimiters :
    let c : DatabaseConfig := { username := "a:b@c", password := "p@h/é%", host := "h@i:1" }
    let d : DatabaseConfig := { username := "a:b@c", password := "p", host := "h/é%@h@i:1" }
    c.validate = .ok () ∧ d.validate = .ok () ∧
      (∃ info, Url.userInfo? c.connectionString = some info ∧ info.count ':' = 1 ∧
        Percent.decodeText? (String.ofList (info.takeWhile (· != ':'))) = some "a:b@c" ∧
        Percent.decodeText? (String.ofList ((info.dropWhile (· != ':')).drop 1)) =
          some "p@h/é%") ∧
      c.connectionString ≠ d.connectionString := by
  intro c d
  have hc : c.validate = .ok () := rfl
  have hd : d.validate = .ok () := rfl
  refine ⟨hc, hd, connectionString_credentials.1 c hc, fun heq => ?_⟩
  have hpassword := (connectionString_credentials.2 c d hc hd heq).2
  exact absurd hpassword (by decide)

end DatabaseConfig

end Rowgate
