import Mathlib.Data.List.Nodup
import Rowgate.Http.Router
import Rowgate.Proofs.Checked
/-
Paths without parameters are answered by their own resource.

A path in which no brace stands spells itself: its pattern is the path, character by character. Of
all patterns that match such a path its own ranks first, because any other one that matches has a
parameter somewhere, and where the two part the path has a character. So in a router whose resources
have different patterns the path is answered by the resource that was mounted on it, wherever in the
router that one stands (`Router.find?_of_literal`).
-/
set_option autoImplicit false

namespace Rowgate.Http

/-! ## Literal paths -/

/-- The characters that mean something in a pattern or end the path of a URI. -/
def reserved : List Char := ['{', '}', '?', '#']

/-- A path that is written out: no brace in it opens a parameter or stands for itself, and nothing in
it ends the path of a URI. Every path of characters that a URI carries unescaped is one. -/
def IsLiteral (path : String) : Prop := ∀ c ∈ path.toList, c ∉ reserved

instance (path : String) : Decidable (IsLiteral path) :=
  inferInstanceAs (Decidable (∀ c ∈ path.toList, c ∉ reserved))

theorem bne_of_notMem_reserved {c mark : Char} (hc : c ∉ reserved) (hmark : mark ∈ reserved) :
    (c != mark) = true := by
  rw [bne_iff_ne]
  rintro rfl
  exact hc hmark

/-- A literal path is read off a URI as it stands, with or without a query behind it. -/
theorem IsLiteral.ofUri {path : String} (h : IsLiteral path) (hroot : path.toList.head? = some '/')
    {query : String} (hquery : ∀ c ∈ query.toList.head?, c = '?') :
    (Target.ofUri (path ++ query)).path = path := by
  have hnone : ∀ mark ∈ reserved, ∀ c ∈ path.toList, (c != mark) = true :=
    fun mark hmark c hc => bne_of_notMem_reserved (h c hc) hmark
  have hsplit : Target.ofUri (path ++ query) = Target.split (path.toList ++ query.toList) := by
    obtain ⟨cs, hcs⟩ : ∃ cs, path.toList = '/' :: cs := by
      cases hpath : path.toList with
      | nil => rw [hpath] at hroot; cases hroot
      | cons c cs => rw [hpath] at hroot; cases hroot; exact ⟨cs, rfl⟩
    rw [Target.ofUri, String.toList_append, hcs]
    rfl
  have hhead : ((query.toList.takeWhile (· != '#')).takeWhile (· != '?')) = [] := by
    cases hq : query.toList with
    | nil => rfl
    | cons c cs =>
      rw [hq] at hquery
      rw [hquery c rfl]
      rfl
  have hpath : (Target.split (path.toList ++ query.toList)).path = String.ofList path.toList := by
    unfold Target.split
    simp only [List.takeWhile_append_of_pos (hnone '#' (by decide)),
      List.takeWhile_append_of_pos (hnone '?' (by decide)), hhead, List.append_nil]
    split <;> rfl
  rw [hsplit, hpath, String.ofList_toList]

namespace Pattern

/-- The pattern of a path that is matched character by character. -/
def literal (cs : List Char) : Pattern := cs.map .char

theorem Mark.isBrace_literal {c brace : Char} (hc : c ∉ reserved) (hbrace : brace ∈ reserved) :
    (⟨c, false⟩ : Mark).isBrace brace = false := by
  have hne : c ≠ brace := by simpa using bne_of_notMem_reserved hc hbrace
  simp [Mark.isBrace, hne]

theorem marks_literal {cs : List Char} (h : ∀ c ∈ cs, c ∉ reserved) :
    marks cs = cs.map (⟨·, false⟩) := by
  induction cs with
  | nil => rfl
  | cons c cs ih =>
    obtain ⟨hc, hcs⟩ := List.forall_mem_cons.mp h
    rw [marks, ih hcs, List.map_cons]
    · rintro _ rfl; exact absurd (by decide) hc
    · rintro _ rfl; exact absurd (by decide) hc

theorem read_literal {cs : List Char} (h : ∀ c ∈ cs, c ∉ reserved) {fuel : Nat}
    (hfuel : cs.length ≤ fuel) : read fuel (cs.map (⟨·, false⟩)) = .ok (literal cs) := by
  induction cs generalizing fuel with
  | nil => cases fuel <;> rfl
  | cons c cs ih =>
    obtain ⟨hc, hcs⟩ := List.forall_mem_cons.mp h
    cases fuel with
    | zero => simp at hfuel
    | succ fuel =>
      have hopen := Mark.isBrace_literal hc (by decide : '{' ∈ reserved)
      have hclose := Mark.isBrace_literal hc (by decide : '}' ∈ reserved)
      rw [List.map_cons, read, if_neg (by simp [hclose]), if_neg (by simp [hopen]),
        ih hcs (by simpa using hfuel)]
      rfl

/-- **A literal path spells itself**, if it can be mounted at all. -/
theorem ofPath_literal {path : String} (hliteral : IsLiteral path) {pattern : Pattern}
    (h : ofPath path = .ok pattern) :
    pattern = literal path.toList ∧ path.toList.head? = some '/' := by
  simp only [ofPath] at h
  split at h
  · cases h
  · next hroot =>
    split at h
    · cases h
    · obtain ⟨pieces, hread, h⟩ := bind_eq_ok.mp h
      rw [marks_literal hliteral, read_literal hliteral (Nat.le_refl _)] at hread
      cases hread
      split at h
      · cases h
      · cases h
        exact ⟨rfl, by simpa using hroot⟩

theorem conflicts_self (p : Pattern) : p.conflicts p = true := by
  induction p with
  | nil => rfl
  | cons piece p ih => cases piece <;> simp [conflicts, ih]

theorem captures?_literal (cs : List Char) : captures? (literal cs) cs = some [] := by
  induction cs with
  | nil => rfl
  | cons c cs ih => simpa [literal, captures?] using ih

/-- **A path ranks first among the patterns that match it**: any other of them is behind it. -/
theorem precedes_of_captures? {cs : List Char} {q : Pattern} {captures : List (String × String)}
    (h : q.captures? cs = some captures) :
    q = literal cs ∨ ((literal cs).precedes q = true ∧ q.precedes (literal cs) = false) := by
  induction cs generalizing q captures with
  | nil =>
    cases q with
    | nil => exact .inl rfl
    | cons piece q => cases piece <;> simp [captures?] at h
  | cons c cs ih =>
    cases q with
    | nil => simp [captures?] at h
    | cons piece q =>
      cases piece with
      | param name => exact .inr ⟨rfl, rfl⟩
      | rest name => exact .inr ⟨rfl, rfl⟩
      | char d =>
        -- the two go on together, and part later or never
        rw [captures?] at h
        split at h
        · next hd =>
          subst hd
          rcases ih h with rfl | ⟨hfirst, hlater⟩
          · exact .inl rfl
          · exact .inr ⟨by simpa [literal, precedes] using hfirst,
              by simpa [literal, precedes] using hlater⟩
        · cases h

end Pattern

namespace Router

variable {m : Type → Type}

/-! ## The best of the matches -/

/-- The first match gives way to nothing and the second one gives way to it, unless the two are the
same. -/
def Beats (best fit : Resource m × Captures) : Prop :=
  fit = best ∨ (best.1.pattern.precedes fit.1.pattern = true ∧
    fit.1.pattern.precedes best.1.pattern = false)

theorem Beats.better_held {best fit : Resource m × Captures} (h : Beats best fit) :
    better (some best) fit = some best := by
  rcases h with rfl | ⟨_, hbehind⟩
  · simp [better]
  · simp [better, hbehind]

theorem Beats.better_of_held {best old : Resource m × Captures} (h : Beats best old) :
    better (some old) best = some best := by
  rcases h with rfl | ⟨hbefore, _⟩
  · simp [better]
  · simp [better, hbefore]

/-- What beats every match is kept. -/
theorem foldl_better_held {best : Resource m × Captures} {fits : List (Resource m × Captures)}
    (hbest : ∀ fit ∈ fits, Beats best fit) : fits.foldl better (some best) = some best := by
  induction fits with
  | nil => rfl
  | cons fit fits ih =>
    obtain ⟨hfit, hfits⟩ := List.forall_mem_cons.mp hbest
    rw [List.foldl_cons, hfit.better_held, ih hfits]

/-- **What beats every match is found**, wherever it stands among them. -/
theorem foldl_better {best : Resource m × Captures} {fits : List (Resource m × Captures)}
    {held : Option (Resource m × Captures)} (hmem : best ∈ fits)
    (hbest : ∀ fit ∈ fits, Beats best fit) (hheld : ∀ old ∈ held, Beats best old) :
    fits.foldl better held = some best := by
  -- whatever is held in front of the best match gives way to it
  induction fits generalizing held with
  | nil => cases hmem
  | cons fit fits ih =>
    obtain ⟨hfit, hfits⟩ := List.forall_mem_cons.mp hbest
    rw [List.foldl_cons]
    rcases List.mem_cons.mp hmem with rfl | hlater
    · have hstep : better held best = some best := by
        cases held with
        | none => rfl
        | some old => exact (hheld old rfl).better_of_held
      rw [hstep, foldl_better_held hfits]
    · refine ih hlater hfits fun old hold => ?_
      cases held with
      | none => cases hold; exact hfit
      | some kept =>
        simp only [better] at hold
        split at hold
        · cases hold; exact hfit
        · cases hold; exact hheld old rfl

/-! ## Routers -/

/-- Resources whose patterns are those of their paths, and are all different. -/
structure Sound (router : Router m) : Prop where
  spelled : ∀ resource ∈ router, Pattern.ofPath resource.path = .ok resource.pattern
  distinct : (router.map (·.pattern)).Nodup

/-- **A literal path finds its resource**, which takes nothing of the path. -/
theorem find?_of_literal {router : Router m} (hsound : router.Sound) {resource : Resource m}
    (hmem : resource ∈ router) (hliteral : IsLiteral resource.path) :
    router.find? resource.path = some (resource, []) := by
  have hpattern : resource.pattern = .literal resource.path.toList :=
    (Pattern.ofPath_literal hliteral (hsound.spelled resource hmem)).1
  refine foldl_better ?_ (fun fit hfit => ?_) fun _ h => by cases h
  · refine List.mem_filterMap.mpr ⟨resource, hmem, ?_⟩
    rw [hpattern, Pattern.captures?_literal, Option.map_some]
  · obtain ⟨other, hother, hfits⟩ := List.mem_filterMap.mp hfit
    obtain ⟨captures, hcaptures, rfl⟩ := Option.map_eq_some_iff.mp hfits
    rcases Pattern.precedes_of_captures? hcaptures with hsame | hranks
    · -- no other resource has the pattern
      obtain rfl := List.inj_on_of_nodup_map hsound.distinct hother hmem (hsame.trans hpattern.symm)
      rw [hpattern, Pattern.captures?_literal] at hcaptures
      cases hcaptures
      exact .inl rfl
    · exact .inr (hpattern ▸ hranks)

end Router

end Rowgate.Http
