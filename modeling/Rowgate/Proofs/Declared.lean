import Mathlib.Data.List.Basic
import Mathlib.Data.List.Induction
import Rowgate.Service.Catalog
/-
What is declared of a handler, whatever the steps were that chose it.

Closing the settings adds two statuses to any settings at all, so they are declared also behind a step
that changes the settings freely; and the HTTP statuses that the catalog lists are those of the
declared statuses, ascending, as every insertion keeps them so.

Where no step changes the settings freely, the settings are told by the steps (`Told`): one step more
adds a tag behind the others if it is new, adds a status, or replaces what was there, and this is
carried through the run. The main result is `run_declares`.
-/
set_option autoImplicit false

namespace Rowgate

/-! ## Ascending lists -/

namespace Service

theorem mem_insertAscending {m n : Nat} {ns : List Nat} :
    m ∈ insertAscending n ns ↔ m = n ∨ m ∈ ns := by
  induction ns with
  | nil => simp [insertAscending]
  | cons k rest ih =>
    unfold insertAscending
    split
    · simp
    · split
      · next heq => simp [heq]
      · simp only [List.mem_cons, ih]
        exact or_left_comm

theorem pairwise_insertAscending (n : Nat) {ns : List Nat} (h : ns.Pairwise (· < ·)) :
    (insertAscending n ns).Pairwise (· < ·) := by
  induction ns with
  | nil => exact List.pairwise_singleton _ _
  | cons k rest ih =>
    obtain ⟨hk, hrest⟩ := List.pairwise_cons.mp h
    unfold insertAscending
    split
    · next hlt =>
      refine List.pairwise_cons.mpr ⟨fun m hm => ?_, h⟩
      rcases List.mem_cons.mp hm with rfl | hm
      · exact hlt
      · exact Nat.lt_trans hlt (hk m hm)
    · split
      · exact h
      · next hge hne =>
        refine List.pairwise_cons.mpr ⟨fun m hm => ?_, ih hrest⟩
        rcases mem_insertAscending.mp hm with rfl | hm
        · omega
        · exact hk m hm

namespace Entry

theorem pairwise_errorStatuses (entry : Entry) : entry.errorStatuses.Pairwise (· < ·) := by
  unfold errorStatuses
  induction entry.handler.expectedErrors.map (·.http) with
  | nil => exact List.Pairwise.nil
  | cons n ns ih => exact pairwise_insertAscending n ih

theorem mem_errorStatuses {entry : Entry} {n : Nat} :
    n ∈ entry.errorStatuses ↔ ∃ s ∈ entry.handler.expectedErrors, s.http = n := by
  rw [← List.mem_map, errorStatuses]
  induction entry.handler.expectedErrors.map (·.http) with
  | nil => rfl
  | cons k ns ih => rw [List.foldr_cons, mem_insertAscending, ih, List.mem_cons]

end Entry

end Service

/-! ## Declared statuses -/

namespace Operation.StatusSet

theorem mem_toList {set : StatusSet} {s : Status} : s ∈ set.toList ↔ set.contains s = true := by
  have hall : s ∈ Status.all := by cases s <;> decide
  rw [toList, List.mem_filter, and_iff_right hall]

theorem contains_insert {set : StatusSet} {s t : Status} :
    (set.insert s).contains t = true ↔ t = s ∨ set.contains t = true := by
  simp [insert]

end Operation.StatusSet

namespace Handler

open Operation (Status StatusSet)

namespace Descriptor

variable {d : Descriptor} {s : Status}

theorem mem_expectedErrors : s ∈ d.expectedErrors ↔ d.declares s = true := StatusSet.mem_toList

/-- Whatever the settings were, what is declared is what they expect and the two statuses. -/
theorem declares_build {settings : Settings} {inputType outputType : String} :
    (build settings inputType outputType).declares s = true ↔
      settings.expectedErrors.contains s = true ∨ s = .notFound ∨ s = .alreadyExists := by
  show ((settings.expectedErrors.insert .alreadyExists).insert .notFound).contains s = true ↔ _
  rw [StatusSet.contains_insert, StatusSet.contains_insert]
  tauto

end Descriptor

/-! ## Texts in the order in which they first come -/

/-- The given texts, each of them once, in the order in which they first come. -/
structure FirstOccurrences (given kept : List String) : Prop where
  mem : ∀ text, text ∈ kept ↔ text ∈ given
  nodup : kept.Nodup
  ordered : kept.Pairwise fun text later => given.idxOf text < given.idxOf later

namespace FirstOccurrences

variable {given kept : List String} {text : String}

/-- The place of what was given before is the same when one more text is given. -/
theorem ordered_snoc (h : FirstOccurrences given kept) (text : String) :
    kept.Pairwise fun t later => (given ++ [text]).idxOf t < (given ++ [text]).idxOf later := by
  refine h.ordered.imp_of_mem fun ht hlater hlt => ?_
  rwa [List.idxOf_append_of_mem ((h.mem _).mp ht), List.idxOf_append_of_mem ((h.mem _).mp hlater)]

theorem again (h : FirstOccurrences given kept) (hmem : text ∈ kept) :
    FirstOccurrences (given ++ [text]) kept where
  mem t := by
    have hgiven := (h.mem text).mp hmem
    rw [h.mem, List.mem_append, List.mem_singleton]
    exact ⟨.inl, fun ht => ht.elim id fun heq => heq ▸ hgiven⟩
  nodup := h.nodup
  ordered := h.ordered_snoc text

theorem new (h : FirstOccurrences given kept) (hnew : text ∉ kept) :
    FirstOccurrences (given ++ [text]) (kept ++ [text]) where
  mem t := by simp [h.mem]
  nodup := by
    refine List.nodup_append.mpr ⟨h.nodup, List.pairwise_singleton _ _, ?_⟩
    rintro t ht _ hlast rfl
    exact hnew (List.mem_singleton.mp hlast ▸ ht)
  ordered := by
    refine List.pairwise_append.mpr ⟨h.ordered_snoc text, List.pairwise_singleton _ _, ?_⟩
    intro t ht later hlater
    obtain rfl := List.mem_singleton.mp hlater
    have hgiven : t ∈ given := (h.mem t).mp ht
    have hnot : later ∉ given := fun hmem => hnew ((h.mem later).mpr hmem)
    rw [List.idxOf_append_of_mem hgiven, List.idxOf_append_of_notMem hnot]
    exact Nat.lt_of_lt_of_le (List.idxOf_lt_length_of_mem hgiven) (Nat.le_add_right _ _)

/-- What is given first stands first. -/
theorem head? (h : FirstOccurrences (text :: given) kept) : kept.head? = some text := by
  have hmem : text ∈ kept := (h.mem text).mpr List.mem_cons_self
  cases kept with
  | nil => contradiction
  | cons first rest =>
    rcases List.mem_cons.mp hmem with rfl | hrest
    · rfl
    · have hlt := (List.pairwise_cons.mp h.ordered).1 text hrest
      rw [List.idxOf_cons_self] at hlt
      exact absurd hlt (Nat.not_lt_zero _)

end FirstOccurrences

/-! ## Settings told by their steps -/

namespace Settings

namespace Step

/-- The tag that a step gives. -/
def tag? : Step → Option String
  | .tag text => some text
  | _ => none

def summary? : Step → Option String
  | .summary text => some text
  | _ => none

def description? : Step → Option String
  | .description text => some text
  | _ => none

def deprecated? : Step → Option Bool
  | .deprecated value => some value
  | _ => none

/-- The status that a step expects. -/
def status? : Step → Option Status
  | .expectedError s => some s
  | _ => none

/-- Whether a step changes the settings freely. -/
def isFree : Step → Bool
  | .configure _ => true
  | _ => false

end Step

/-- What the steps say of the settings that they lead to from a first tag. -/
structure Told (tag : String) (steps : List Step) (settings : Settings) : Prop where
  tags : FirstOccurrences (tag :: steps.filterMap Step.tag?) settings.tags
  summary : settings.summary = (steps.filterMap Step.summary?).getLast?
  description : settings.description = (steps.filterMap Step.description?).getLast?
  deprecated : settings.deprecated = (steps.filterMap Step.deprecated?).getLast?.getD false
  expected : ∀ s, settings.expectedErrors.contains s = true ↔ s ∈ steps.filterMap Step.status?

/-! ### What a step changes -/

section Apply

variable {settings : Settings} {step : Step}

/-- A tag is all that adding one changes. -/
theorem addTag_eq (settings : Settings) (text : String) :
    settings.addTag text = { settings with tags := (settings.addTag text).tags } := by
  unfold addTag
  split <;> rfl

theorem apply_tags (h : step.isFree = false) :
    (settings.apply step).tags =
      step.tag?.elim settings.tags fun text => (settings.addTag text).tags := by
  cases step with
  | configure change => contradiction
  | _ => rfl

theorem apply_summary (h : step.isFree = false) :
    (settings.apply step).summary = step.summary?.or settings.summary := by
  cases step with
  | configure change => contradiction
  | tag text =>
    rw [apply, addTag_eq]
    rfl
  | _ => rfl

theorem apply_description (h : step.isFree = false) :
    (settings.apply step).description = step.description?.or settings.description := by
  cases step with
  | configure change => contradiction
  | tag text =>
    rw [apply, addTag_eq]
    rfl
  | _ => rfl

theorem apply_deprecated (h : step.isFree = false) :
    (settings.apply step).deprecated = step.deprecated?.getD settings.deprecated := by
  cases step with
  | configure change => contradiction
  | tag text =>
    rw [apply, addTag_eq]
    rfl
  | _ => rfl

theorem apply_expected (h : step.isFree = false) {s : Status} :
    (settings.apply step).expectedErrors.contains s = true ↔
      step.status? = some s ∨ settings.expectedErrors.contains s = true := by
  cases step with
  | configure change => contradiction
  | tag text =>
    rw [apply, addTag_eq]
    simp [Step.status?]
  | expectedError t =>
    rw [apply, StatusSet.contains_insert]
    simp [Step.status?, eq_comm (a := s)]
  | _ => simp [apply, Step.status?]

end Apply

/-! ### Steps one after the other -/

namespace Told

variable {tag : String} {steps : List Step} {settings : Settings}

theorem tagged (tag : String) : Told tag [] (Settings.tagged tag) where
  tags := ⟨fun _ => Iff.rfl, List.pairwise_singleton _ _, List.pairwise_singleton _ _⟩
  summary := rfl
  description := rfl
  deprecated := rfl
  expected _ := by simp [Settings.tagged, addTag, StatusSet.empty]

theorem filterMap_snoc {α : Type} (f : Step → Option α) (steps : List Step) (step : Step) :
    (steps ++ [step]).filterMap f = steps.filterMap f ++ (f step).toList := by
  rw [List.filterMap_append]
  cases h : f step <;> simp [h]

/-- What was said last is what the last step says, or else what was said last before. -/
theorem getLast?_snoc {α : Type} (f : Step → Option α) (steps : List Step) (step : Step) :
    ((steps ++ [step]).filterMap f).getLast? = (f step).or (steps.filterMap f).getLast? := by
  rw [filterMap_snoc, List.getLast?_append]
  cases f step <;> rfl

/-- A tag that is there stays where it is, and a new one stands behind the others. -/
theorem tags_apply (h : Told tag steps settings) {step : Step} (hstep : step.isFree = false) :
    FirstOccurrences (tag :: (steps ++ [step]).filterMap Step.tag?) (settings.apply step).tags := by
  rw [apply_tags hstep, filterMap_snoc, ← List.cons_append]
  cases step.tag? with
  | none => simpa using h.tags
  | some text =>
    show FirstOccurrences (_ ++ [text]) (settings.addTag text).tags
    by_cases hmem : text ∈ settings.tags
    · have hsame : (settings.addTag text).tags = settings.tags := by simp [addTag, hmem]
      rw [hsame]
      exact h.tags.again hmem
    · have hmore : (settings.addTag text).tags = settings.tags ++ [text] := by simp [addTag, hmem]
      rw [hmore]
      exact h.tags.new hmem

/-- **One more step.** -/
theorem apply (h : Told tag steps settings) {step : Step} (hstep : step.isFree = false) :
    Told tag (steps ++ [step]) (settings.apply step) where
  tags := h.tags_apply hstep
  summary := by rw [apply_summary hstep, getLast?_snoc, h.summary]
  description := by rw [apply_description hstep, getLast?_snoc, h.description]
  deprecated := by
    rw [apply_deprecated hstep, getLast?_snoc, h.deprecated]
    cases step.deprecated? <;> rfl
  expected s := by
    rw [apply_expected hstep, h.expected, filterMap_snoc, List.mem_append, Option.mem_toList]
    exact or_comm

/-- **A run of steps.** -/
theorem run (tag : String) (steps : List Step) (h : ∀ step ∈ steps, step.isFree = false) :
    Told tag steps ((Settings.tagged tag).run steps) := by
  induction steps using List.reverseRecOn with
  | nil => exact tagged tag
  | append_singleton steps step ih =>
    have hbefore : ∀ step ∈ steps, step.isFree = false := fun step hmem =>
      h step (List.mem_append_left _ hmem)
    have hlast : step.isFree = false := h step (List.mem_append_right _ List.mem_cons_self)
    rw [Settings.run, List.foldl_append]
    exact (ih hbefore).apply hlast

end Told

end Settings

/-! ## Main result -/

open Service (Entry)
open Settings (Step)

/-- **What is declared.** Whatever the steps are that choose the settings, the two statuses are
declared, and an entry of the catalog lists the HTTP statuses of what is declared, ascending. Where no
step changes the settings freely, the tags are the first one and the given ones, each once and in the
order in which they first come; the statuses are the given ones and the two; and each of the other
settings is the one given last. -/
theorem run_declares (tag : String) (steps : List Step) (inputType outputType : String) :
    let d := Descriptor.build ((Settings.tagged tag).run steps) inputType outputType
    (d.declares .notFound = true ∧ d.declares .alreadyExists = true ∧
      ∀ method path, let entry : Entry := ⟨method, path, d⟩
        entry.errorStatuses.Pairwise (· < ·) ∧
          ∀ n, n ∈ entry.errorStatuses ↔ ∃ s, d.declares s = true ∧ s.http = n) ∧
    ((∀ step ∈ steps, step.isFree = false) →
      (d.tags.head? = some tag ∧
        FirstOccurrences (tag :: steps.filterMap Step.tag?) d.tags) ∧
      (∀ s, d.declares s = true ↔
        s ∈ steps.filterMap Step.status? ∨ s = .notFound ∨ s = .alreadyExists) ∧
      d.settings.summary = (steps.filterMap Step.summary?).getLast? ∧
      d.settings.description = (steps.filterMap Step.description?).getLast? ∧
      d.settings.deprecated = (steps.filterMap Step.deprecated?).getLast?.getD false) := by
  intro d
  refine ⟨⟨Descriptor.declares_build.mpr (.inr (.inl rfl)),
    Descriptor.declares_build.mpr (.inr (.inr rfl)), fun method path => ?_⟩, fun h => ?_⟩
  · intro entry
    refine ⟨entry.pairwise_errorStatuses, fun n => ?_⟩
    rw [Entry.mem_errorStatuses]
    exact exists_congr fun s => and_congr_left' Descriptor.mem_expectedErrors
  · have htold := Settings.Told.run tag steps h
    refine ⟨⟨htold.tags.head?, htold.tags⟩, fun s => ?_, htold.summary, htold.description,
      htold.deprecated⟩
    rw [Descriptor.declares_build, htold.expected]

/-- A tag that is given again, a summary that is replaced, and a status. -/
theorem run_declares_again :
    let steps : List Step :=
      [.summary "Echo", .tag "Debug", .tag "Items", .expectedError .invalidArgument,
        .summary "Echo the input", .deprecated true]
    let d := Descriptor.build ((Settings.tagged "Items").run steps) "String" "Echo"
    (∀ step ∈ steps, step.isFree = false) ∧
      d.tags = ["Items", "Debug"] ∧ FirstOccurrences ["Items", "Debug", "Items"] d.tags ∧
      d.declares .invalidArgument = true ∧ d.declares .unavailable = false ∧
      d.settings.summary = some "Echo the input" ∧ d.settings.deprecated = true ∧
      (⟨.post, "/echo", d⟩ : Entry).errorStatuses = [400, 404, 409] := by
  intro steps d
  have hsteps : ∀ step ∈ steps, step.isFree = false := by decide
  obtain ⟨⟨-, htags⟩, hdeclares, hsummary, -, hdeprecated⟩ :=
    (run_declares "Items" steps "String" "Echo").2 hsteps
  refine ⟨hsteps, by decide, htags, (hdeclares _).mpr (.inl (by decide)), ?_, hsummary,
    hdeprecated, by decide⟩
  exact Bool.eq_false_iff.mpr fun h => absurd ((hdeclares _).mp h) (by decide)

end Handler

end Rowgate
