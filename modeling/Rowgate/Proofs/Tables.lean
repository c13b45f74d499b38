import Mathlib.Data.List.Forall2
import Mathlib.Data.List.Induction
import Rowgate.Keyed
/-
Tables as what they hold.

Insertions keep the keys of a table ascending, so a table that they built is told by the values of
its keys: two such tables that agree on every key are equal (`Keyed.Ascending.ext`). Under a key
such a table holds the last value given to it, whatever was given to other keys in between. Hence
pairs that give each key its values in the same order make the same table
(`Keyed.ofPairs_eq_of_reordered`), and the pairs of a table make the table again.
-/
set_option autoImplicit false

namespace Rowgate.Keyed

variable {α β : Type}

/-! ## The last value given to a key -/

/-- The value that the last pair with the key gives. -/
def lastGiven (key : String) (pairs : List (String × α)) : Option α :=
  ((pairs.filter fun pair => pair.1 = key).getLast?).map (·.2)

/-- After insertions a key has the last value given to it, and its old value if none was given. -/
theorem get?_insertAll (key : String) (pairs : List (String × α)) (table : Keyed α) :
    get? key (insertAll table pairs) = (lastGiven key pairs).or (get? key table) := by
  induction pairs using List.reverseRecOn with
  | nil => rfl
  | append_singleton pairs pair ih =>
    have hstep : insertAll table (pairs ++ [pair]) =
        insert pair.1 pair.2 (insertAll table pairs) := by
      rw [insertAll, List.foldl_append]; rfl
    rw [hstep, get?_insert, ih, lastGiven, lastGiven, List.filter_append]
    by_cases hkey : key = pair.1
    · simp [hkey]
    -- a pair with another key changes nothing for this one
    · have hne : ¬ pair.1 = key := fun h => hkey h.symm
      simp [hkey, hne]

/-- A key has the value that all pairs with it give. -/
theorem lastGiven_eq_some {key : String} {value : α} {pairs : List (String × α)}
    (hmem : (key, value) ∈ pairs) (h : ∀ pair ∈ pairs, pair.1 = key → pair.2 = value) :
    lastGiven key pairs = some value := by
  have hsome : (key, value) ∈ pairs.filter fun pair => pair.1 = key :=
    List.mem_filter.mpr ⟨hmem, decide_eq_true rfl⟩
  obtain ⟨last, hlast⟩ : ∃ last, (pairs.filter fun pair => pair.1 = key).getLast? = some last :=
    ⟨_, List.getLast?_eq_some_getLast (List.ne_nil_of_mem hsome)⟩
  obtain ⟨hpairs, hkey⟩ := List.mem_filter.mp (List.mem_of_getLast? hlast)
  rw [lastGiven, hlast, Option.map_some, h last hpairs (of_decide_eq_true hkey)]

theorem lastGiven_eq_none {key : String} {pairs : List (String × α)}
    (h : ∀ pair ∈ pairs, pair.1 ≠ key) : lastGiven key pairs = none := by
  have hnil : (pairs.filter fun pair => pair.1 = key) = [] :=
    List.filter_eq_nil_iff.mpr fun pair hpair hkey => h pair hpair (of_decide_eq_true hkey)
  rw [lastGiven, hnil]
  rfl

/-- The last value given to a key stands behind the key, and the key does not come again. -/
theorem lastGiven_eq_some_iff {key : String} {value : α} {pairs : List (String × α)} :
    lastGiven key pairs = some value ↔
      ∃ front rest, pairs = front ++ (key, value) :: rest ∧ key ∉ rest.map (·.1) := by
  constructor
  · intro h
    obtain ⟨last, hlast, rfl⟩ := Option.map_eq_some_iff.mp h
    obtain ⟨given, hgiven⟩ := List.getLast?_eq_some_iff.mp hlast
    obtain ⟨front, rest, rfl, -, hrest⟩ := List.filter_eq_append_iff.mp hgiven
    obtain ⟨front', rest', rfl, -, hkey, hnone⟩ := List.filter_eq_cons_iff.mp hrest
    obtain rfl : last.1 = key := of_decide_eq_true hkey
    refine ⟨front ++ front', rest', by rw [List.append_assoc], fun hmem => ?_⟩
    obtain ⟨pair, hpair, hsame⟩ := List.mem_map.mp hmem
    exact List.filter_eq_nil_iff.mp hnone pair hpair (decide_eq_true hsame)
  · rintro ⟨front, rest, rfl, hrest⟩
    have hnone : (rest.filter fun pair => pair.1 = key) = [] :=
      List.filter_eq_nil_iff.mpr fun pair hpair hkey =>
        hrest (List.mem_map.mpr ⟨pair, hpair, of_decide_eq_true hkey⟩)
    simp [lastGiven, hnone]

theorem lastGiven_eq_none_iff {key : String} {pairs : List (String × α)} :
    lastGiven key pairs = none ↔ key ∉ pairs.map (·.1) := by
  constructor
  · intro h hmem
    obtain ⟨pair, hpair, hkey⟩ := List.mem_map.mp hmem
    have hgiven := List.getLast?_eq_none_iff.mp (Option.map_eq_none_iff.mp h)
    exact List.filter_eq_nil_iff.mp hgiven pair hpair (decide_eq_true hkey)
  · intro h
    exact lastGiven_eq_none fun pair hpair hkey => h (List.mem_map.mpr ⟨pair, hpair, hkey⟩)

theorem map_fst_mapValues (g : α → β) (pairs : List (String × α)) :
    (mapValues g pairs).map (·.1) = pairs.map (·.1) := by
  rw [mapValues, List.map_map]
  rfl

theorem filter_mapValues (g : α → β) (key : String) (pairs : List (String × α)) :
    ((mapValues g pairs).filter fun pair => pair.1 = key) =
      mapValues g (pairs.filter fun pair => pair.1 = key) := by
  rw [mapValues, List.filter_map]
  rfl

theorem lastGiven_mapValues (g : α → β) (key : String) (pairs : List (String × α)) :
    lastGiven key (mapValues g pairs) = (lastGiven key pairs).map g := by
  rw [lastGiven, lastGiven, filter_mapValues, mapValues, List.getLast?_map, Option.map_map,
    Option.map_map]
  rfl

/-! ## Ascending keys -/

/-- Every key is less than the keys behind it. -/
def Ascending (table : Keyed α) : Prop := table.Pairwise fun a b => a.1 < b.1

instance (table : Keyed α) : Decidable (Ascending table) :=
  inferInstanceAs (Decidable (table.Pairwise fun a b => a.1 < b.1))

theorem mem_insert {key : String} {value : α} {table : Keyed α} {pair : String × α}
    (h : pair ∈ insert key value table) : pair = (key, value) ∨ pair ∈ table := by
  induction table with
  | nil => exact .inl (List.mem_singleton.mp h)
  | cons head rest ih =>
    obtain ⟨k, v⟩ := head
    unfold insert at h
    split at h
    · exact (List.mem_cons.mp h).imp_right (List.mem_cons_of_mem _)
    split at h
    · exact List.mem_cons.mp h
    · rcases List.mem_cons.mp h with hhead | hrest
      · exact .inr (hhead ▸ List.mem_cons_self)
      · exact (ih hrest).imp_right (List.mem_cons_of_mem _)

theorem mem_insert_self {key : String} {value : α} {table : Keyed α} :
    (key, value) ∈ insert key value table := by
  induction table with
  | nil => exact List.mem_cons_self
  | cons head rest ih =>
    obtain ⟨k, v⟩ := head
    unfold insert
    split
    · exact List.mem_cons_self
    split
    · exact List.mem_cons_self
    · exact List.mem_cons_of_mem _ ih

/-- Tables that differ under one key are related pair by pair if the values of the key are. -/
theorem forall₂_insert {R : String × α → String × α → Prop} (hrefl : ∀ pair, R pair pair)
    {key : String} {value value' : α} (h : R (key, value) (key, value')) (table : Keyed α) :
    List.Forall₂ R (insert key value table) (insert key value' table) := by
  have hsame (pairs : Keyed α) : List.Forall₂ R pairs pairs :=
    List.forall₂_same.mpr fun pair _ => hrefl pair
  induction table with
  | nil => exact .cons h .nil
  | cons head rest ih =>
    obtain ⟨k, v⟩ := head
    unfold insert
    by_cases heq : key = k
    · rw [if_pos heq, if_pos heq]
      exact .cons h (hsame rest)
    · rw [if_neg heq, if_neg heq]
      by_cases hlt : key < k
      · rw [if_pos hlt, if_pos hlt]
        exact .cons h (hsame _)
      · rw [if_neg hlt, if_neg hlt]
        exact .cons (hrefl _) ih

theorem Ascending.insert {table : Keyed α} (h : Ascending table) (key : String) (value : α) :
    Ascending (Keyed.insert key value table) := by
  induction table with
  | nil => exact List.pairwise_singleton _ _
  | cons head rest ih =>
    obtain ⟨k, v⟩ := head
    obtain ⟨hhead, hrest⟩ := List.pairwise_cons.mp h
    unfold Keyed.insert
    by_cases heq : key = k
    · rw [if_pos heq]
      exact List.pairwise_cons.mpr ⟨fun p hp => heq ▸ hhead p hp, hrest⟩
    · rw [if_neg heq]
      by_cases hlt : key < k
      · rw [if_pos hlt]
        refine List.pairwise_cons.mpr ⟨fun p hp => ?_, h⟩
        rcases List.mem_cons.mp hp with rfl | hp
        · exact hlt
        · exact String.lt_trans hlt (hhead p hp)
      · rw [if_neg hlt]
        refine List.pairwise_cons.mpr ⟨fun p hp => ?_, ih hrest⟩
        rcases mem_insert hp with rfl | hp
        -- a key that is neither equal nor less comes behind
        · rcases Std.lt_trichotomy key k with hless | hsame | hgreater
          · exact absurd hless hlt
          · exact absurd hsame heq
          · exact hgreater
        · exact hhead p hp

theorem Ascending.insertAll {table : Keyed α} (h : Ascending table) (pairs : List (String × α)) :
    Ascending (Keyed.insertAll table pairs) := by
  induction pairs generalizing table with
  | nil => exact h
  | cons pair pairs ih => exact ih (h.insert pair.1 pair.2)

theorem ascending_ofPairs (pairs : List (String × α)) : Ascending (ofPairs pairs) :=
  Ascending.insertAll List.Pairwise.nil pairs

theorem Ascending.mapValues {table : Keyed α} (h : Ascending table) (g : α → β) :
    Ascending (Keyed.mapValues g table) :=
  List.pairwise_map.mpr h

/-! ## A table as what it holds -/

/-- A table with ascending keys holds exactly its pairs. -/
theorem Ascending.get?_eq_some_iff {table : Keyed α} (h : Ascending table) {key : String}
    {value : α} : get? key table = some value ↔ (key, value) ∈ table := by
  induction table with
  | nil => simp [get?]
  | cons head rest ih =>
    obtain ⟨k, v⟩ := head
    obtain ⟨hhead, hrest⟩ := List.pairwise_cons.mp h
    rw [get?]
    by_cases heq : key = k
    · subst heq
      have hnot : (key, value) ∉ rest := fun hmem => String.lt_irrefl key (hhead _ hmem)
      simp [hnot, eq_comm]
    · rw [if_neg heq, ih hrest]
      simp [heq]

/-- A table whose values are changed, each in the light of its key, holds the changed values. -/
theorem get?_map (g : String → α → β) (key : String) (table : Keyed α) :
    get? key (table.map fun pair => (pair.1, g pair.1 pair.2)) = (get? key table).map (g key) := by
  induction table with
  | nil => rfl
  | cons head rest ih =>
    obtain ⟨k, v⟩ := head
    rw [List.map_cons, get?, get?, ih]
    by_cases hkey : key = k
    · rw [if_pos hkey, if_pos hkey, hkey]
      rfl
    · rw [if_neg hkey, if_neg hkey]

/-- **Tables with ascending keys that agree on every key are equal.** -/
theorem Ascending.ext {s t : Keyed α} (hs : Ascending s) (ht : Ascending t)
    (h : ∀ key, get? key s = get? key t) : s = t := by
  -- both hold the same pairs, each once, and in ascending order there is one list of them
  have hmem (pair : String × α) : pair ∈ s ↔ pair ∈ t := by
    rw [← hs.get?_eq_some_iff, ← ht.get?_eq_some_iff, h]
  have hnodup {u : Keyed α} (hu : Ascending u) : u.Nodup := by
    refine List.Pairwise.imp ?_ hu
    intro a b hlt heq
    exact String.lt_irrefl b.1 (heq ▸ hlt)
  have hperm : s.Perm t := (List.perm_ext_iff_of_nodup (hnodup hs) (hnodup ht)).mpr hmem
  exact hperm.eq_of_pairwise (fun a b _ _ hab hba => absurd hba (String.lt_asymm hab)) hs ht

/-- Tables with ascending keys that agree on the keys of a kind have the same pairs with such
keys. -/
theorem Ascending.filter_eq {s t : Keyed α} (hs : Ascending s) (ht : Ascending t)
    {p : String → Bool} (h : ∀ key, p key = true → get? key s = get? key t) :
    (s.filter fun pair => p pair.1) = t.filter fun pair => p pair.1 := by
  have hs' : Ascending (s.filter fun pair => p pair.1) := hs.sublist List.filter_sublist
  have ht' : Ascending (t.filter fun pair => p pair.1) := ht.sublist List.filter_sublist
  refine hs'.ext ht' fun key => Option.ext fun value => ?_
  rw [hs'.get?_eq_some_iff, ht'.get?_eq_some_iff, List.mem_filter, List.mem_filter]
  refine and_congr_left fun hkey => ?_
  rw [← hs.get?_eq_some_iff, ← ht.get?_eq_some_iff, h key hkey]

/-! ## Tables made of pairs -/

theorem ofPairs_append (pairs pairs' : List (String × α)) :
    ofPairs (pairs ++ pairs') = insertAll (ofPairs pairs) pairs' :=
  List.foldl_append

/-- Under a key the table of pairs holds the last value given to it. -/
theorem get?_ofPairs (key : String) (pairs : List (String × α)) :
    get? key (ofPairs pairs) = lastGiven key pairs := by
  have h := get?_insertAll key pairs []
  rw [get?, Option.or_none] at h
  exact h

theorem insert_eq_append {key : String} {value : α} {table : Keyed α}
    (h : ∀ pair ∈ table, pair.1 < key) : insert key value table = table ++ [(key, value)] := by
  induction table with
  | nil => rfl
  | cons head rest ih =>
    obtain ⟨k, v⟩ := head
    have hlt : k < key := h (k, v) List.mem_cons_self
    have hne : ¬ key = k := fun heq => String.lt_irrefl k (heq ▸ hlt)
    rw [insert, if_neg hne, if_neg (String.lt_asymm hlt),
      ih fun pair hpair => h pair (List.mem_cons_of_mem _ hpair)]
    rfl

/-- The pairs of a table make the table again. -/
theorem Ascending.ofPairs_eq {table : Keyed α} (h : Ascending table) : ofPairs table = table := by
  induction table using List.reverseRecOn with
  | nil => rfl
  | append_singleton table pair ih =>
    obtain ⟨htable, -, hlast⟩ := List.pairwise_append.mp h
    rw [ofPairs_append, ih htable]
    exact insert_eq_append fun p hp => hlast p hp pair List.mem_cons_self

/-- A table of pairs gives each key the last value that the pairs give to it. -/
theorem lastGiven_ofPairs (key : String) (pairs : List (String × α)) :
    lastGiven key (ofPairs pairs) = lastGiven key pairs := by
  rw [← get?_ofPairs, (ascending_ofPairs pairs).ofPairs_eq, get?_ofPairs]

/-- The pairs of each key stand in the same order in both lists. -/
def Reordered (pairs pairs' : List (String × α)) : Prop :=
  ∀ key, (pairs.filter fun pair => pair.1 = key) = pairs'.filter fun pair => pair.1 = key

/-- **Pairs in another order make the same table**, if those of each key keep their order. -/
theorem ofPairs_eq_of_reordered {pairs pairs' : List (String × α)} (h : Reordered pairs pairs') :
    ofPairs pairs = ofPairs pairs' := by
  refine (ascending_ofPairs pairs).ext (ascending_ofPairs pairs') fun key => ?_
  rw [get?_ofPairs, get?_ofPairs, lastGiven, lastGiven, h key]

/-- Pairs with different keys may stand in any order. -/
theorem Reordered.of_perm {pairs pairs' : List (String × α)} (h : pairs.Perm pairs')
    (hkeys : (pairs.map (·.1)).Nodup) : Reordered pairs pairs' := by
  intro key
  have hapart : pairs.Pairwise fun a b => a.1 ≠ b.1 := List.pairwise_map.mp hkeys
  have hapart' : pairs'.Pairwise fun a b => a.1 ≠ b.1 :=
    List.pairwise_map.mp ((h.map _).nodup_iff.mp hkeys)
  refine (h.filter _).eq_of_pairwise (fun a b ha hb hne _ => ?_) (hapart.filter _)
    (hapart'.filter _)
  -- of two pairs with the key one would be behind the other
  have hsame : a.1 = b.1 :=
    (of_decide_eq_true (List.mem_filter.mp ha).2).trans
      (of_decide_eq_true (List.mem_filter.mp hb).2).symm
  exact absurd hsame hne

theorem Reordered.map {pairs pairs' : List (String × α)} (h : Reordered pairs pairs')
    (g : α → β) : Reordered (mapValues g pairs) (mapValues g pairs') := by
  intro key
  rw [filter_mapValues, filter_mapValues, h key]

theorem Reordered.append {pairs pairs' others others' : List (String × α)}
    (h : Reordered pairs pairs') (hothers : Reordered others others') :
    Reordered (pairs ++ others) (pairs' ++ others') := by
  intro key
  rw [List.filter_append, List.filter_append, h key, hothers key]

/-! ## One pair more -/

/-- The pairs have one more at some place. -/
def Adds (key : String) (value : α) (pairs pairs' : List (String × α)) : Prop :=
  ∃ front rest, pairs = front ++ rest ∧ pairs' = front ++ (key, value) :: rest

variable {key : String} {value : α} {pairs pairs' : List (String × α)}

theorem Adds.mapValues (h : Adds key value pairs pairs') (g : α → β) :
    Adds key (g value) (mapValues g pairs) (mapValues g pairs') := by
  obtain ⟨front, rest, rfl, rfl⟩ := h
  exact ⟨Keyed.mapValues g front, Keyed.mapValues g rest, List.map_append, List.map_append⟩

theorem Adds.append_left (h : Adds key value pairs pairs') (earlier : List (String × α)) :
    Adds key value (earlier ++ pairs) (earlier ++ pairs') := by
  obtain ⟨front, rest, rfl, rfl⟩ := h
  exact ⟨earlier ++ front, rest, (List.append_assoc ..).symm, (List.append_assoc ..).symm⟩

theorem Adds.append_right (h : Adds key value pairs pairs') (later : List (String × α)) :
    Adds key value (pairs ++ later) (pairs' ++ later) := by
  obtain ⟨front, rest, rfl, rfl⟩ := h
  exact ⟨front, rest ++ later, List.append_assoc .., List.append_assoc ..⟩

/-- One pair more under a new key is one entry more of the table. -/
theorem ofPairs_of_adds (h : Adds key value pairs pairs') (hkey : key ∉ pairs.map (·.1)) :
    ofPairs pairs' = insert key value (ofPairs pairs) := by
  obtain ⟨front, rest, rfl, rfl⟩ := h
  have hlast : ofPairs (front ++ rest ++ [(key, value)]) =
      insert key value (ofPairs (front ++ rest)) := by
    rw [ofPairs_append (front ++ rest)]
    rfl
  rw [← hlast]
  refine ofPairs_eq_of_reordered fun other => ?_
  by_cases hother : key = other
  -- the pair is the only one with its key
  · have hnone : (rest.filter fun pair => pair.1 = other) = [] :=
      List.filter_eq_nil_iff.mpr fun pair hpair hsame =>
        hkey (List.mem_map.mpr ⟨pair, List.mem_append_right _ hpair,
          (of_decide_eq_true hsame).trans hother.symm⟩)
    simp [hother, hnone]
  · simp [hother]

end Rowgate.Keyed
