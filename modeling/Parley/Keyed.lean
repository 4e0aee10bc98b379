/-!
# Entries ordered by key

A `Keyed α` holds one value per text key, in ascending order of the keys.  Texts are compared
code point by code point, which is also the order of their UTF-8 bytes.  Session variables,
the members of a JSON object, the threads of a script and the dialogs of a set are all kept
this way, so what is listed never depends on the order of insertion.

`Keyed.get?` is the view of a table; `get?_insert_self` and `get?_insert_of_ne` say what
`Keyed.insert` does to it, and `insert_sorted` that it keeps the order.
-/

namespace Parley

/-- Values under text keys, ascending by key. -/
abbrev Keyed (α : Type) := List (String × α)

namespace Keyed

variable {α : Type}

/-- The value under a key. -/
def get? : Keyed α → String → Option α
  | [], _ => none
  | (k, v) :: rest, key => if k = key then some v else get? rest key

/-- Whether a key has a value. -/
def contains (m : Keyed α) (key : String) : Bool := (m.get? key).isSome

/-- The keys, ascending. -/
def keys (m : Keyed α) : List String := m.map Prod.fst

/-- Put a value under a key, in its place in the order; a value already there is replaced. -/
def insert : Keyed α → String → α → Keyed α
  | [], key, value => [(key, value)]
  | (k, v) :: rest, key, value =>
    if key < k then (key, value) :: (k, v) :: rest
    else if k = key then (key, value) :: rest
    else (k, v) :: insert rest key value

/-- Insert entries one after the other, so the last value given for a key stays. -/
def insertAll (m : Keyed α) (entries : List (String × α)) : Keyed α :=
  entries.foldl (fun m e => m.insert e.1 e.2) m

/-- The table of a list of entries; the last value given for a key stays. -/
def ofEntries (entries : List (String × α)) : Keyed α := insertAll [] entries

/-- Keys ascend strictly. -/
def Sorted (m : Keyed α) : Prop := m.Pairwise fun a b => a.1 < b.1

/-! ### Reading after writing -/

@[simp] theorem get?_nil (key : String) : get? ([] : Keyed α) key = none := rfl

theorem get?_cons (k : String) (v : α) (rest : Keyed α) (key : String) :
    get? ((k, v) :: rest) key = if k = key then some v else get? rest key := rfl

@[simp] theorem get?_insert_self (m : Keyed α) (key : String) (value : α) :
    (m.insert key value).get? key = some value := by
  induction m with
  | nil => simp [insert, get?]
  | cons e rest ih =>
    obtain ⟨k, v⟩ := e
    by_cases h₁ : key < k
    · simp [insert, h₁, get?]
    · by_cases h₂ : k = key
      · simp [insert, h₂, get?]
      · simp [insert, h₁, h₂, get?, ih]

theorem mem_of_get?_eq_some {m : Keyed α} {key : String} {value : α}
    (h : m.get? key = some value) : (key, value) ∈ m := by
  induction m with
  | nil => cases h
  | cons e rest ih =>
    obtain ⟨k, v⟩ := e
    rw [get?_cons] at h
    split at h
    · next hk =>
      obtain rfl := Option.some.inj h
      exact hk ▸ List.mem_cons_self
    · exact List.mem_cons_of_mem _ (ih h)

theorem get?_insert_of_ne (m : Keyed α) {key other : String} (value : α) (h : other ≠ key) :
    (m.insert key value).get? other = m.get? other := by
  induction m with
  | nil => simp [insert, get?, Ne.symm h]
  | cons e rest ih =>
    obtain ⟨k, v⟩ := e
    by_cases h₁ : key < k
    · simp [insert, h₁, get?, Ne.symm h]
    · by_cases h₂ : k = key
      · subst h₂; simp [insert, get?, Ne.symm h]
      · simp [insert, h₁, h₂, get?, ih]

theorem get?_eq_none {m : Keyed α} {key : String} (h : ∀ e ∈ m, e.1 ≠ key) :
    m.get? key = none := by
  induction m with
  | nil => rfl
  | cons e rest ih =>
    rw [get?_cons, if_neg (h e List.mem_cons_self)]
    exact ih fun f hf => h f (List.mem_cons_of_mem e hf)

/-- Entries with a key each go before what was there. -/
theorem get?_insertAll {entries : Keyed α} (h : entries.Sorted) (m : Keyed α) (key : String) :
    (insertAll m entries).get? key = (entries.get? key).or (m.get? key) := by
  induction entries generalizing m with
  | nil => rfl
  | cons e rest ih =>
    obtain ⟨k, v⟩ := e
    obtain ⟨hk, hr⟩ := List.pairwise_cons.1 h
    refine (ih hr (m.insert k v)).trans ?_
    by_cases hkey : k = key
    · have hnone : get? rest k = none :=
        get?_eq_none fun e he => Ne.symm (String.ne_of_lt (hk e he))
      rw [get?_cons, if_pos hkey, ← hkey, hnone, get?_insert_self]
      rfl
    · rw [get?_cons, if_neg hkey, get?_insert_of_ne m v (Ne.symm hkey)]

theorem insert_ne_nil (m : Keyed α) (key : String) (value : α) : m.insert key value ≠ [] := by
  intro hnil
  have hself := get?_insert_self m key value
  rw [hnil] at hself
  cases hself

theorem insertAll_eq_nil_iff {m : Keyed α} {entries : List (String × α)} :
    insertAll m entries = [] ↔ entries = [] ∧ m = [] := by
  induction entries generalizing m with
  | nil => exact (and_iff_right rfl).symm
  | cons e rest ih =>
    refine iff_of_false (fun h => ?_) fun h => nomatch h.1
    exact insert_ne_nil m e.1 e.2 (ih.1 h).2

/-! ### The order is kept -/

theorem mem_insert {m : Keyed α} {key : String} {value : α} {e : String × α}
    (h : e ∈ m.insert key value) : e = (key, value) ∨ e ∈ m := by
  induction m with
  | nil => simpa [insert] using h
  | cons f rest ih =>
    obtain ⟨k, v⟩ := f
    unfold insert at h
    grind

theorem mem_insertAll {m : Keyed α} {entries : List (String × α)} {e : String × α}
    (h : e ∈ insertAll m entries) : e ∈ entries ∨ e ∈ m := by
  induction entries generalizing m with
  | nil => exact .inr h
  | cons f rest ih =>
    rcases ih h with hrest | hm
    · exact .inl (List.mem_cons_of_mem f hrest)
    · rcases mem_insert hm with rfl | hm
      · exact .inl List.mem_cons_self
      · exact .inr hm

theorem Sorted.lt_of_append {m rest : Keyed α} {key : String} {value : α}
    (h : Sorted (m ++ (key, value) :: rest)) : ∀ e ∈ m, e.1 < key :=
  fun e he => (List.pairwise_append.1 h).2.2 e he (key, value) List.mem_cons_self

theorem Sorted.get?_of_mem {m : Keyed α} (h : m.Sorted) {key : String} {value : α}
    (hmem : (key, value) ∈ m) : m.get? key = some value := by
  induction m with
  | nil => cases hmem
  | cons e rest ih =>
    obtain ⟨k, v⟩ := e
    obtain ⟨hk, hr⟩ := List.pairwise_cons.1 h
    rw [get?_cons]
    rcases List.mem_cons.1 hmem with heq | hrest
    · obtain ⟨rfl, rfl⟩ := Prod.mk.inj heq
      rw [if_pos rfl]
    · rw [if_neg (String.ne_of_lt (hk (key, value) hrest)), ih hr hrest]

theorem insert_sorted {m : Keyed α} (h : m.Sorted) (key : String) (value : α) :
    (m.insert key value).Sorted := by
  induction m with
  | nil => simp [insert, Sorted]
  | cons f rest ih =>
    obtain ⟨k, v⟩ := f
    obtain ⟨hk, hr⟩ := List.pairwise_cons.1 h
    by_cases h₁ : key < k
    · simp only [insert, h₁, if_true]
      refine List.pairwise_cons.2 ⟨fun e he => ?_, h⟩
      rcases List.mem_cons.1 he with rfl | he
      · exact h₁
      · exact String.lt_trans h₁ (hk e he)
    · by_cases h₂ : k = key
      · subst h₂
        simp only [insert, h₁, if_true, if_false]
        exact List.pairwise_cons.2 ⟨hk, hr⟩
      · simp only [insert, h₁, h₂, if_false]
        refine List.pairwise_cons.2 ⟨fun e he => ?_, ih hr⟩
        rcases mem_insert he with rfl | he
        · have hle := String.not_lt.1 h₁
          exact Classical.byContradiction fun hlt =>
            h₂ (String.le_antisymm hle (String.not_lt.1 hlt))
        · exact hk e he

end Keyed

end Parley
