/-!
# Maps in insertion order

An ordered map is a list of pairs whose keys are pairwise different, in the order in which the
keys were first inserted. Inserting a present key changes its value and keeps its place; erasing
a key closes the gap. Records, documents, tables of settings and the table of live connections
are all maps of this kind.

* `OrderedMap.get?`, `OrderedMap.contains`, `OrderedMap.keys`;
* `OrderedMap.insert`, `OrderedMap.erase`, `OrderedMap.modify`;
* `OrderedMap.ofList`: repeated insertion, so a repeated key keeps its first place and takes its
  last value;
* `OrderedMap.present`: the pairs of which there is a value.
-/

namespace Polystore

/-- A list of pairs, read as a map in insertion order. -/
abbrev OrderedMap (κ α : Type) := List (κ × α)

namespace OrderedMap

variable {κ α : Type} [DecidableEq κ]

def get? : OrderedMap κ α → κ → Option α
  | [], _ => none
  | (k, v) :: rest, key => if k = key then some v else get? rest key

def contains (m : OrderedMap κ α) (key : κ) : Bool := (get? m key).isSome

def keys (m : OrderedMap κ α) : List κ := m.map Prod.fst

/-- Give a key a value: in place if the key is present, at the end if not. -/
def insert : OrderedMap κ α → κ → α → OrderedMap κ α
  | [], key, value => [(key, value)]
  | (k, v) :: rest, key, value =>
    if k = key then (k, value) :: rest else (k, v) :: insert rest key value

def erase : OrderedMap κ α → κ → OrderedMap κ α
  | [], _ => []
  | (k, v) :: rest, key => if k = key then erase rest key else (k, v) :: erase rest key

/-- Change the value of a present key. -/
def modify (m : OrderedMap κ α) (key : κ) (f : α → α) : OrderedMap κ α :=
  m.map fun entry => if entry.1 = key then (entry.1, f entry.2) else entry

def ofList (pairs : List (κ × α)) : OrderedMap κ α :=
  pairs.foldl (fun m entry => insert m entry.1 entry.2) []

/-- The pairs whose values are there. -/
def present (entries : OrderedMap κ (Option α)) : OrderedMap κ α :=
  entries.filterMap fun entry => entry.2.map (entry.1, ·)

/-! ## The view through `get?` -/

@[simp] theorem get?_nil (key : κ) : get? ([] : OrderedMap κ α) key = none := rfl

theorem get?_cons (entry : κ × α) (rest : OrderedMap κ α) (key : κ) :
    get? (entry :: rest) key = if entry.1 = key then some entry.2 else get? rest key := rfl

theorem get?_insert (m : OrderedMap κ α) (key other : κ) (value : α) :
    get? (insert m key value) other = if key = other then some value else get? m other := by
  induction m with
  | nil => rfl
  | cons entry rest ih =>
    obtain ⟨k, v⟩ := entry
    by_cases h : k = key
    · subst h
      by_cases h' : k = other <;> simp [insert, get?_cons, h']
    · by_cases h' : k = other
      · subst h'
        simp [insert, get?_cons, h, Ne.symm h]
      · simp [insert, get?_cons, h, h', ih]

theorem get?_erase (m : OrderedMap κ α) (key other : κ) :
    get? (erase m key) other = if key = other then none else get? m other := by
  induction m with
  | nil => simp [erase]
  | cons entry rest ih =>
    obtain ⟨k, v⟩ := entry
    by_cases h : k = key
    · subst h
      by_cases h' : k = other <;> simp_all [erase, get?_cons]
    · by_cases h' : k = other
      · subst h'
        simp [erase, get?_cons, h, Ne.symm h]
      · simp [erase, get?_cons, h, h', ih]

theorem get?_append (m n : OrderedMap κ α) (key : κ) :
    get? (m ++ n) key = (get? m key).or (get? n key) := by
  induction m with
  | nil => rfl
  | cons entry rest ih =>
    by_cases h : entry.1 = key <;> simp [get?_cons, h, ih]

theorem get?_modify (m : OrderedMap κ α) (key other : κ) (f : α → α) :
    get? (modify m key f) other = if key = other then (get? m other).map f else get? m other := by
  induction m with
  | nil => simp [modify]
  | cons entry rest ih =>
    obtain ⟨k, v⟩ := entry
    simp only [modify] at ih
    by_cases h : k = key
    · subst h
      by_cases h' : k = other <;> simp_all [modify, get?_cons]
    · by_cases h' : k = other
      · subst h'
        simp [modify, get?_cons, h, Ne.symm h]
      · simp [modify, get?_cons, h, h', ih]

theorem get?_eq_none_iff (m : OrderedMap κ α) (key : κ) : get? m key = none ↔ key ∉ keys m := by
  induction m with
  | nil => simp [keys]
  | cons entry rest ih =>
    simp only [keys] at ih
    by_cases h : entry.1 = key
    · simp [get?_cons, keys, h]
    · simp [get?_cons, keys, h, ih, Ne.symm h]

theorem mem_of_get? {m : OrderedMap κ α} {key : κ} {value : α} (h : get? m key = some value) :
    (key, value) ∈ m := by
  induction m with
  | nil => simp at h
  | cons entry rest ih =>
    obtain ⟨k, v⟩ := entry
    rw [get?_cons] at h
    split at h
    · simp_all
    · exact List.mem_cons_of_mem _ (ih h)

/-- In a map whose keys are pairwise different, every pair is what its key gives. -/
theorem get?_eq_some_iff {m : OrderedMap κ α} (h : (keys m).Nodup) (key : κ) (value : α) :
    get? m key = some value ↔ (key, value) ∈ m := by
  induction m with
  | nil => simp
  | cons entry rest ih =>
    obtain ⟨k, v⟩ := entry
    obtain ⟨hk, hr⟩ : k ∉ keys rest ∧ (keys rest).Nodup := by simpa [keys] using h
    by_cases hkey : k = key
    · subst hkey
      have : (k, value) ∉ rest := fun hm => hk (List.mem_map_of_mem (f := Prod.fst) hm)
      simp [get?_cons, this, eq_comm]
    · simp [get?_cons, hkey, ih hr, Ne.symm hkey]

theorem get?_present {entries : OrderedMap κ (Option α)} (h : (keys entries).Nodup) (key : κ) :
    get? (present entries) key = (get? entries key).join := by
  unfold present
  induction entries with
  | nil => rfl
  | cons entry rest ih =>
    obtain ⟨k, v⟩ := entry
    obtain ⟨hk, hr⟩ : k ∉ keys rest ∧ (keys rest).Nodup := by simpa [keys] using h
    specialize ih hr
    by_cases hkey : k = key
    · subst hkey
      have hnone := (get?_eq_none_iff rest k).mpr hk
      cases v <;> simp [get?_cons, ih, hnone]
    · cases v <;> simp [get?_cons, hkey, ih]

theorem erase_eq_self {m : OrderedMap κ α} {key : κ} (h : get? m key = none) : erase m key = m := by
  induction m with
  | nil => rfl
  | cons entry rest ih =>
    obtain ⟨k, v⟩ := entry
    by_cases hk : k = key
    · simp [get?_cons, hk] at h
    · simp [erase, hk, ih (by simpa [get?_cons, hk] using h)]

theorem erase_insert_self (m : OrderedMap κ α) (key : κ) (value : α) :
    erase (insert m key value) key = erase m key := by
  induction m with
  | nil => simp [insert, erase]
  | cons entry rest ih =>
    obtain ⟨k, v⟩ := entry
    by_cases h : k = key <;> simp [insert, erase, h, ih]

@[simp] theorem keys_modify (m : OrderedMap κ α) (key : κ) (f : α → α) :
    keys (modify m key f) = keys m := by
  simp only [keys, modify, List.map_map]
  refine List.map_congr_left fun entry _ => ?_
  by_cases h : entry.1 = key <;> simp [h]

/-- A present key keeps its place, a new one goes to the end. -/
theorem keys_insert (m : OrderedMap κ α) (key : κ) (value : α) :
    keys (insert m key value) = if key ∈ keys m then keys m else keys m ++ [key] := by
  induction m with
  | nil => simp [insert, keys]
  | cons entry rest ih =>
    obtain ⟨k, v⟩ := entry
    simp only [keys] at ih
    by_cases h : k = key
    · subst h
      simp [insert, keys]
    · simp only [insert, h, if_false, keys, List.map_cons, ih, List.mem_cons, Ne.symm h, false_or]
      split <;> simp_all

theorem keys_erase (m : OrderedMap κ α) (key : κ) :
    keys (erase m key) = (keys m).filter (· ≠ key) := by
  induction m with
  | nil => rfl
  | cons entry rest ih =>
    obtain ⟨k, v⟩ := entry
    simp only [keys] at ih
    by_cases h : k = key <;> simp [erase, keys, h, ih]

theorem insert_of_notMem {m : OrderedMap κ α} {key : κ} (h : key ∉ keys m) (value : α) :
    insert m key value = m ++ [(key, value)] := by
  induction m with
  | nil => rfl
  | cons entry rest ih =>
    obtain ⟨k, v⟩ := entry
    obtain ⟨hk, hr⟩ : ¬ key = k ∧ key ∉ keys rest := by simpa [keys] using h
    simp [insert, Ne.symm hk, ih hr]

theorem foldl_insert {m rest : OrderedMap κ α} (h : (keys (m ++ rest)).Nodup) :
    rest.foldl (fun m entry => insert m entry.1 entry.2) m = m ++ rest := by
  induction rest generalizing m with
  | nil => simp
  | cons entry rest ih =>
    have hnew : entry.1 ∉ keys m := by
      simp only [keys, List.map_append, List.map_cons, List.nodup_append] at h
      exact fun hm => h.2.2 _ hm _ (List.mem_cons_self ..) rfl
    have hsplit : m ++ entry :: rest = m ++ [entry] ++ rest := by simp
    rw [List.foldl_cons, insert_of_notMem hnew, hsplit]
    exact ih (hsplit ▸ h)

/-- Pairs with pairwise different keys are a map already. -/
theorem ofList_eq_self {pairs : List (κ × α)} (h : (keys pairs).Nodup) : ofList pairs = pairs :=
  foldl_insert (m := []) h

end OrderedMap

end Polystore
