import Mathlib.Data.List.Induction
import Mathlib.Data.List.Nodup
import Polystore.OrderedMap

/-!
# Maps made of pairs

Pairs are inserted from left to right. So each key has the place where it first occurs, and the
value that it has last.

* `eraseDups_concat`, `nodup_eraseDups`, `length_eraseDups_eq_iff`: the first occurrences in a list;
* `OrderedMap.keys_ofList`, `OrderedMap.get?_ofList`: keys and values;
* **`OrderedMap.length_ofList_eq_iff`**: nothing is lost if no key is repeated.
-/

namespace Polystore

section EraseDups

variable {α : Type} [DecidableEq α]

theorem eraseDups_concat (l : List α) (a : α) :
    (l ++ [a]).eraseDups = if a ∈ l then l.eraseDups else l.eraseDups ++ [a] := by
  rw [List.eraseDups_append]
  split_ifs with h
  · simp [List.removeAll, h]
  · simp [List.removeAll, h, List.eraseDups_cons]

theorem nodup_eraseDups (l : List α) : l.eraseDups.Nodup := by
  induction l using List.reverseRecOn with
  | nil => simp
  | append_singleton l a ih =>
    rw [eraseDups_concat]
    split_ifs with h
    · exact ih
    · rw [← List.concat_eq_append, List.nodup_concat, List.mem_eraseDups]
      exact ⟨h, ih⟩

theorem length_eraseDups_le (l : List α) : l.eraseDups.length ≤ l.length := by
  induction l using List.reverseRecOn with
  | nil => simp
  | append_singleton l a ih =>
    rw [eraseDups_concat, List.length_append, List.length_singleton]
    split_ifs
    · omega
    · rw [List.length_append, List.length_singleton]
      omega

/-- No item is left out just if none is repeated. -/
theorem length_eraseDups_eq_iff (l : List α) : l.eraseDups.length = l.length ↔ l.Nodup := by
  induction l using List.reverseRecOn with
  | nil => simp
  | append_singleton l a ih =>
    have hle := length_eraseDups_le l
    have hnodup : (l ++ [a]).Nodup ↔ a ∉ l ∧ l.Nodup := by
      rw [← List.concat_eq_append, List.nodup_concat]
    rw [hnodup, eraseDups_concat, List.length_append, List.length_singleton]
    split_ifs with h
    · simp only [h, not_true, false_and, iff_false]
      omega
    · simp [h, ih]

end EraseDups

namespace OrderedMap

variable {κ α : Type} [DecidableEq κ] {pairs : List (κ × α)}

theorem ofList_concat (pairs : List (κ × α)) (entry : κ × α) :
    ofList (pairs ++ [entry]) = insert (ofList pairs) entry.1 entry.2 := by
  rw [ofList, List.foldl_append]
  rfl

/-- Each key is at its first place. -/
theorem keys_ofList (pairs : List (κ × α)) : keys (ofList pairs) = (keys pairs).eraseDups := by
  induction pairs using List.reverseRecOn with
  | nil => rfl
  | append_singleton pairs entry ih =>
    have hkeys : keys (pairs ++ [entry]) = keys pairs ++ [entry.1] := List.map_append
    rw [ofList_concat, keys_insert, hkeys, eraseDups_concat, ih]
    simp only [List.mem_eraseDups]

theorem nodup_keys_ofList (pairs : List (κ × α)) : (keys (ofList pairs)).Nodup := by
  rw [keys_ofList]
  exact nodup_eraseDups _

/-- Each key has its last value. -/
theorem get?_ofList (pairs : List (κ × α)) (key : κ) :
    get? (ofList pairs) key = get? pairs.reverse key := by
  induction pairs using List.reverseRecOn with
  | nil => rfl
  | append_singleton pairs entry ih =>
    rw [ofList_concat, get?_insert, List.reverse_append, List.reverse_singleton,
      List.singleton_append, get?_cons, ih]

theorem mem_of_mem_insert {m : OrderedMap κ α} {key : κ} {value : α} {entry : κ × α}
    (h : entry ∈ insert m key value) : entry ∈ m ∨ entry = (key, value) := by
  induction m with
  | nil => exact .inr (List.mem_singleton.mp h)
  | cons first rest ih =>
    obtain ⟨k, v⟩ := first
    by_cases hk : k = key
    · subst hk
      rw [insert, if_pos rfl] at h
      rcases List.mem_cons.mp h with rfl | h
      · exact .inr rfl
      · exact .inl (List.mem_cons_of_mem _ h)
    · rw [insert, if_neg hk] at h
      rcases List.mem_cons.mp h with rfl | h
      · exact .inl List.mem_cons_self
      · exact (ih h).imp_left (List.mem_cons_of_mem _)

theorem mem_of_mem_ofList {entry : κ × α} (h : entry ∈ ofList pairs) : entry ∈ pairs := by
  induction pairs using List.reverseRecOn with
  | nil => exact h
  | append_singleton pairs last ih =>
    rw [ofList_concat] at h
    rcases mem_of_mem_insert h with h | rfl
    · exact List.mem_append_left _ (ih h)
    · exact List.mem_append_right _ List.mem_cons_self

/-- **Nothing is lost just if no key is repeated.** -/
theorem length_ofList_eq_iff : (ofList pairs).length = pairs.length ↔ (keys pairs).Nodup := by
  have hlength : (ofList pairs).length = (keys pairs).eraseDups.length := by
    rw [← keys_ofList, keys, List.length_map]
  have hpairs : pairs.length = (keys pairs).length := by rw [keys, List.length_map]
  rw [hlength, hpairs, length_eraseDups_eq_iff]

example : ofList [("a", 1), ("b", 2), ("a", 3)] = [("a", 3), ("b", 2)] := rfl

end OrderedMap

end Polystore
