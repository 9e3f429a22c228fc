import Mathlib.Data.List.Induction
import Polystore.History

/-!
# The latest entries

A history holds the latest entries that were recorded after the last clearing, up to its capacity.
An entry is dropped because of its age among all entries, and not among those of its connection.

* `History.Change`, `History.after`: what is done with a history, one change after another;
* `History.recorded`: the entries that were recorded after the last clearing;
* `History.HoldsLatest`: what a history tells of such entries;
* **`History.holds_latest`**: it tells that after any changes.
-/

namespace Polystore.History

/-- What is done with a history. -/
inductive Change
  | record (e : HistoryEntry)
  | clear
deriving DecidableEq, Repr

def change (h : History) : Change → History
  | .record e => h.record e
  | .clear => h.clear

/-- A history after some changes. -/
def after (h : History) (changes : List Change) : History := changes.foldl change h

/-! ## Entries since the last clearing -/

namespace Change

def entry? : Change → Option HistoryEntry
  | .record e => some e
  | .clear => none

end Change

/-- The entries that were recorded after the last clearing, in order. -/
def recorded (changes : List Change) : List HistoryEntry :=
  ((changes.reverse.takeWhile (· ≠ .clear)).filterMap Change.entry?).reverse

section Recorded

variable {h : History} {changes : List Change} {e : HistoryEntry}

@[simp] theorem recorded_nil : recorded [] = [] := rfl

@[simp] theorem recorded_concat_record :
    recorded (changes ++ [.record e]) = recorded changes ++ [e] := by
  simp [recorded, Change.entry?]

@[simp] theorem recorded_concat_clear : recorded (changes ++ [.clear]) = [] := by
  simp [recorded]

@[simp] theorem after_concat {c : Change} :
    h.after (changes ++ [c]) = (h.after changes).change c := by
  simp [after]

@[simp] theorem capacity_after : (h.after changes).capacity = h.capacity := by
  induction changes using List.reverseRecOn with
  | nil => rfl
  | append_singleton changes c ih =>
    rw [after_concat]
    cases c <;> exact ih

/-- What is older than the capacity allows is gone for good, so it does not matter when it is
dropped. -/
theorem log_after (m : Nat) :
    ((empty m).after changes).log = (recorded changes).reverse.take m := by
  induction changes using List.reverseRecOn with
  | nil => simp [after, empty]
  | append_singleton changes c ih =>
    rw [after_concat]
    cases c with
    | clear => simp [change, clear, empty]
    | record e =>
      have hcapacity : ((empty m).after changes).capacity = m := capacity_after
      calc (((empty m).after changes).record e).log
        _ = (e :: ((empty m).after changes).log).take m := by simp only [record, hcapacity]
        _ = ([e] ++ (recorded changes).reverse.take m).take m := by rw [ih, List.singleton_append]
        _ = ([e] ++ (recorded changes).reverse).take m := by
          rw [List.take_append, List.take_append, List.take_take, Nat.min_eq_left (Nat.sub_le _ _)]
        _ = (recorded (changes ++ [.record e])).reverse.take m := by
          rw [recorded_concat_record, List.reverse_append, List.reverse_singleton]

end Recorded

/-! ## What a history tells -/

/-- A history with room for `m` entries holds the latest of some entries. -/
structure HoldsLatest (h : History) (m : Nat) (made : List HistoryEntry) : Prop where
  /-- The newest entry comes first. -/
  entries : h.entries none = made.reverse.take m
  size : h.size = min m made.length
  /-- The entries of a connection are cut out of all entries, in the same order. -/
  ofConnection : ∀ id, h.entries (some id) = (h.entries none).filter (·.connection = id)
  success : ∀ e ∈ h.entries none, e.success = true ↔ e.error = none
  /-- As long as fewer than `m` entries follow, an entry stays: behind all that follow it, and
  behind those of its own connection. -/
  kept : ∀ earlier e later, made = earlier ++ e :: later → later.length < m →
    (h.entries none)[later.length]? = some e ∧
      (h.entries (some e.connection))[later.countP (·.connection = e.connection)]? = some e
  /-- Once `m` entries follow, nothing tells of an entry and of those before it. -/
  dropped : ∀ earlier later, made = earlier ++ later → m ≤ later.length →
    h.entries none = later.reverse.take m ∧
      ∀ id, h.entries (some id) = (later.reverse.take m).filter (·.connection = id)
  /-- Without room, nothing is held. -/
  roomless : m = 0 → h.size = 0 ∧ ∀ connection, h.entries connection = []

/-- The entry of a connection that is behind those that follow it. -/
theorem getElem?_filter_connection {later older : List HistoryEntry} {e : HistoryEntry} :
    ((later.reverse ++ e :: older).filter
      (·.connection = e.connection))[later.countP (·.connection = e.connection)]? = some e := by
  have hlength : (later.reverse.filter (·.connection = e.connection)).length =
      later.countP (·.connection = e.connection) := by
    rw [← List.countP_eq_length_filter, List.countP_reverse]
  rw [List.filter_append, List.getElem?_append_right (Nat.le_of_eq hlength), hlength, Nat.sub_self,
    List.filter_cons_of_pos (by simp)]
  rfl

theorem HoldsLatest.of_log {h : History} {m : Nat} {made : List HistoryEntry}
    (hlog : h.log = made.reverse.take m) : h.HoldsLatest m made := by
  have hall : h.entries none = made.reverse.take m := hlog
  have hof : ∀ id, h.entries (some id) = (made.reverse.take m).filter (·.connection = id) :=
    fun id => by rw [History.entries, hlog]
  have hsize : h.size = min m made.length := by
    rw [History.size, hlog, List.length_take, List.length_reverse]
  constructor
  case entries => exact hall
  case size => exact hsize
  case ofConnection => exact fun _ => rfl
  case success => exact fun e _ => Option.isNone_iff_eq_none
  case kept =>
    rintro earlier e later rfl hroom
    -- what is left of the entries in front of `e` is cut off behind it
    have hcut : (earlier ++ e :: later).reverse.take m =
        later.reverse ++ e :: earlier.reverse.take (m - later.length - 1) := by
      obtain ⟨room, hm⟩ : ∃ room, m - later.length = room + 1 := ⟨m - later.length - 1, by omega⟩
      have hlater : later.reverse.take m = later.reverse :=
        List.take_of_length_le (by rw [List.length_reverse]; omega)
      rw [List.reverse_append, List.reverse_cons, List.append_assoc, List.take_append, hlater,
        List.length_reverse, hm, List.singleton_append, List.take_succ_cons, Nat.add_sub_cancel]
    refine ⟨?_, ?_⟩
    · rw [hall, hcut, List.getElem?_append_right (by simp), List.length_reverse, Nat.sub_self]
      rfl
    · rw [hof, hcut]
      exact getElem?_filter_connection
  case dropped =>
    rintro earlier later rfl hroom
    have hcut : (earlier ++ later).reverse.take m = later.reverse.take m := by
      rw [List.reverse_append, List.take_append_of_le_length (by rwa [List.length_reverse])]
    exact ⟨by rw [hall, hcut], fun id => by rw [hof, hcut]⟩
  case roomless =>
    rintro rfl
    refine ⟨by rw [hsize, Nat.zero_min], fun connection => ?_⟩
    cases connection with
    | none => exact hall
    | some id => exact hof id

/-- **A history holds the latest entries**, whatever was recorded and cleared before. There is a
history for every capacity that can be counted. -/
theorem holds_latest (m : Nat) (changes : List Change) :
    ofSize m = (if (m : Int) ≤ maxCapacity then .ok (empty m) else .error .huge) ∧
      ((empty m).after changes).HoldsLatest m (recorded changes) := by
  refine ⟨?_, .of_log (log_after m)⟩
  by_cases hm : (m : Int) ≤ maxCapacity
  · have hmax : maxCapacity = 9223372036854775807 := rfl
    rw [if_pos hm, ofSize, if_neg (by omega), if_neg (by omega), Int.toNat_natCast]
  · rw [if_neg hm, ofSize, if_pos (.inl (Int.not_le.mp hm))]

/-- Of three entries after a clearing, two are kept; the one of `b` is dropped as the oldest. -/
example :
    let entry (id command : String) : HistoryEntry := ⟨id, command, 0, none⟩
    let h := (empty 2).after [.record (entry "a" "1"), .clear, .record (entry "b" "2"),
      .record (entry "a" "3"), .record (entry "a" "4")]
    h.entries none = [entry "a" "4", entry "a" "3"] ∧ h.entries (some "b") = [] := by
  decide

end Polystore.History
