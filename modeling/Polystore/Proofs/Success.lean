import Mathlib.Data.List.Forall2

/-!
# Computations that succeed

A sequence of computations succeeds if each of its parts does.

* `Except.bind_eq_ok_iff`, `Except.mapError_eq_ok_iff`;
* `Except.mapM_eq_ok_iff`, `Except.exists_of_mapM_eq_ok`: item by item through a list;
* `Option.mapM_eq_some_iff`: the same of options;
* `List.exists_forall₂`, `List.forall_mem_of_forall₂`, `List.forall₂_map_map`: results for all items,
  and what they share.
-/

namespace Except

variable {ε ε' α β : Type} {x : Except ε α} {f : α → Except ε β}

theorem bind_eq_ok_iff {b : β} : x >>= f = .ok b ↔ ∃ a, x = .ok a ∧ f a = .ok b := by
  cases x with
  | ok a => simp [bind, Except.bind]
  | error e => simp [bind, Except.bind]

theorem mapError_eq_ok_iff {g : ε → ε'} {a : α} : x.mapError g = .ok a ↔ x = .ok a := by
  cases x with
  | ok b => simp [Except.mapError]
  | error e => simp [Except.mapError]

theorem mapM_eq_ok_iff {items : List α} {results : List β} :
    items.mapM f = .ok results ↔ List.Forall₂ (fun a b => f a = .ok b) items results := by
  induction items generalizing results with
  | nil => exact ⟨fun h => Except.ok.inj h ▸ .nil, fun h => by cases h; rfl⟩
  | cons a items ih =>
    rw [List.mapM_cons, bind_eq_ok_iff]
    constructor
    · rintro ⟨b, hb, h⟩
      obtain ⟨bs, hbs, h⟩ := bind_eq_ok_iff.mp h
      cases h
      exact .cons hb (ih.mp hbs)
    · rintro (_ | ⟨hb, hbs⟩)
      exact ⟨_, hb, bind_eq_ok_iff.mpr ⟨_, ih.mpr hbs, rfl⟩⟩

theorem exists_of_mapM_eq_ok {items : List α} {results : List β} (h : items.mapM f = .ok results)
    {b : β} (hb : b ∈ results) : ∃ a ∈ items, f a = .ok b := by
  have hall := mapM_eq_ok_iff.mp h
  induction hall with
  | nil => cases hb
  | cons ha hrest ih =>
    rcases List.mem_cons.mp hb with rfl | hb
    · exact ⟨_, List.mem_cons_self, ha⟩
    · obtain ⟨a, hmem, ha⟩ := ih (mapM_eq_ok_iff.mpr hrest) hb
      exact ⟨a, List.mem_cons_of_mem _ hmem, ha⟩

end Except

namespace Option

variable {α β : Type} {f : α → Option β}

theorem mapM_eq_some_iff {items : List α} {results : List β} :
    items.mapM f = some results ↔ List.Forall₂ (fun a b => f a = some b) items results := by
  induction items generalizing results with
  | nil => exact ⟨fun h => Option.some.inj h ▸ .nil, fun h => by cases h; rfl⟩
  | cons a items ih =>
    rw [List.mapM_cons, Option.bind_eq_bind, Option.bind_eq_some_iff]
    constructor
    · rintro ⟨b, hb, h⟩
      obtain ⟨bs, hbs, h⟩ := Option.bind_eq_some_iff.mp h
      cases h
      exact .cons hb (ih.mp hbs)
    · rintro (_ | ⟨hb, hbs⟩)
      exact ⟨_, hb, Option.bind_eq_some_iff.mpr ⟨_, ih.mpr hbs, rfl⟩⟩

end Option

namespace List

variable {α β : Type} {R : α → β → Prop}

theorem exists_forall₂ {items : List α} (h : ∀ a ∈ items, ∃ b, R a b) :
    ∃ results, Forall₂ R items results := by
  induction items with
  | nil => exact ⟨[], .nil⟩
  | cons a items ih =>
    obtain ⟨b, hb⟩ := h a mem_cons_self
    obtain ⟨results, hall⟩ := ih fun a' ha' => h a' (mem_cons_of_mem _ ha')
    exact ⟨b :: results, .cons hb hall⟩

theorem forall₂_map_map {γ : Type} {items : List γ} {f : γ → α} {g : γ → β}
    (h : ∀ c ∈ items, R (f c) (g c)) : Forall₂ R (items.map f) (items.map g) := by
  rw [forall₂_map_left_iff, forall₂_map_right_iff, forall₂_same]
  exact h

theorem forall_mem_of_forall₂ {items : List α} {results : List β} {P : β → Prop}
    (h : Forall₂ R items results) (hP : ∀ a b, R a b → P b) : ∀ b ∈ results, P b := by
  induction h with
  | nil => simp
  | cons hab _ ih => exact forall_mem_cons.mpr ⟨hP _ _ hab, ih⟩

end List
