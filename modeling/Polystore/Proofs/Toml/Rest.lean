import Mathlib.Data.List.Basic
import Polystore.Toml.Reader

/-!
# What readers leave of a text

A reader of a key, a text, a number or a point in time takes characters from the front of a text and
leaves the rest.

* `Toml.Leaves`: a result whose rest is the end of the text, with `Leaves.bind` and its kin;
* `leaves_text`, `leaves_key`, `leaves_moment`, `leaves_marked`, `leaves_named`: the readers.
-/

namespace Polystore.Toml

open Text Number Calendar

variable {α β : Type} {cs rest : List Char}

/-- If there is a result, its rest is the end of the text. -/
def Leaves (cs : List Char) (r : Option (α × List Char)) : Prop := ∀ p ∈ r, p.2 <:+ cs

/-- The same of a reader that has no other result than the rest. -/
def Skips (cs : List Char) (r : Option (List Char)) : Prop := ∀ rest ∈ r, rest <:+ cs

theorem Leaves.none : Leaves cs (none : Option (α × List Char)) := nofun

theorem Leaves.some {a : α} (h : rest <:+ cs) : Leaves cs (some (a, rest)) := by
  rintro _ ⟨⟩
  exact h

theorem Leaves.mono {r : Option (α × List Char)} (h : rest <:+ cs) (hr : Leaves rest r) :
    Leaves cs r := fun p hp => (hr p hp).trans h

theorem Leaves.bind {r : Option (α × List Char)} {f : α × List Char → Option (β × List Char)}
    (hr : Leaves cs r) (hf : ∀ a rest, Leaves rest (f (a, rest))) : Leaves cs (r >>= f) := by
  rintro p hp
  obtain ⟨⟨a, rest⟩, ha, hp⟩ := Option.bind_eq_some_iff.mp hp
  exact (hf a rest p hp).trans (hr _ ha)

theorem Leaves.map {r : Option (α × List Char)} {f : α × List Char → β × List Char}
    (hf : ∀ p, (f p).2 = p.2) (hr : Leaves cs r) : Leaves cs (r.map f) := by
  rintro p hp
  obtain ⟨q, hq, rfl⟩ := Option.map_eq_some_iff.mp hp
  exact hf q ▸ hr q hq

theorem Leaves.ite {c : Prop} [Decidable c] {r s : Option (α × List Char)} (hr : Leaves cs r)
    (hs : Leaves cs s) : Leaves cs (if c then r else s) := by
  split
  · exact hr
  · exact hs

theorem Leaves.orElse {r s : Option (α × List Char)} (hr : Leaves cs r) (hs : Leaves cs s) :
    Leaves cs (r <|> s) := by
  cases r with
  | none => exact hs
  | some p => exact hr

theorem Skips.bind {r : Option (List Char)} {f : List Char → Option (α × List Char)}
    (hr : Skips cs r) (hf : ∀ rest, Leaves rest (f rest)) : Leaves cs (r >>= f) := by
  rintro p hp
  obtain ⟨rest, hrest, hp⟩ := Option.bind_eq_some_iff.mp hp
  exact (hf rest p hp).trans (hr _ hrest)

/-! ## Blanks and comments -/

theorem skipGap_suffix (cs : List Char) : skipGap cs <:+ cs := List.dropWhile_suffix _

theorem skips_comment (cs : List Char) : Skips cs (skipComment? cs) := by
  fun_cases skipComment? cs
  · exact nofun
  · rintro _ ⟨⟩
    exact (List.dropWhile_suffix _).trans (List.suffix_cons ..)
  · rintro _ ⟨⟩
    exact List.suffix_refl _

theorem skips_lines (fuel : Nat) (cs : List Char) : Skips cs (skipLines? fuel cs) := by
  fun_induction skipLines? fuel cs with
  | case1 cs fuel more hmark ih =>
    rintro rest hrest
    obtain ⟨line, hline, hrest⟩ := Option.bind_eq_some_iff.mp hrest
    have hcomment := skips_comment _ _ hline
    rw [← hmark] at hcomment
    exact ((ih line _ hrest).trans hcomment).trans (List.dropWhile_suffix _)
  | case2 =>
    rintro _ ⟨⟩
    exact List.dropWhile_suffix _

/-! ## Strings -/

theorem leaves_basic (multiline : Bool) (cs acc : List Char) :
    Leaves cs (readBasic? multiline cs acc) := by
  fun_induction readBasic? multiline cs acc with
  | case1 => exact .none
  | case2 => exact .some (List.suffix_cons ..)
  | case3 => exact .some ((List.drop_suffix ..).trans (List.suffix_cons ..))
  | case4 _ _ _ _ ih => exact .mono (List.suffix_cons ..) ih
  | case5 _ _ _ _ _ ih => exact .mono ((List.drop_suffix ..).trans (List.suffix_cons ..)) ih
  | case6 => exact .none
  | case7 => exact .none
  | case8 _ _ _ _ _ _ ih => exact .mono (List.suffix_cons ..) ih

theorem leaves_literal (multiline : Bool) (cs : List Char) :
    Leaves cs (readLiteral? multiline cs) := by
  fun_induction readLiteral? multiline cs with
  | case1 => exact .none
  | case2 => exact .some (List.suffix_cons ..)
  | case3 => exact .some ((List.drop_suffix ..).trans (List.suffix_cons ..))
  | case4 _ _ _ ih =>
    refine .mono (List.suffix_cons ..) (.bind ih fun chars rest => ?_)
    exact .some (List.suffix_refl _)
  | case5 => exact .none
  | case6 _ _ _ _ ih =>
    refine .mono (List.suffix_cons ..) (.bind ih fun chars rest => ?_)
    exact .some (List.suffix_refl _)

theorem extraQuotes_suffix (quote : Char) (chars rest : List Char) :
    (extraQuotes quote chars rest).2 <:+ rest := by
  fun_cases extraQuotes quote chars rest
  all_goals simp [List.suffix_cons_iff]

theorem dropFirstLine_suffix (cs : List Char) : dropFirstLine cs <:+ cs := by
  fun_cases dropFirstLine cs
  · exact List.suffix_cons ..
  · exact List.suffix_refl _

theorem leaves_text (cs : List Char) : Leaves cs (readText? cs) := by
  fun_cases readText? cs
  · rename_i rest
    refine .mono ?_ (.bind (leaves_basic true (dropFirstLine rest) []) fun chars rest => ?_)
    · exact (dropFirstLine_suffix rest).trans (by simp [List.suffix_cons_iff])
    · exact .some (extraQuotes_suffix ..)
  · exact .mono (List.suffix_cons ..) (leaves_basic _ _ _)
  · rename_i rest
    refine .mono ?_ (.bind (leaves_literal true (dropFirstLine rest)) fun chars rest => ?_)
    · exact (dropFirstLine_suffix rest).trans (by simp [List.suffix_cons_iff])
    · exact .some (extraQuotes_suffix ..)
  · exact .mono (List.suffix_cons ..) (leaves_literal _ _)
  · exact .none

/-! ## Keys -/

theorem leaves_keyPart (cs : List Char) : Leaves cs (readKeyPart? cs) := by
  fun_cases readKeyPart? cs
  · exact .map (fun _ => rfl) (.mono (List.suffix_cons ..) (leaves_basic _ _ _))
  · exact .map (fun _ => rfl) (.mono (List.suffix_cons ..) (leaves_literal _ _))
  · exact .none
  · exact .some (List.dropWhile_suffix _)

theorem leaves_key (fuel : Nat) (cs : List Char) : Leaves cs (readKey? fuel cs) := by
  induction fuel generalizing cs with
  | zero => exact .none
  | succ fuel ih =>
    refine .bind (leaves_keyPart cs) fun part rest => .mono (skipGap_suffix rest) ?_
    dsimp only
    split
    · rename_i more heq
      rw [heq]
      refine .mono ((skipGap_suffix more).trans (List.suffix_cons ..)) ?_
      exact .bind (ih (skipGap more)) fun path rest => .some (List.suffix_refl _)
    · exact .some (List.suffix_refl _)

/-! ## Numbers -/

theorem skips_word (word : String) (cs : List Char) : Skips cs (dropWord? word cs) := by
  unfold dropWord?
  split
  · rintro _ ⟨⟩
    exact List.drop_suffix ..
  · exact nofun

/-- A run of digits stands in front of the rest, with underscores in between. -/
theorem readRun_spec (isDigit : Char → Bool) (cs : List Char) :
    ∃ run, run ++ (readRun isDigit cs).2 = cs ∧ (∀ c ∈ run, isDigit c = true ∨ c = '_') ∧
      (readRun isDigit cs).1.Sublist run ∧ ∀ c ∈ (readRun isDigit cs).1, isDigit c = true := by
  fun_induction readRun isDigit cs with
  | case1 d rest hd digits more heq ih =>
    obtain ⟨run, hrun, hall, hsub, hdigits⟩ := ih
    refine ⟨'_' :: d :: run, ?_, ?_, ?_, ?_⟩ <;> simp_all
  | case2 => exact ⟨[], by simp⟩
  | case3 c rest _ hd digits more heq ih =>
    obtain ⟨run, hrun, hall, hsub, hdigits⟩ := ih
    refine ⟨c :: run, ?_, ?_, ?_, ?_⟩ <;> simp_all
  | case4 => exact ⟨[], by simp⟩
  | case5 => exact ⟨[], by simp⟩

theorem leaves_digits (isDigit : Char → Bool) (cs : List Char) :
    Leaves cs (readDigits? isDigit cs) := by
  obtain ⟨run, hrun, -⟩ := readRun_spec isDigit cs
  unfold readDigits?
  exact .ite (.some ⟨run, hrun⟩) .none

theorem readDigits?_ne_nil {isDigit : Char → Bool} (hline : isDigit '_' = false)
    {digits : List Char} (h : readDigits? isDigit cs = some (digits, rest)) : digits ≠ [] := by
  unfold readDigits? at h
  obtain ⟨hhead, h⟩ := Option.ite_none_right_eq_some.mp h
  have hdigits := congrArg Prod.fst (Option.some.inj h)
  fun_cases readRun isDigit cs with
  | case1 d more => simp [hline] at hhead
  | case2 d more => simp [hline] at hhead
  | case3 c more hmark hc =>
    rw [readRun.eq_2 isDigit c more hmark, if_pos hc] at hdigits
    have hcons : c :: (readRun isDigit more).1 = digits := hdigits
    exact hcons ▸ List.cons_ne_nil _ _
  | case4 c more _ hc => simp [hc] at hhead
  | case5 => simp at hhead

theorem leaves_marked (cs : List Char) : Leaves cs (readMarked? cs) := by
  unfold readMarked?
  dsimp only
  split
  case h_4 => exact .none
  all_goals
    refine .mono ?_ (.map (fun _ => rfl) (leaves_digits _ _))
    simp [List.suffix_cons_iff]

theorem readFraction_suffix (cs : List Char) : (readFraction cs).2 <:+ cs := by
  fun_cases readFraction cs with
  | case1 rest digits more heq =>
    exact (leaves_digits _ _ _ heq).trans (List.suffix_cons ..)
  | case2 => exact List.suffix_refl _
  | case3 => exact List.suffix_refl _

theorem readPower_suffix (cs : List Char) : (readPower cs).2 <:+ cs := by
  fun_cases readPower cs with
  | case1 e rest sign digits hsign run more hrun =>
    have hdigits : digits <:+ rest := by
      split at hsign <;> cases hsign <;> simp
    exact ((leaves_digits _ _ _ hrun).trans hdigits).trans (List.suffix_cons ..)
  | case2 => exact List.suffix_refl _
  | case3 => exact List.suffix_refl _
  | case4 => exact List.suffix_refl _

theorem leaves_named (cs : List Char) : Leaves cs (readNamed? cs) := by
  rintro p hp
  obtain ⟨⟨name, x⟩, -, hp⟩ := List.exists_of_findSome?_eq_some hp
  obtain ⟨rest, hrest, rfl⟩ := Option.map_eq_some_iff.mp hp
  exact skips_word name cs rest hrest

/-! ## Dates and times -/

theorem leaves_number (count : Nat) (cs : List Char) : Leaves cs (takeNumber? count cs) :=
  .ite (.some (List.drop_suffix ..)) .none

theorem skips_pass (c : Char) (cs : List Char) : Skips cs (pass? c cs) := by
  fun_cases pass? c cs
  · rintro _ ⟨⟩
    exact List.suffix_cons ..
  · exact nofun
  · exact nofun

theorem leaves_date (cs : List Char) : Leaves cs (takeDate? cs) := by
  unfold takeDate?
  refine .bind (leaves_number _ _) fun year rest => Skips.bind (skips_pass _ _) fun rest => ?_
  refine .bind (leaves_number _ _) fun month rest => Skips.bind (skips_pass _ _) fun rest => ?_
  refine .bind (leaves_number _ _) fun day rest => ?_
  exact .ite (.some (List.suffix_refl _)) .none

theorem leaves_fraction (cs : List Char) : Leaves cs (takeFraction? cs) := by
  fun_cases takeFraction? cs
  · exact .none
  · exact .some ((List.dropWhile_suffix _).trans (List.suffix_cons ..))
  · exact .some (List.suffix_refl _)

theorem leaves_clock (cs : List Char) : Leaves cs (readClock? cs) := by
  unfold readClock?
  refine .bind (leaves_number _ _) fun hour rest => Skips.bind (skips_pass _ _) fun rest => ?_
  refine .bind (leaves_number _ _) fun minute rest => Skips.bind (skips_pass _ _) fun rest => ?_
  refine .bind (leaves_number _ _) fun second rest => ?_
  dsimp only
  refine .ite (.some ?_) .none
  cases h : takeFraction? rest with
  | none => exact List.suffix_refl _
  | some p => exact leaves_fraction _ _ h

theorem leaves_minutes (cs : List Char) : Leaves cs (readMinutes? cs) := by
  unfold readMinutes?
  refine .bind (leaves_number _ _) fun hour rest => Skips.bind (skips_pass _ _) fun rest => ?_
  refine .bind (leaves_number _ _) fun minute rest => ?_
  exact .ite (.some (List.suffix_refl _)) .none

theorem readShift_suffix (cs : List Char) : (readShift cs).2 <:+ cs := by
  fun_cases readShift cs with
  | case3 rest t more h => exact (leaves_minutes _ _ h).trans (List.suffix_cons ..)
  | case4 rest t more h => exact (leaves_minutes _ _ h).trans (List.suffix_cons ..)
  | _ => simp

theorem leaves_moment (cs : List Char) : Leaves cs (readMoment? cs) := by
  fun_cases readMoment? cs with
  | case1 date e more _ clock rest hclock offset rest' hshift hdate =>
    have hrest : rest' <:+ rest := by
      have := readShift_suffix rest
      rwa [hshift] at this
    refine .some (hrest.trans ((leaves_clock _ _ hclock).trans ?_))
    exact (List.suffix_cons e more).trans (leaves_date _ _ hdate)
  | case2 _ _ _ _ _ hdate => exact .some (leaves_date _ _ hdate)
  | case3 _ _ _ _ hdate => exact .some (leaves_date _ _ hdate)
  | case4 _ hdate => exact .some (leaves_date _ _ hdate)
  | case5 => exact .map (fun _ => rfl) (leaves_clock cs)

end Polystore.Toml
