import Polystore.Engine.Redis
import Polystore.Proofs.Number.Numeral
import Polystore.Proofs.Text.Trim

/-!
# Numbered databases

The databases of a key-value store are numbered. A connection is opened only for a name that is
blank or a numeral; for any other name no client is asked for anything.

* **`databaseIndex_eq_ok_iff`**, `databaseIndex_integerText`: the number that a name stands for;
* `databaseIndex_eq_error_iff`: the names that stand for none;
* **`Redis.database_numbered`**.
-/

namespace Polystore

open Number Text

variable {cs lead trail : List Char} {text : String} {n : Int} {e : CoreError}

/-- Where there are no blanks at the ends, there are no spaces. -/
theorem Text.Trimmed.trimSpace (h : Trimmed cs) : Text.trimSpace cs = cs := by
  have hdrop : ∀ {ds : List Char}, StartsSolid ds → ds.dropWhile isSpace = ds := by
    intro ds hds
    cases ds with
    | nil => rfl
    | cons d ds =>
      have hspace : isSpace d = false := by
        have hblank := hds d rfl
        rw [isBlank, Bool.or_eq_false_iff] at hblank
        exact hblank.1
      exact List.dropWhile_cons_of_neg (by simp [hspace])
  rw [Text.trimSpace, hdrop h.1, hdrop (startsSolid_reverse.mpr h.2), List.reverse_reverse]

theorem Number.Numeral.ne_nil (h : Numeral cs n) : cs ≠ [] := by
  cases h with
  | unsigned h => exact h.run.ne_nil
  | plus | minus => exact List.cons_ne_nil _ _

/-- **The number that a name stands for**: none is zero, and a numeral is its own number. -/
theorem databaseIndex_eq_ok_iff : databaseIndex text = .ok n ↔
    (Blank text.toList ∧ n = 0) ∨ Numeral (trim text.toList) n := by
  have htrimmed : Trimmed (trim text.toList) := (trim_eq_iff.mp rfl).1
  rw [← trim_eq_nil_iff, databaseIndex]
  by_cases hnil : trim text.toList = []
  · simp only [hnil, List.isEmpty_nil, if_true, Except.ok.injEq, true_and]
    exact ⟨fun h => .inl h.symm, fun h => (h.resolve_right fun h => h.ne_nil rfl).symm⟩
  · have hread : readInteger? (trim text.toList) = some n ↔ Numeral (trim text.toList) n := by
      rw [readInteger?_eq_some_iff, htrimmed.trimSpace]
    simp only [List.isEmpty_iff, hnil, if_false, false_and, false_or, ← hread]
    split <;> simp_all

theorem databaseIndex_eq_error_iff : databaseIndex text = .error e ↔
    (∀ n, databaseIndex text ≠ .ok n) ∧ e = .connect (.databaseIndex text) := by
  unfold databaseIndex
  dsimp only
  split
  · simp
  · split <;> simp [eq_comm]

theorem isBlank_of_isDigit {c : Char} (h : c.isDigit = true) : isBlank c = false := by
  have hbounds : 48 ≤ c.toNat ∧ c.toNat ≤ 57 := Char.isDigit_iff_toNat.mp h
  rw [isBlank, isSpace_of_isDigit h, Bool.false_or, Bool.and_eq_false_iff]
  simp only [decide_eq_false_iff_not]
  omega

theorem isBlank_of_mem_integerText {c : Char} (hc : c ∈ (integerText n).toList) :
    isBlank c = false := by
  rw [toList_integerText, List.mem_append] at hc
  rcases hc with hsign | hdigit
  · have hminus : c = '-' := by
      split_ifs at hsign
      · exact List.mem_singleton.mp hsign
      · cases hsign
    rw [hminus]
    decide
  · exact isBlank_of_isDigit (Nat.isDigit_of_mem_toDigits (by decide) (by decide) hdigit)

/-- An integer with blanks around it stands for itself. -/
theorem databaseIndex_integerText (hn : (decimalDigits n.natAbs).length ≤ maxDigits)
    (hlead : Blank lead) (htrail : Blank trail) :
    databaseIndex (String.ofList (lead ++ (integerText n).toList ++ trail)) = .ok n := by
  have hnumeral := numeral_integerText hn
  have htrimmed : Trimmed (integerText n).toList :=
    ⟨fun c hc => isBlank_of_mem_integerText (List.mem_of_mem_head? hc),
      fun c hc => isBlank_of_mem_integerText (List.mem_of_getLast? hc)⟩
  have htrim : trim (lead ++ (integerText n).toList ++ trail) = (integerText n).toList :=
    trim_eq_iff.mpr ⟨htrimmed, lead, trail, hlead, htrail, rfl⟩
  rw [databaseIndex_eq_ok_iff, String.toList_ofList, htrim]
  exact .inr hnumeral

namespace Redis

/-- **A connection is opened only to a numbered database.** Nothing is asked for any other one. -/
theorem database_numbered {σ : Type} (responder : Responder σ) (state : σ) :
    (∀ (n : Int) (lead trail : List Char), (decimalDigits n.natAbs).length ≤ maxDigits →
      Blank lead → Blank trail →
      databaseIndex (String.ofList (lead ++ (integerText n).toList ++ trail)) = .ok n) ∧
    (∀ text n, databaseIndex text = .ok n ↔
      (Blank text.toList ∧ n = 0) ∨ Numeral (trim text.toList) n) ∧
    ∀ text, (¬ Blank text.toList ∧ ∀ n, ¬ Numeral (trim text.toList) n) →
      databaseIndex text = .error (.connect (.databaseIndex text)) ∧
      ∀ client (d : Descriptor) s, d.database = text →
        (connect client d s).run.run responder state =
          ⟨.error (.core (.connect (.databaseIndex text))), state, []⟩ := by
  refine ⟨fun n lead trail => databaseIndex_integerText, fun _ _ => databaseIndex_eq_ok_iff,
    fun text htext => ?_⟩
  have herror : databaseIndex text = .error (.connect (.databaseIndex text)) := by
    refine databaseIndex_eq_error_iff.mpr ⟨fun n hn => ?_, rfl⟩
    rcases databaseIndex_eq_ok_iff.mp hn with ⟨hblank, -⟩ | hnumeral
    · exact htext.1 hblank
    · exact htext.2 n hnumeral
  refine ⟨herror, ?_⟩
  rintro client d s rfl
  rw [connect, herror]
  rfl

example : databaseIndex "\u3000+1_2\n" = .ok 12 := by decide

end Redis

end Polystore
