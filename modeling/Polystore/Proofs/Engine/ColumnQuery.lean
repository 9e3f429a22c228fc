import Polystore.Proofs.Engine.Schema
import Polystore.Proofs.Sql.Scan

/-!
# Table names in a query

An embedded engine is asked for the columns of a table by a statement that holds the name of the
table. Whatever characters the name has, the statement goes on with it up to the last bracket.

* `Sqlite.quotedName_eq_written`: the name is quoted as the dialect quotes names;
* **`Sqlite.readMarked?_quotedName`**: it is read up to the mark that closes it;
* **`Sqlite.scan?_columnQuery`**: the tokens of the statement;
* **`Sqlite.names_stay_quoted`**.
-/

namespace Polystore.Sqlite

open Session Sql Text

/-- How names and texts are written for an embedded engine. -/
def convention : Convention := .of (some .sqlite)

/-- A name as it stands between the marks. -/
def doubled (name : List Char) : List Char :=
  name.flatMap fun c => if c = '"' then ['"', '"'] else [c]

theorem quotedName_eq (name : List Char) : quotedName name = '"' :: (doubled name ++ ['"']) := rfl

/-- The name is quoted as the dialect quotes names. -/
theorem quotedName_eq_written (name : List Char) :
    quotedName name = Name.written convention ⟨name, true⟩ := by
  have hchar : (fun c : Char => if c = '"' then ['"', '"'] else [c]) =
      fun c => if c = convention.mark then [c, c] else [c] := by
    funext c
    change _ = if c = '"' then _ else _
    split_ifs with hc
    · rw [hc]
    · rfl
  rw [quotedName_eq, doubled, hchar]
  rfl

/-- **The name is read up to the mark that closes it**, and there is no such mark before. -/
theorem readMarked?_quotedName {rest : List Char} (hrest : rest.head? ≠ some '"')
    (name : List Char) :
    readMarked? '"' false (doubled name ++ '"' :: rest) = some (name, rest) := by
  refine readMarked?_escaped (by decide) hrest fun c _ => ?_
  have h := escapes_mark '"' c
  split_ifs with hc
  · subst hc
    exact .doubled
  · rwa [if_neg hc] at h

theorem toList_columnQuery (table : String) : (columnQuery table).toList =
    "PRAGMA table_info(".toList ++ (quotedName table.toList ++ [')']) := by
  have hparts : (columnQuery table).toList =
      "PRAGMA table_info(".toList ++ quotedName table.toList ++ ")".toList := by
    unfold columnQuery
    generalize "PRAGMA table_info(" = front, ")" = back
    rw [String.toList_append, String.toList_append, String.toList_ofList]
  rw [hparts, List.append_assoc]
  rfl

/-- A word in front of other tokens. -/
theorem scan?_word {word rest gap : List Char} (hword : isPlainName word = true)
    (hrest : ∀ c ∈ rest.head?, isWordChar c = false) (hgap : Blank gap) :
    scan? convention (gap ++ (word ++ rest)) = (scan? convention rest).map (.word word :: ·) := by
  have hchars := isWordChar_of_isPlainName hword
  cases word with
  | nil => cases hword
  | cons c word =>
    refine scan?_token hgap ?_ (token?_word (regular_of _) hchars (isDigit_of_isPlainName hword)
      hrest) ?_
    · rintro _ ⟨⟩
      exact isBlank_of_isWordChar (hchars c List.mem_cons_self)
    · rw [List.length_append, List.length_cons]
      omega

/-- **The statement has the name as one token**, between two brackets. -/
theorem scan?_columnQuery (table : String) : scan? convention (columnQuery table).toList =
    some [.word "PRAGMA".toList, .word "table_info".toList, .sign ['('], .name table.toList,
      .sign [')']] := by
  have hname : Lexes convention (quotedName table.toList) [.name table.toList] := by
    rw [quotedName_eq_written]
    exact lexes_name (regular_of _) nofun
  have hbrackets : Lexes convention ('(' :: (quotedName table.toList ++ [')']))
      [.sign ['('], .name table.toList, .sign [')']] :=
    .sign_cons (regular_of _) (by decide) (hname.closed (regular_of _) (by decide))
  have hfront : "PRAGMA table_info(".toList =
      "PRAGMA".toList ++ ' ' :: ("table_info".toList ++ ['(']) := rfl
  have hpragma : isPlainName "PRAGMA".toList = true := by decide
  have hinfo : isPlainName "table_info".toList = true := by decide
  have hgap : Blank [' '] := by simp [Blank]; decide
  rw [toList_columnQuery, hfront]
  -- the words are taken as they are, not letter by letter
  generalize "PRAGMA".toList = pragma at hpragma ⊢
  generalize "table_info".toList = info at hinfo ⊢
  have hrest : scan? convention ([' '] ++ (info ++ '(' :: (quotedName table.toList ++ [')']))) = _ :=
    scan?_word hinfo (by simp; decide) hgap
  have hall : scan? convention
      ([] ++ (pragma ++ ' ' :: (info ++ '(' :: (quotedName table.toList ++ [')'])))) = _ :=
    scan?_word hpragma (by simp; decide) blank_nil
  rw [List.singleton_append, hbrackets.scan?] at hrest
  rw [List.nil_append, hrest] at hall
  simpa using hall

/-- **A table name stays between its marks**, so the statement tells which table is meant. -/
theorem names_stay_quoted {σ : Type} (responder : Responder σ) (state : σ) (client : Nat) :
    (∀ table, queries ((columns client table).run.exchanges responder state) =
      [⟨client, .sqlite (.execute (columnQuery table))⟩]) ∧
    (∀ table : String, ∃ inside, (columnQuery table).toList =
        "PRAGMA table_info(".toList ++ '"' :: (inside ++ ['"', ')']) ∧
      readMarked? '"' false (inside ++ ['"', ')']) = some (table.toList, [')'])) ∧
    (∀ table, scan? convention (columnQuery table).toList =
      some [.word "PRAGMA".toList, .word "table_info".toList, .sign ['('], .name table.toList,
        .sign [')']]) ∧
    Function.Injective columnQuery := by
  refine ⟨fun table => ?_, fun table => ⟨doubled table.toList, ?_, ?_⟩, scan?_columnQuery, ?_⟩
  · have hmeets : (columns client table).Meets (ReadsOut PragmaRow
        ⟨client, .sqlite (.execute (columnQuery table))⟩) :=
      meets_readsOut Sqlite.meets_records pragmaColumn_eq_ok_iff
    exact (hmeets.run responder state).queried.queries_eq
  · simp [toList_columnQuery, quotedName_eq]
  · exact readMarked?_quotedName (by simp) table.toList
  · intro table other h
    have htokens := scan?_columnQuery table
    rw [h, scan?_columnQuery other] at htokens
    simp only [Option.some.injEq, List.cons.injEq, Token.name.injEq, true_and, and_true] at htokens
    exact String.toList_inj.mp htokens.symm

example : columnQuery "a\"); --" = "PRAGMA table_info(\"a\"\"); --\")" := by decide

end Polystore.Sqlite
