import Polystore.Proofs.Export.Json
import Polystore.Proofs.Sql.Scan
import Polystore.Proofs.Success

/-!
# Reading insertions

A reader cuts a text of SQL into tokens, and the tokens at the semicolons. An insertion names a
table and columns, and gives the cells of one row. A table that is exported is read as one insertion
for every row, whatever characters its names and texts hold: none of them ends a text or a statement
too early.

* `Sql.Cell`, `Sql.Inserted`, `Sql.insertedAll?`: what is read;
* `Sql.Literal.tokens`, `Sql.insertTokens`: the tokens of an insertion;
* `Sql.lexes_insertStatement`: the statement is cut into them;
* `Sql.inserted?_insertTokens`: they are read back;
* `Sql.ReadsAs`: the cell that a value is read as;
* **`Table.insertions_read_back`**: so is the export of a writable table;
* `Mongo.huge_count_not_inserted`: a number that is not written.
-/

namespace List

variable {α : Type} [BEq α] [LawfulBEq α] {x : α} {ls : List (List α)}

/-- Lists with a closing element behind each are cut at these elements. -/
theorem splitOn_flatMap (h : ∀ l ∈ ls, x ∉ l) :
    (ls.flatMap (· ++ [x])).splitOn x = ls ++ [[]] := by
  induction ls with
  | nil => rfl
  | cons l ls ih =>
    have hl : ∀ y ∈ l, (y == x) = false := fun y hy =>
      beq_eq_false_iff_ne.mpr fun e => h l mem_cons_self (e ▸ hy)
    have hrest := ih fun l' hl' => h l' (mem_cons_of_mem _ hl')
    rw [splitOn_eq_splitOnP] at hrest ⊢
    rw [flatMap_cons, append_assoc, singleton_append,
      splitOnP_append_cons_of_forall_mem hl x (beq_self_eq_true x), hrest, cons_append]

end List

namespace Polystore

open Number

namespace Sql

/-! ## The reader -/

/-- What a literal says. -/
inductive Cell
  | null
  | bool (b : Bool)
  | number (cs : List Char)
  | text (cs : List Char)
deriving DecidableEq, Repr

/-- What an insertion says. -/
structure Inserted where
  table : List Char
  columns : List (List Char)
  cells : List Cell
deriving DecidableEq, Repr

def name? : List Token → Option (List Char)
  | [.word cs] => some cs
  | [.name cs] => some cs
  | _ => none

def cell? : List Token → Option Cell
  | [.word cs] => [("NULL".toList, .null), ("TRUE".toList, .bool true),
      ("FALSE".toList, .bool false)].lookup cs
  | [.number cs] => some (.number cs)
  | [.sign ['-'], .number cs] => some (.number ('-' :: cs))
  | [.text cs] => some (.text cs)
  | _ => none

/-- What is read between commas. -/
def items? {α : Type} (read : List Token → Option α) (ts : List Token) : Option (List α) :=
  (ts.splitOn (.sign [','])).mapM read

/-- The insertion of one row. -/
def inserted? (ts : List Token) : Option Inserted :=
  match ts.splitOn (.sign [')']) with
  | [insert :: into :: table :: opening :: columns, values :: opening' :: cells, []] =>
    if insert = .word "INSERT".toList ∧ into = .word "INTO".toList ∧ opening = .sign ['('] ∧
        values = .word "VALUES".toList ∧ opening' = .sign ['('] then do
      return ⟨← name? [table], ← items? name? columns, ← items? cell? cells⟩
    else none
  | _ => none

/-- The insertions of a text, each closed by a semicolon. -/
def insertedAll? (c : Convention) (cs : List Char) : Option (List Inserted) := do
  let statements := (← scan? c cs).splitOn (.sign [';'])
  if statements.getLast? = some [] then statements.dropLast.mapM inserted? else none

/-! ## Tokens of insertions -/

/-- Tokens with commas between them. -/
def commas (items : List (List Token)) : List Token := [Token.sign [',']].intercalate items

/-- The tokens of a literal. -/
def Literal.tokens : Literal → List Token
  | .bare cs => if isPlainName cs then [.word cs] else numberTokens cs
  | .text cs => [.text cs]

/-- The tokens up to the names of the columns. -/
def columnTokens (c : Convention) (table : Name) (columns : List Name) : List Token :=
  .word "INSERT".toList :: .word "INTO".toList :: table.token c :: .sign ['('] ::
    commas (columns.map fun column => [column.token c])

/-- The tokens from there up to the last cell. -/
def cellTokens (literals : List Literal) : List Token :=
  .word "VALUES".toList :: .sign ['('] :: commas (literals.map Literal.tokens)

/-- The tokens of an insertion, without the semicolon. -/
def insertTokens (c : Convention) (table : Name) (columns : List Name) (literals : List Literal) :
    List Token :=
  columnTokens c table columns ++ .sign [')'] :: (cellTokens literals ++ [.sign [')']])

/-- Tokens without a sign that ends a cell, a row or a statement. -/
def Inner (ts : List Token) : Prop := ∀ x ∈ [',', ')', ';'], Token.sign [x] ∉ ts

variable {c : Convention} {table : Name} {columns : List Name} {literals : List Literal}
  {items : List (List Token)}

theorem items?_commas {α : Type} {read : List Token → Option α} (h : ∀ ts ∈ items, Inner ts)
    (hne : items ≠ []) : items? read (commas items) = items.mapM read := by
  rw [items?, commas, List.splitOn_intercalate _ (fun ts hts => h ts hts ',' (by decide)) hne]

theorem notMem_commas {x : Char} (hx : x ∈ [')', ';']) (h : ∀ ts ∈ items, Inner ts) :
    Token.sign [x] ∉ commas items := by
  have hinner : x ∈ [',', ')', ';'] := List.mem_cons_of_mem _ hx
  have hcomma : Token.sign [x] ∉ [Token.sign [',']] := by
    rintro (_ | ⟨_, ⟨⟩⟩)
    exact absurd hx (by decide)
  induction items with
  | nil => simp [commas]
  | cons ts items ih =>
    have hts := h ts List.mem_cons_self x hinner
    cases items with
    | nil => simpa [commas] using hts
    | cons ts' items =>
      have hrest := ih fun ts hts => h ts (List.mem_cons_of_mem _ hts)
      rw [commas, List.intercalate_cons_cons, List.mem_append, List.mem_append, ← commas]
      exact fun hmem => hmem.elim (fun hmem => hmem.elim hts hcomma) hrest

theorem inner_token (c : Convention) (name : Name) : Inner [name.token c] := by
  intro x _
  rw [Name.token]
  split_ifs <;> simp

theorem inner_columns (c : Convention) (columns : List Name) :
    ∀ ts ∈ columns.map fun column => [column.token c], Inner ts := by
  simpa using fun column _ => inner_token c column

theorem notMem_columnTokens {x : Char} (hx : x ∈ [')', ';']) :
    Token.sign [x] ∉ columnTokens c table columns := by
  have hcommas := notMem_commas hx (inner_columns c columns)
  have htable := inner_token c table x (List.mem_cons_of_mem _ hx)
  have hopening : x ≠ '(' := by
    rintro rfl
    exact absurd hx (by decide)
  simpa [columnTokens, hcommas, hopening] using htable

theorem notMem_cellTokens {x : Char} (hx : x ∈ [')', ';'])
    (h : ∀ l ∈ literals, Inner l.tokens) : Token.sign [x] ∉ cellTokens literals := by
  have hcommas : Token.sign [x] ∉ commas (literals.map Literal.tokens) :=
    notMem_commas hx (by simpa using h)
  have hopening : x ≠ '(' := by
    rintro rfl
    exact absurd hx (by decide)
  simp [cellTokens, hcommas, hopening]

/-- No semicolon stands inside an insertion. -/
theorem notMem_insertTokens (h : ∀ l ∈ literals, Inner l.tokens) :
    Token.sign [';'] ∉ insertTokens c table columns literals := by
  have hcolumns : Token.sign [';'] ∉ columnTokens c table columns := notMem_columnTokens (by decide)
  have hcells : Token.sign [';'] ∉ cellTokens literals := notMem_cellTokens (by decide) h
  simp [insertTokens, hcolumns, hcells]

/-- **The tokens of an insertion are read back.** -/
theorem inserted?_insertTokens {cells : List Cell} (hcolumns : columns ≠ [])
    (hliterals : literals ≠ []) (hinner : ∀ l ∈ literals, Inner l.tokens)
    (hcells : List.Forall₂ (fun l cell => cell? l.tokens = some cell) literals cells) :
    inserted? (insertTokens c table columns literals) =
      some ⟨table.chars, columns.map Name.chars, cells⟩ := by
  have hname : ∀ name : Name, name? [name.token c] = some name.chars := fun name => by
    rw [Name.token]
    split_ifs <;> rfl
  have hsplit : (insertTokens c table columns literals).splitOn (.sign [')']) =
      [columnTokens c table columns, cellTokens literals, []] := by
    have hrows : ∀ ts ∈ [columnTokens c table columns, cellTokens literals],
        Token.sign [')'] ∉ ts := by
      simpa using ⟨notMem_columnTokens (by decide), notMem_cellTokens (by decide) hinner⟩
    simpa [insertTokens] using List.splitOn_flatMap hrows
  have hcolumn : items? name? (commas (columns.map fun column => [column.token c])) =
      some (columns.map Name.chars) := by
    rw [items?_commas (inner_columns c columns) (by simpa using hcolumns),
      Option.mapM_eq_some_iff]
    exact List.forall₂_map_map fun column _ => hname column
  have hcell : items? cell? (commas (literals.map Literal.tokens)) = some cells := by
    rw [items?_commas (by simpa using hinner) (by simpa using hliterals),
      Option.mapM_eq_some_iff, List.forall₂_map_left_iff]
    exact hcells
  rw [inserted?, hsplit, columnTokens, cellTokens]
  simp [hname, hcolumn, hcell]

/-- A text is the statement of an insertion, closed by its only semicolon. -/
def IsStatement (c : Convention) (cs : List Char) (i : Inserted) : Prop :=
  ∃ ts, Lexes c cs (ts ++ [.sign [';']]) ∧ Token.sign [';'] ∉ ts ∧ inserted? ts = some i

theorem exists_tokens {statements : List (List Char)} {found : List Inserted}
    (h : List.Forall₂ (IsStatement c) statements found) : ∃ tss : List (List Token),
      List.Forall₂ (fun cs ts => Lexes c cs (ts ++ [.sign [';']])) statements tss ∧
      (∀ ts ∈ tss, Token.sign [';'] ∉ ts) ∧
      List.Forall₂ (fun ts i => inserted? ts = some i) tss found := by
  induction h with
  | nil => exact ⟨[], .nil, by simp, .nil⟩
  | cons hfirst _ ih =>
    obtain ⟨ts, hlexes, hinner, hread⟩ := hfirst
    obtain ⟨tss, hlexes', hinner', hread'⟩ := ih
    exact ⟨ts :: tss, .cons hlexes hlexes', List.forall_mem_cons.mpr ⟨hinner, hinner'⟩,
      .cons hread hread'⟩

/-- **Statements on lines of their own are read one by one.** -/
theorem insertedAll?_join {statements : List (List Char)} {found : List Inserted}
    (h : List.Forall₂ (IsStatement c) statements found) :
    insertedAll? c (Text.join '\n' statements) = some found := by
  obtain ⟨tss, hlexes, hinner, hread⟩ := exists_tokens h
  have hscan : scan? c (Text.join '\n' statements) =
      some (tss.flatMap (· ++ [.sign [';']])) := by
    by_cases hnone : statements = []
    · subst hnone
      cases hlexes
      exact scan?_nil c
    · have hpieces : List.Forall₂ (Lexes c) statements (tss.map (· ++ [.sign [';']])) :=
        List.forall₂_map_right_iff.mpr hlexes
      rw [(lexes_lines hpieces hnone).scan?, List.flatMap_def]
  rw [insertedAll?, hscan]
  simp [List.splitOn_flatMap hinner, Option.mapM_eq_some_iff.mpr hread]

theorem IsStatement.insertedAll? {cs : List Char} {i : Inserted} (h : IsStatement c cs i) :
    insertedAll? c cs = some [i] := insertedAll?_join (.cons h .nil)

/-! ## Written insertions -/

theorem lexes_inParentheses (hc : c.Regular) {pieces : List (List Char)}
    {tss : List (List Token)} (h : List.Forall₂ (Lexes c) pieces tss) (hne : pieces ≠ []) :
    Lexes c (inParentheses pieces) (.sign ['('] :: (commas tss ++ [.sign [')']])) :=
  ((lexes_items hc h hne).closed hc (by decide)).sign_cons hc (by decide)

/-- The pieces of a statement, with a blank between each two. -/
theorem insertStatement_eq (hcolumns : columns ≠ []) :
    insertStatement c [table] columns literals =
      "INSERT".toList ++ ' ' :: ("INTO".toList ++ ' ' :: (table.written c ++ ' ' ::
        (inParentheses (columns.map (·.written c)) ++ ' ' :: ("VALUES".toList ++ ' ' ::
          (inParentheses (literals.map (·.written c)) ++ [';']))))) := by
  have hlisted : (columns.map (·.written c)).isEmpty ≠ true := by simpa using hcolumns
  have hpath : writtenPath c [table] = table.written c := by simp [writtenPath]
  have hfront : "INSERT INTO ".toList = "INSERT".toList ++ ' ' :: ("INTO".toList ++ [' ']) := rfl
  have hmiddle : " VALUES ".toList = ' ' :: ("VALUES".toList ++ [' ']) := rfl
  have hdef : insertStatement c [table] columns literals =
      "INSERT INTO ".toList ++ writtenPath c [table]
        ++ (if (columns.map (·.written c)).isEmpty then []
          else ' ' :: inParentheses (columns.map (·.written c)))
        ++ " VALUES ".toList ++ inParentheses (literals.map (·.written c)) ++ [';'] := rfl
  rw [hdef, if_neg hlisted, hpath, hfront, hmiddle]
  -- the words are taken as they are, not letter by letter
  generalize "INSERT".toList = insert, "INTO".toList = into, "VALUES".toList = values
  simp

/-- **A written insertion is cut into its tokens.** -/
theorem lexes_insertStatement (hc : c.Regular) (htable : table.Legible)
    (hnames : ∀ column ∈ columns, column.Legible) (hcolumns : columns ≠ [])
    (hwritten : ∀ l ∈ literals, Lexes c (l.written c) l.tokens) (hliterals : literals ≠ []) :
    Lexes c (insertStatement c [table] columns literals)
      (insertTokens c table columns literals ++ [.sign [';']]) := by
  have hcolumn : List.Forall₂ (Lexes c) (columns.map (·.written c))
      (columns.map fun column => [column.token c]) :=
    List.forall₂_map_map fun column hmem => lexes_name hc (hnames column hmem)
  have hcell : List.Forall₂ (Lexes c) (literals.map (·.written c))
      (literals.map Literal.tokens) := List.forall₂_map_map hwritten
  have hlist := lexes_inParentheses hc hcolumn (by simpa using hcolumns)
  have hrow := lexes_inParentheses hc hcell (by simpa using hliterals)
  have hvalues : Lexes c "VALUES".toList [.word "VALUES".toList] := lexes_word hc (by decide)
  have hinto : Lexes c "INTO".toList [.word "INTO".toList] := lexes_word hc (by decide)
  have hinsert : Lexes c "INSERT".toList [.word "INSERT".toList] := lexes_word hc (by decide)
  have hcells := hvalues.spaced (hrow.closed hc (x := ';') (by decide))
  have htarget := (lexes_name hc htable).spaced (hlist.spaced hcells)
  have hstatement := hinsert.spaced (hinto.spaced htarget)
  rw [insertStatement_eq hcolumns]
  simpa only [insertTokens, columnTokens, cellTokens, List.append_assoc, List.cons_append,
    List.nil_append] using hstatement

/-! ## Cells -/

/-- The cell that a value is read as. Numbers are told by their texts, and lists and maps by a text
of JSON. -/
inductive ReadsAs : Value → Cell → Prop
  | null : ReadsAs .null .null
  | bool (b : Bool) : ReadsAs (.bool b) (.bool b)
  | int {n : Int} {s : String} (h : integerText? n = some s) : ReadsAs (.int n) (.number s.toList)
  | float {x : Binary64} (h : x.isFinite = true) : ReadsAs (.float x) (.number x.text.toList)
  | text (s : String) : ReadsAs (.text s) (.text s.toList)
  | list {items : List Value} {cs : List Char}
      (h : (Value.list items).toJson Csv.cellLayout = .ok cs)
      (hspells : Json.Spells (Value.list items).tree cs) : ReadsAs (.list items) (.text cs)
  | map {fields : OrderedMap String Value} {cs : List Char}
      (h : (Value.ofFields fields).toJson Csv.cellLayout = .ok cs)
      (hspells : Json.Spells (Value.ofFields fields).tree cs) :
      ReadsAs (.ofFields fields) (.text cs)

/-- The literal of a value is read as a cell that says it. -/
structure Literal.Tells (c : Convention) (v : Value) (l : Literal) (cell : Cell) : Prop where
  made : literalOf v = .ok l
  lexes : Lexes c (l.written c) l.tokens
  inner : Inner l.tokens
  read : cell? l.tokens = some cell
  readsAs : ReadsAs v cell

variable {v : Value} {cs : List Char} {cell : Cell}

theorem tells_word (hc : c.Regular) (hplain : isPlainName cs = true)
    (hmade : literalOf v = .ok (.bare cs)) (hread : cell? [.word cs] = some cell)
    (hreads : ReadsAs v cell) : Literal.Tells c v (.bare cs) cell := by
  have htokens : Literal.tokens (.bare cs) = [.word cs] := if_pos hplain
  exact ⟨hmade, htokens ▸ lexes_word hc hplain, by simp [htokens, Inner], htokens ▸ hread, hreads⟩

theorem isPlainName_of_isNumber {isFloat : Bool} (h : Json.IsNumber isFloat cs) :
    isPlainName cs = false := by
  cases h with
  | unsigned h =>
    obtain ⟨d, more, rfl, hd⟩ := h.exists_cons
    rw [← Bool.not_eq_true]
    intro hplain
    rw [← isDigit_eq, isDigit_of_isPlainName hplain] at hd
    cases hd
  | negative => rfl

theorem tells_number (hc : c.Regular) {isFloat : Bool} (hnumber : Json.IsNumber isFloat cs)
    (hmade : literalOf v = .ok (.bare cs)) (hreads : ReadsAs v (.number cs)) :
    Literal.Tells c v (.bare cs) (.number cs) := by
  have htokens : Literal.tokens (.bare cs) = numberTokens cs :=
    if_neg (by simp [isPlainName_of_isNumber hnumber])
  have hinner : Inner (numberTokens cs) := by
    intro x hx
    have hsign : x ≠ '-' := by
      rintro rfl
      exact absurd hx (by decide)
    unfold numberTokens
    split <;> simp [hsign]
  have hread : cell? (numberTokens cs) = some (.number cs) := by
    unfold numberTokens
    split <;> rfl
  exact ⟨hmade, htokens ▸ lexes_number hc hnumber, htokens ▸ hinner, htokens ▸ hread, hreads⟩

theorem tells_text (hc : c.Regular) (hmade : literalOf v = .ok (.text cs))
    (hreads : ReadsAs v (.text cs)) : Literal.Tells c v (.text cs) (.text cs) :=
  ⟨hmade, lexes_text hc cs, by simp [Literal.tokens, Inner], rfl, hreads⟩

/-- **Every writable value has a literal that is read as a cell that says it.** -/
theorem exists_tells (hc : c.Regular) (h : v.IsWritable) :
    ∃ p : Literal × Cell, p.1.Tells c v p.2 := by
  cases h with
  | null => exact ⟨(_, _), tells_word hc (by decide) rfl rfl .null⟩
  | bool b =>
    cases b with
    | false => exact ⟨(_, _), tells_word hc (by decide) rfl rfl (.bool false)⟩
    | true => exact ⟨(_, _), tells_word hc (by decide) rfl rfl (.bool true)⟩
  | int n h =>
    have htext : integerText? n = some (integerText n) := if_pos h
    have hmade : intLiteral n = .ok (.bare (integerText n).toList) := by
      unfold intLiteral
      rw [htext]
    exact ⟨(_, _), tells_number hc (isNumber_integerText n) hmade (.int htext)⟩
  | float x h =>
    refine ⟨(_, _), tells_number hc (Binary64.isNumber_text h) ?_ (.float h)⟩
    cases x with
    | nan => cases h
    | infinite => cases h
    | finite => rfl
  | text s => exact ⟨(_, _), tells_text hc rfl (.text s)⟩
  | list items h =>
    obtain ⟨cs, hcs, hspells⟩ := (Value.IsWritable.list items h).isSpelled Csv.cellLayout 0
    have htext : Csv.cellText (.list items) = .ok cs := congrArg (Except.mapError Fault.json) hcs
    exact ⟨(_, _), tells_text hc (by rw [literalOf, htext]; rfl) (.list hcs hspells)⟩
  | map fields hdistinct h =>
    obtain ⟨cs, hcs, hspells⟩ :=
      (Value.IsWritable.map fields hdistinct h).isSpelled Csv.cellLayout 0
    have htext : Csv.cellText (.ofFields fields) = .ok cs :=
      congrArg (Except.mapError Fault.json) hcs
    have hmade : literalOf (.ofFields fields) = .ok (.text cs) := by
      rw [Value.ofFields] at htext ⊢
      rw [literalOf, htext]
      rfl
    exact ⟨(_, _), tells_text hc hmade (.map hcs hspells)⟩

/-! ## Rows -/

/-- The literals of a row, each with the cell that it is read as. -/
def TellRow (c : Convention) (row : List Value) (ps : List (Literal × Cell)) : Prop :=
  List.Forall₂ (fun v p => p.1.Tells c v p.2) row ps

section

variable {row : List Value} {ps : List (Literal × Cell)}

theorem mapM_literalOf (h : TellRow c row ps) : row.mapM literalOf = .ok (ps.map Prod.fst) := by
  rw [Except.mapM_eq_ok_iff, List.forall₂_map_right_iff]
  exact h.imp fun _ _ h => h.made

theorem forall_tokens (h : TellRow c row ps) :
    ∀ p ∈ ps, Lexes c (p.1.written c) p.1.tokens ∧ Inner p.1.tokens ∧
      cell? p.1.tokens = some p.2 :=
  List.forall_mem_of_forall₂ h fun _ _ h => ⟨h.lexes, h.inner, h.read⟩

/-- **The statement of a row is read as its insertion.** -/
theorem isStatement_row (hc : c.Regular) (htable : table.Legible)
    (hnames : ∀ column ∈ columns, column.Legible) (hcolumns : columns ≠ [])
    (hwidth : row.length = columns.length) (h : TellRow c row ps) :
    IsStatement c (insertStatement c [table] columns (ps.map Prod.fst))
      ⟨table.chars, columns.map Name.chars, ps.map Prod.snd⟩ := by
  have hall := forall_tokens h
  have hliterals : ps.map Prod.fst ≠ [] := by
    rw [← List.length_pos_iff, List.length_map, ← h.length_eq, hwidth, List.length_pos_iff]
    exact hcolumns
  have hlexes : ∀ l ∈ ps.map Prod.fst, Lexes c (l.written c) l.tokens :=
    List.forall_mem_map.mpr fun p hp => (hall p hp).1
  have hinner : ∀ l ∈ ps.map Prod.fst, Inner l.tokens :=
    List.forall_mem_map.mpr fun p hp => (hall p hp).2.1
  refine ⟨_, lexes_insertStatement hc htable hnames hcolumns hlexes hliterals,
    notMem_insertTokens hinner, inserted?_insertTokens hcolumns hliterals hinner ?_⟩
  exact List.forall₂_map_map fun p hp => (hall p hp).2.2

end

theorem readTable_word (hc : c.Regular) {table : String} (hplain : isPlainName table.toList = true)
    (hfree : ∀ w ∈ keywords, Token.isWord w (.word table.toList) = false) :
    readTable c table = .ok [⟨table.toList, false⟩] := by
  have hscan := (lexes_word hc hplain).scan?
  have hname : Token.asName? keywords (.word table.toList) = some ⟨table.toList, false⟩ := by
    rw [Token.asName?, if_neg]
    simpa using hfree
  simp [readTable, hscan, tablePath?, hname]

theorem readDialect_name (d : Option Dialect) : readDialect (d.map Dialect.name) = .ok d := by
  rcases d with _ | (_ | _ | _) <;> rfl

end Sql

namespace Table

variable {t : Table} {table : String}

/-- What an insertion that is read tells of a row of a table. -/
structure Recounted (t : Table) (table : String) (row : List Value) (i : Sql.Inserted) :
    Prop where
  table : i.table = table.toList
  columns : i.columns = t.names.map String.toList
  cells : List.Forall₂ Sql.ReadsAs row i.cells

/-- The insertions of rows whose literals are known. -/
theorem exported_sql (d : Option Dialect) {literals : List (List Sql.Literal)}
    {path : List Sql.Name} (hrows : t.rows.mapM (·.mapM Sql.literalOf) = .ok literals)
    (hpath : Sql.readTable (.of d) table = .ok path) (headers : Bool) (delimiter : String) :
    t.exported "sql" ⟨headers, delimiter, table, d.map Dialect.name⟩ =
      .ok (String.ofList (Text.join '\n' (literals.map (Sql.insertStatement (.of d) path
        (t.names.map fun s => Sql.Name.ofText s.toList))))) := by
  have hformat : ExportFormat.ofName? "sql" = some .sql := by decide
  have hinsertions : t.toInsertions table (d.map Dialect.name) =
      .ok (Text.join '\n' (literals.map (Sql.insertStatement (.of d) path
        (t.names.map fun s => Sql.Name.ofText s.toList)))) := by
    unfold toInsertions
    split
    · next hnone =>
      rw [hnone] at hrows
      cases hrows
      rfl
    · next first rest hsome =>
      rw [hsome, Except.mapM_eq_ok_iff] at hrows
      obtain _ | ⟨hfirst, hrest⟩ := hrows
      have hmore := Except.mapM_eq_ok_iff.mpr hrest
      simp only [hfirst, Sql.readDialect_name, bind, Except.bind, hpath, hmore]
      rfl
  rw [exported, hformat]
  dsimp only
  rw [exportAs, hinsertions]
  rfl

/-- **Insertions are read back.** The text has one statement for each row, in the order of rows, on
lines of their own. Each is read as the insertion of its row, and the text as these and no others,
whatever the texts and the names of columns hold. -/
theorem insertions_read_back (d : Option Dialect) (hcolumns : t.columns ≠ []) (h : t.IsWritable)
    (hplain : Sql.isPlainName table.toList = true)
    (hfree : ∀ w ∈ Sql.keywords, Sql.Token.isWord w (.word table.toList) = false)
    (headers : Bool) (delimiter : String) :
    ∃ (statements : List (List Char)) (found : List Sql.Inserted),
      t.exported "sql" ⟨headers, delimiter, table, d.map Dialect.name⟩ =
        .ok (String.ofList (Text.join '\n' statements)) ∧
      List.Forall₂ (t.Recounted table) t.rows found ∧
      List.Forall₂ (fun s i => Sql.insertedAll? (.of d) s = some [i]) statements found ∧
      Sql.insertedAll? (.of d) (Text.join '\n' statements) = some found := by
  have hc := Sql.regular_of d
  set columns := t.names.map fun s => Sql.Name.ofText s.toList with hdef
  have hnames : ∀ column ∈ columns, column.Legible := by
    simp [hdef, Sql.Name.ofText, Sql.Name.Legible]
  have hchars : columns.map Sql.Name.chars = t.names.map String.toList := by
    simp [hdef, Sql.Name.ofText]
  have hlength : columns.length = t.columns.length := by simp [hdef, names]
  have hne : columns ≠ [] := by simpa [hdef, names] using hcolumns
  obtain ⟨pss, hpss⟩ : ∃ pss, List.Forall₂ (fun row ps => row.length = columns.length ∧
      Sql.TellRow (.of d) row ps) t.rows pss :=
    List.exists_forall₂ fun row hrow => by
      obtain ⟨ps, hps⟩ := List.exists_forall₂ fun v hv => Sql.exists_tells hc (h row hrow v hv)
      exact ⟨ps, (t.width row hrow).trans hlength.symm, hps⟩
  have hlegible : Sql.Name.Legible ⟨table.toList, false⟩ := fun _ => hplain
  have hstatement := List.forall_mem_of_forall₂ hpss fun row ps hps =>
    Sql.isStatement_row hc hlegible hnames hne hps.1 hps.2
  have hstatements := List.forall₂_map_map hstatement
  refine ⟨_, _, ?_, ?_, hstatements.imp fun _ _ h => h.insertedAll?,
    Sql.insertedAll?_join hstatements⟩
  · have hrows : t.rows.mapM (·.mapM Sql.literalOf) = .ok (pss.map (·.map Prod.fst)) := by
      rw [Except.mapM_eq_ok_iff, List.forall₂_map_right_iff]
      exact hpss.imp fun _ _ hps => Sql.mapM_literalOf hps.2
    rw [exported_sql d hrows (Sql.readTable_word hc hplain hfree), List.map_map]
    rfl
  · rw [List.forall₂_map_right_iff]
    refine hpss.imp fun row ps hps => ⟨rfl, hchars, ?_⟩
    rw [List.forall₂_map_right_iff]
    exact hps.2.imp fun _ _ hp => hp.readsAs

/-- A name with blanks, and a text with every mark that could end it. -/
def awkward : Table :=
  ⟨[⟨"id", "int"⟩, ⟨"the text", "str"⟩], [[.int 1, .text "it's;\n\\'"]], by simp⟩

/-- The awkward table, with backslashes that escape. -/
theorem insertions_read_back_awkward : awkward.columns ≠ [] ∧ awkward.IsWritable ∧
    Sql.isPlainName "notes".toList = true ∧
    (∀ w ∈ Sql.keywords, Sql.Token.isWord w (.word "notes".toList) = false) ∧
    ∃ statement, awkward.exported "sql" ⟨true, ",", "notes", some "mysql"⟩ =
        .ok (String.ofList statement) ∧
      Sql.insertedAll? (.of (some .mysql)) statement =
        some [⟨"notes".toList, ["id".toList, "the text".toList],
          [.number ['1'], .text "it's;\n\\'".toList]⟩] := by
  have hcolumns : awkward.columns ≠ [] := List.cons_ne_nil _ _
  have hone : (1 : Int).natAbs < tenPow maxDigits := Value.natAbs_lt_of_isInt64 (by decide)
  have hwritable : awkward.IsWritable := by
    simpa [IsWritable, awkward] using ⟨Value.IsWritable.int 1 hone, .text _⟩
  have hplain : Sql.isPlainName "notes".toList = true := by decide
  have hfree : ∀ w ∈ Sql.keywords, Sql.Token.isWord w (.word "notes".toList) = false := by decide
  obtain ⟨statements, found, hexport, hrows, -, hread⟩ :=
    insertions_read_back (some .mysql) hcolumns hwritable hplain hfree true ","
  refine ⟨hcolumns, hwritable, hplain, hfree, _, hexport, ?_⟩
  obtain _ | @⟨_, ⟨table, columns, cells⟩, _, _, ⟨htable, hnames, hcells⟩, hnone⟩ := hrows
  obtain _ | ⟨hid, _ | ⟨htext, _ | _⟩⟩ := hcells
  cases hnone
  cases htext
  cases hid with
  | int hid =>
    rw [integerText?, if_pos hone] at hid
    cases hid
    cases htable
    cases hnames
    exact hread

/-- A number without a text ends the export. -/
theorem toInsertions_single {column : Column} {n : Int} (h : integerText? n = none)
    (table : String) (dialect : Option String) :
    (single column (.int n)).toInsertions table dialect = .error .noText := by
  have hliteral : Sql.literalOf (.int n) = .error .noText := by
    rw [Sql.literalOf]
    unfold Sql.intLiteral
    rw [h]
  simp only [toInsertions, single, List.mapM_cons, hliteral]
  rfl

end Table

/-- A number of documents with 4301 digits is in the table, but no insertion tells it. -/
theorem Mongo.huge_count_not_inserted : ∃ t : Table,
    (Dialogue.run (Responder.counting (tenPow maxDigits)) ()
      (execute ⟨0, "shop"⟩ "c.count()").run).result = .ok t ∧
    t.columns = [countColumn] ∧ t.rows = [[.int (tenPow maxDigits)]] ∧
    t.exported "sql" .default = .error (.fault .noText) := by
  refine ⟨_, result_counting _, rfl, rfl, ?_⟩
  have hnone : integerText? (tenPow maxDigits) = none :=
    if_neg (Nat.not_lt.mpr (Nat.le_of_eq (Int.natAbs_natCast _).symm))
  have hformat : ExportFormat.ofName? "sql" = some .sql := by decide
  rw [Table.exported, hformat]
  dsimp only
  rw [Table.exportAs, Table.toInsertions_single hnone]
  rfl

end Polystore
