/-!
# Cutting texts

* `pieces`: the pieces of a text between the occurrences of a separator, and `join`, which puts
  them together again;
* `cutFirst?`: what stands before and behind the first occurrence of a character;
* `removeAll`: a text without the occurrences of a word;
* `holds`: whether a text contains a word;
* `dropWord?`: a text without the word in front.
-/

namespace Polystore.Text

/-- The pieces between the occurrences of a separator; there is one more than occurrences. -/
def pieces (separator : Char) : List Char → List (List Char)
  | [] => [[]]
  | c :: cs =>
    if c = separator then [] :: pieces separator cs
    else
      match pieces separator cs with
      | piece :: rest => (c :: piece) :: rest
      | [] => [[c]]

/-- Pieces with a separator between them. -/
def join (separator : Char) : List (List Char) → List Char
  | [] => []
  | [piece] => piece
  | piece :: rest => piece ++ separator :: join separator rest

/-- What stands before and behind the first occurrence of a character. -/
def cutFirst? (separator : Char) : List Char → Option (List Char × List Char)
  | [] => none
  | c :: cs =>
    if c = separator then some ([], cs)
    else (cutFirst? separator cs).map fun (front, back) => (c :: front, back)

/-- Take the occurrences of a word out, from left to right, after leaving out `skip` characters
of an occurrence that began before. -/
def removeFrom (word : List Char) : (skip : Nat) → List Char → List Char
  | _, [] => []
  | skip + 1, _ :: cs => removeFrom word skip cs
  | 0, c :: cs =>
    if word.isPrefixOf (c :: cs) then removeFrom word (word.length - 1) cs
    else c :: removeFrom word 0 cs

/-- Take the occurrences of a word out, from left to right. -/
def removeAll (word cs : List Char) : List Char := removeFrom word 0 cs

def holds (word : List Char) : List Char → Bool
  | [] => word.isEmpty
  | c :: cs => word.isPrefixOf (c :: cs) || holds word cs

/-- The rest of a text behind a word in front. -/
def dropWord? (word : String) (cs : List Char) : Option (List Char) :=
  if word.toList.isPrefixOf cs then some (cs.drop word.toList.length) else none

theorem pieces_ne_nil (separator : Char) (cs : List Char) : pieces separator cs ≠ [] := by
  cases cs with
  | nil => simp [pieces]
  | cons c cs =>
    unfold pieces
    split
    · simp
    · split <;> simp

/-- Nothing is lost between the pieces. -/
theorem join_pieces (separator : Char) (cs : List Char) :
    join separator (pieces separator cs) = cs := by
  induction cs with
  | nil => rfl
  | cons c cs ih =>
    unfold pieces
    split
    · next h =>
      subst h
      cases hp : pieces c cs with
      | nil => exact absurd hp (pieces_ne_nil c cs)
      | cons piece rest => rw [join, ← hp, ih, List.nil_append]; simp
    · cases hp : pieces separator cs with
      | nil => exact absurd hp (pieces_ne_nil separator cs)
      | cons piece rest =>
        rw [hp] at ih
        cases rest <;> simp_all [join]

/-- The first occurrence: nothing before it is the separator. -/
theorem cutFirst?_eq_some_iff {separator : Char} {cs front back : List Char} :
    cutFirst? separator cs = some (front, back) ↔
      cs = front ++ separator :: back ∧ separator ∉ front := by
  induction cs generalizing front with
  | nil => simp [cutFirst?]
  | cons c cs ih =>
    unfold cutFirst?
    split
    · next h =>
      subst h
      constructor
      · rintro ⟨⟩
        simp
      · rintro ⟨h, hn⟩
        cases front with
        | nil => simp_all
        | cons d front => simp_all
    · next h =>
      simp only [Option.map_eq_some_iff, Prod.exists, Prod.mk.injEq]
      constructor
      · rintro ⟨f, b, hfb, rfl, rfl⟩
        obtain ⟨rfl, hn⟩ := ih.1 hfb
        exact ⟨rfl, by simp [hn, Ne.symm h]⟩
      · rintro ⟨he, hn⟩
        cases front with
        | nil => simp_all
        | cons d front =>
          simp only [List.cons_append, List.cons.injEq] at he
          exact ⟨front, back, ih.2 ⟨he.2, by simp_all⟩, by rw [he.1], rfl⟩

end Polystore.Text
