import Polystore.Proofs.Engine.Keys
import Polystore.Proofs.Text.Words

/-!
# Command lines

A command line and its words correspond: a line is read as the words that it was put together from,
and every text that is not blank is such a line. The words are what is sent.

* `KeyValueCommand.parse_line`, **`KeyValueCommand.parse_eq_ok_iff`**,
  `KeyValueCommand.parse_eq_error_iff`: which texts are which commands;
* `Redis.Sends`, **`Redis.words_sent`**: a command line is read, and its words are sent.
-/

namespace Polystore

open Session Text

namespace KeyValueCommand

variable {text : String} {command : KeyValueCommand} {e : CoreError}

/-- The command of a line. -/
def ofLine (l : Line) : KeyValueCommand :=
  ⟨String.ofList l.first, l.rest.map fun s => String.ofList s.word⟩

theorem words_ofLine (l : Line) : (ofLine l).words = l.words.map String.ofList := by
  simp [ofLine, words, Line.words]

theorem parse_line (l : Line) : parse (String.ofList l.chars) = .ok (ofLine l) := by
  rw [parse, String.toList_ofList, l.words_chars, ← words_ofLine]
  rfl

/-- **What is read as a command are the lines**, each as the words that it was put together from. -/
theorem parse_eq_ok_iff :
    parse text = .ok command ↔ ∃ l : Line, text = String.ofList l.chars ∧ command = ofLine l := by
  constructor
  · intro h
    have hsolid : ¬ Blank text.toList := by
      intro hblank
      rw [parse, words_of_blank hblank] at h
      cases h
    obtain ⟨l, hl⟩ := exists_line hsolid
    have htext : text = String.ofList l.chars := by rw [hl, String.ofList_toList]
    rw [htext, parse_line] at h
    exact ⟨l, htext, (Except.ok.inj h).symm⟩
  · rintro ⟨l, rfl, rfl⟩
    exact parse_line l

theorem parse_eq_error_iff :
    parse text = .error e ↔ Blank text.toList ∧ e = .malformed .noWords := by
  rw [← words_eq_nil_iff, parse]
  cases Text.words text.toList with
  | nil => simp [eq_comm]
  | cons word words => simp

/-- The words of a command, as the text has them. -/
theorem toList_words_of_parse (h : parse text = .ok command) :
    command.words.map String.toList = Text.words text.toList := by
  obtain ⟨l, rfl, rfl⟩ := parse_eq_ok_iff.mp h
  rw [words_ofLine, String.toList_ofList, l.words_chars]
  simp

end KeyValueCommand

namespace Redis

variable (c : Redis)

/-- How a command line is sent, and what comes of it. -/
inductive Sends (text : String) : List Exchange → Except Failure Table → Prop
  | blank : Blank text.toList → Sends text [] (.error (.core (.malformed .noWords)))
  /-- There is one call, with the words of the line. -/
  | words {command : KeyValueCommand} {reply : Except NativeError Value}
      {result : Except Failure Table} : KeyValueCommand.parse text = .ok command →
      (∀ v, reply = .ok v → result = .ok okTable) →
      (∀ e, reply = .error e → result = .error (watchedReport NativeKind.isKeyValue e)) →
      Sends text [⟨⟨c.client, .redis (.command command.words)⟩, reply⟩] result

variable {c}

theorem meets_execute (text : String) : (c.execute text).Meets (c.Sends text) := by
  unfold execute
  cases hparse : KeyValueCommand.parse text with
  | error e =>
    obtain ⟨hblank, rfl⟩ := KeyValueCommand.parse_eq_error_iff.mp hparse
    exact .blank hblank
  | ok command =>
    refine meets_bind.mpr (meets_pure.mpr (meets_bind.mpr (meets_mapFailure.mpr ?_)))
    refine meets_ask.mpr ⟨fun v => ?_, fun e => ?_⟩
    · exact .words hparse (fun _ _ => rfl) nofun
    · refine .words hparse nofun ?_
      rintro _ ⟨⟩
      rfl

/-- **Command lines and words correspond**, and the words of a line are what is sent. -/
theorem words_sent {σ : Type} (responder : Responder σ) (state : σ) (c : Redis) :
    (∀ l : Line, ∃ command, KeyValueCommand.parse (String.ofList l.chars) = .ok command ∧
      command.words = l.words.map String.ofList) ∧
    (∀ text e, KeyValueCommand.parse text = .error e ↔
      Blank text.toList ∧ e = .malformed .noWords) ∧
    (∀ text command, KeyValueCommand.parse text = .ok command →
      (∃ l : Line, text = String.ofList l.chars ∧ command.words = l.words.map String.ofList) ∧
      (∀ word ∈ command.words, IsWord word.toList) ∧
      command.words.flatMap String.toList = text.toList.filter (!isBlank ·)) ∧
    ∀ text, c.Sends text ((c.execute text).run.exchanges responder state)
      ((c.execute text).run.run responder state).result := by
  refine ⟨fun l => ⟨_, KeyValueCommand.parse_line l, KeyValueCommand.words_ofLine l⟩,
    fun _ _ => KeyValueCommand.parse_eq_error_iff, fun text command h => ⟨?_, ?_, ?_⟩,
    fun text => (meets_execute text).run responder state⟩
  · obtain ⟨l, htext, rfl⟩ := KeyValueCommand.parse_eq_ok_iff.mp h
    exact ⟨l, htext, KeyValueCommand.words_ofLine l⟩
  · intro word hword
    have hmem := List.mem_map_of_mem (f := String.toList) hword
    rw [KeyValueCommand.toList_words_of_parse h] at hmem
    exact forall_isWord_words _ _ hmem
  · rw [List.flatMap_def, KeyValueCommand.toList_words_of_parse h, flatten_words]

example : KeyValueCommand.parse "\u001cSET\u00a0 k\u0085v " = .ok ⟨"SET", ["k", "v"]⟩ := by
  decide +kernel

end Redis

end Polystore
