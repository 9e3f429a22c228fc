import Polystore.Proofs.Settings.Fields
import Polystore.Proofs.Text.Utf8
import Polystore.Proofs.Toml.Fuel

/-!
# Settings of any file

A file need not be there, need not be a document, and need not make sense: then defaults stand in.
Three kinds of files are not read but are faults: bytes that spell no text, an integer of more than
4300 digits, and a timeout that is an integer beyond the floats. How deep the brackets of a document
are makes no difference.

* `SettingsSource.Leads`: what a source leads to;
* **`Settings.load_leads`**: no source leads to anything else;
* `Settings.stray_byte_is_fault`: a file of one byte that is no text.
-/

namespace Polystore

open Number.Binary64 Text Settings

/-- What a source of settings leads to. -/
inductive SettingsSource.Leads : SettingsSource → Except Fault Settings → Prop
  | missing : Leads .missing (.ok default)
  | directory : Leads .directory (.ok default)
  /-- A text that is no document leads to the defaults. -/
  | noDocument {content : Bytes} {source : List Char} :
    SpellsText content source → Toml.Reads source (.error .form) →
      Leads (.file content) (.ok default)
  /-- A document leads to the settings that follow it. -/
  | document {content : Bytes} {document : Toml.Fields} {s : Settings} :
    Holds content document → Follows (given? document) s → Leads (.file content) (.ok s)
  /-- Bytes that spell no text are a fault. -/
  | noText {content : Bytes} :
    (∀ source, ¬SpellsText content source) → Leads (.file content) (.error .encoding)
  /-- An integer of too many digits is a fault. -/
  | digits {content : Bytes} {source : List Char} :
    SpellsText content source → Toml.Reads source (.error .digits) → Toml.LongRun source →
      Leads (.file content) (.error .noText)
  /-- A timeout beyond the floats is a fault. -/
  | timeout {content : Bytes} {document : Toml.Fields} {n : Int} :
    Holds content document → given? document "connect_timeout" = some (.scalar (.int n)) →
      0 < n → ¬InRange n → Leads (.file content) (.error .hugeInteger)

namespace Settings

theorem document_leads {content : Bytes} {document : Toml.Fields} (h : Holds content document) :
    SettingsSource.Leads (.file content) (ofDocument document) := by
  by_cases hrange : TimeoutInRange (given? document)
  · obtain ⟨s, hs, hfollows⟩ := ofDocument_of_inRange hrange
    exact hs ▸ .document h hfollows
  · rw [ofDocument_of_not_inRange hrange]
    simp only [TimeoutInRange, not_forall] at hrange
    obtain ⟨n, hgiven, hpos, hbeyond⟩ := hrange
    exact .timeout h hgiven hpos hbeyond

/-- **Every source leads to settings or to a fault with a known cause.** -/
theorem load_leads (source : SettingsSource) : source.Leads (load source) := by
  cases source with
  | missing => exact .missing
  | directory => exact .directory
  | file content =>
    cases htext : decodeUtf8? content with
    | none =>
      simp only [load, htext]
      exact .noText (decodeUtf8?_eq_none_iff.mp htext)
    | some source =>
      have hspells := decodeUtf8?_eq_some_iff_spellsText.mp htext
      cases hread : Toml.read source.toList with
      | ok document =>
        have hholds : Holds content document := ⟨source, htext, hread⟩
        exact load_of_holds hholds ▸ document_leads hholds
      | error flaw =>
        simp only [load, htext, hread]
        cases flaw with
        | form => exact .noDocument hspells (Toml.reads_iff.mpr hread)
        | digits =>
          exact .digits hspells (Toml.reads_iff.mpr hread) (Toml.longRun_of_digits hread)

/-- A file of one byte that is no text is a fault. -/
theorem stray_byte_is_fault : load (.file [0xFF]) = .error .encoding := by
  have htext : decodeUtf8? [0xFF] = none := by decide +kernel
  simp only [load, htext]

end Settings

end Polystore
