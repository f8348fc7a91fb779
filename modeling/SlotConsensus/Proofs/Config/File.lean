import SlotConsensus.Config.File
import SlotConsensus.Proofs.Json.Record

/-! Configuration files.  What has been saved is loaded again if it is valid, whatever its numbers
and texts are, and is refused for what is wrong with it otherwise; and nothing else than valid
configurations is ever loaded. -/

namespace SlotConsensus

open Json

namespace FileEntry

theorem fromUTF8?_toUTF8 (text : String) : String.fromUTF8? text.toUTF8 = some text := by
  rw [String.toUTF8_eq_toByteArray, String.fromUTF8?, dif_pos text.isValidUTF8]
  rfl

theorem text_write {text : String} {entry after : FileEntry} (h : entry.write text = .ok after) :
    after.text = .ok text := by
  have hfile : (file text.toUTF8.data.toList).text = .ok text := by
    have hbytes : (⟨text.toUTF8.data.toList.toArray⟩ : ByteArray) = text.toUTF8 := rfl
    simp only [FileEntry.text, hbytes, fromUTF8?_toUTF8]
  cases entry with
  | directory => cases h
  | missing | file _ =>
    cases h
    exact hfile

theorem write_of_ne_directory {entry : FileEntry} (h : entry ≠ directory)
    (text : String) : ∃ after, entry.write text = .ok after := by
  cases entry with
  | directory => exact absurd rfl h
  | missing | file _ => exact ⟨_, rfl⟩

end FileEntry

namespace Config

theorem lossless_form : Config.form.Lossless :=
  Form.lossless_record "ConsensusConfig"
    (.cons (by decide) Form.lossless_word64 <| .cons (by decide) Form.lossless_word64 <|
      .cons (by decide) Form.lossless_count <|
      .cons (by decide) (Form.lossless_list Form.lossless_text) .nil)
    fun _ => rfl

/-- What is loaded after the configuration has been saved is decided by its validation. -/
theorem load_of_save {c : Config} {entry after : FileEntry} (h : c.save entry = .ok after) :
    load after = c.validate.map fun _ => c := by
  unfold save at h
  split at h
  · rename_i hwrite
    cases h
    simp only [load, FileEntry.text_write hwrite, lossless_form.parse_print]
  · cases h

theorem save_of_ne_directory (c : Config) {entry : FileEntry} (h : entry ≠ .directory) :
    ∃ after, c.save entry = .ok after := by
  obtain ⟨after, hwrite⟩ := FileEntry.write_of_ne_directory h (form.print .indented c)
  exact ⟨after, by simp only [save, hwrite]⟩

theorem validate_of_load {entry : FileEntry} {c : Config} (h : load entry = .ok c) :
    c.validate = .ok () := by
  unfold load at h
  split at h
  · cases h
  · split at h
    · cases h
    · rename_i c' _
      cases hvalid : c'.validate with
      | error e =>
        rw [hvalid] at h
        cases h
      | ok =>
        rw [hvalid] at h
        cases h
        exact hvalid

/-- A configuration that is saved over anything but a directory is loaded again if it is valid, and
otherwise refused with the error of its validation.  Whatever is loaded from a file is valid, and is
loaded again after it has been saved. -/
theorem save_then_load :
    (∀ (c : Config) (entry : FileEntry), entry ≠ .directory →
      ∃ after, c.save entry = .ok after ∧ (c.validate = .ok () → load after = .ok c) ∧
        ∀ e, c.validate = .error e → load after = .error e) ∧
      ∀ (entry : FileEntry) (c : Config), load entry = .ok c →
        c.validate = .ok () ∧ ∀ place : FileEntry, place ≠ .directory →
          ∃ after, c.save place = .ok after ∧ load after = .ok c := by
  constructor
  · intro c entry hentry
    obtain ⟨after, hsave⟩ := c.save_of_ne_directory hentry
    have hload := load_of_save hsave
    refine ⟨after, hsave, ?_, ?_⟩
    · intro hvalid
      rw [hload, hvalid]
      rfl
    · intro e hinvalid
      rw [hload, hinvalid]
      rfl
  · intro entry c h
    have hvalid := validate_of_load h
    refine ⟨hvalid, ?_⟩
    intro place hplace
    obtain ⟨after, hsave⟩ := c.save_of_ne_directory hplace
    refine ⟨after, hsave, ?_⟩
    rw [load_of_save hsave, hvalid]
    rfl

/-- The standard configuration is loaded again, and one that has room for no validators, with a text
full of marks that JSON escapes, is refused for that. -/
theorem save_then_load_standard :
    (∃ after, standard.save .missing = .ok after ∧ load after = .ok standard) ∧
      ∃ after, ({ standard with maxValidators := 0, trustNodes := ["\"\\\t\x01"] } : Config).save
          .missing = .ok after ∧ load after = .error (.config .noValidators) := by
  constructor
  · obtain ⟨after, hsave, hvalid, -⟩ := save_then_load.1 standard .missing (by decide)
    exact ⟨after, hsave, hvalid rfl⟩
  · obtain ⟨after, hsave, -, hinvalid⟩ := save_then_load.1
      { standard with maxValidators := 0, trustNodes := ["\"\\\t\x01"] } .missing (by decide)
    exact ⟨after, hsave, hinvalid _ rfl⟩

end Config

end SlotConsensus
