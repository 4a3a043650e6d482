import FormSnippet.FormsFile
import Mathlib.Data.List.Basic

/-!
# Sample — what the sample file holds

The sample is a forms file like any other: it can be read, none of its forms and fields is dropped,
and whoever finds it at a path is handed its forms.

- `sampleForms`             : the forms of the sample
- `readDocument_sample`     : its text holds them
- `loadForms_of_document`   : reading a file whose forms are all usable
-/

namespace FormSnippet

variable {disk : Disk} {path : Path}

def sampleForms : List Form :=
  [{ name := "Invoice"
     title := some "New invoice"
     fields := [⟨"title", some "Title", none⟩, ⟨"amount", some "Amount", none⟩,
       ⟨"due", some "Due date", none⟩] },
   { name := "Meeting"
     title := some "Meeting notes"
     fields := [⟨"topic", some "Topic", none⟩, ⟨"attendees", some "Attendees", none⟩,
       ⟨"summary", some "Summary", none⟩] }]

theorem readDocument_sample : readDocument sampleText = .ok sampleForms := by
  rw [readDocument, sampleText, String.toList_join]
  decide +kernel

theorem fromUTF8?_toUTF8 (text : String) : String.fromUTF8? text.toUTF8 = some text := by
  rw [String.fromUTF8?, String.toUTF8_eq_toByteArray, dif_pos text.isValidUTF8]
  rfl

/-- Reading a file whose forms are all usable. -/
theorem loadForms_of_document {text : String} {document : List Form}
    (there : disk.lookup path = .ok (.file text.toUTF8))
    (read : readDocument text = .ok document) (usable : Form.usable document = document)
    (nonempty : document.isEmpty = false) : (loadForms disk path).2 = .ok document := by
  have content : disk.read path = .ok text := by
    rw [Disk.read, there]
    dsimp only [bind, Except.bind]
    rw [fromUTF8?_toUTF8]
  simp only [loadForms, content, read, usable, nonempty, Bool.false_eq_true, if_false]

theorem usable_sample : Form.usable sampleForms = sampleForms := by
  decide +kernel

theorem loadForms_sample (there : disk.lookup path = .ok (.file sampleText.toUTF8)) :
    (loadForms disk path).2 = .ok sampleForms :=
  loadForms_of_document there readDocument_sample usable_sample rfl

end FormSnippet
