import BankReconciliation.Proofs.Text.Blank
import BankReconciliation.Text.Encoding

/-! Cells that are written in UTF-8, with white space around their text. -/

namespace BankReconciliation.Text

theorem decodeUtf8?_encodeUtf8 (cs : List Char) : decodeUtf8? (encodeUtf8 cs) = some cs := by
  have hdecode : (encodeUtf8 cs).toByteArray.utf8Decode? = some cs.toArray :=
    List.utf8Decode?_utf8Encode
  rw [decodeUtf8?, hdecode, Option.map_some]

theorem encodeUtf8_inj {cs ds : List Char} : encodeUtf8 cs = encodeUtf8 ds ↔ cs = ds := by
  constructor
  · intro h
    apply Option.some.inj
    rw [← decodeUtf8?_encodeUtf8, h, decodeUtf8?_encodeUtf8]
  · exact congrArg encodeUtf8

/-- The bytes of a text with white space around it. -/
def Padded (text : List Char) (cell : Bytes) : Prop :=
  ∃ before after, AllBlank before ∧ AllBlank after ∧ cell = encodeUtf8 (before ++ text ++ after)

variable {text : List Char} {cell : Bytes}

theorem padded_encodeUtf8 (text : List Char) : Padded text (encodeUtf8 text) :=
  ⟨[], [], allBlank_nil, allBlank_nil, by simp⟩

/-- White space is no byte order mark, so a mark at the start of a padded text is the text's. -/
theorem head?_padded {before after : List Char} (hbefore : AllBlank before)
    (hafter : AllBlank after) (hmark : text.head? ≠ some byteOrderMark) :
    (before ++ text ++ after).head? ≠ some byteOrderMark := by
  have hblank : ∀ {cs : List Char}, AllBlank cs → cs.head? ≠ some byteOrderMark := by
    intro cs hcs h
    have hblank := hcs _ (List.mem_of_mem_head? h)
    cases hblank
  rw [List.head?_append, List.head?_append]
  cases hb : before.head? with
  | some c =>
    rw [← hb]
    simpa [hb] using hblank hbefore
  | none =>
    cases ht : text.head? with
    | some c => simpa [ht] using hmark
    | none => simpa using hblank hafter

theorem decodeCell_padded (h : Padded text cell) (hmark : text.head? ≠ some byteOrderMark) :
    decodeCell cell = trim text := by
  obtain ⟨before, after, hbefore, hafter, rfl⟩ := h
  have hhead := head?_padded hbefore hafter hmark
  have hmarks : (before ++ text ++ after).dropWhile (· == byteOrderMark) =
      before ++ text ++ after := by
    generalize before ++ text ++ after = cs at hhead
    cases cs with
    | nil => rfl
    | cons c cs => rw [List.dropWhile_cons_of_neg (by simpa using hhead)]
  simp only [decodeCell, decodeUtf8?_encodeUtf8, hmarks]
  exact trim_padded hbefore hafter text

/-- A text that a cell gives back: no white space at its ends and no byte order mark in front. -/
def Clean (text : List Char) : Prop := trim text = text ∧ text.head? ≠ some byteOrderMark

instance (text : List Char) : Decidable (Clean text) := by unfold Clean; infer_instance

theorem clean_nil : Clean [] := by decide

theorem decodeCell_of_clean (htext : Clean text) (h : Padded text cell) : decodeCell cell = text :=
  (decodeCell_padded h htext.2).trans htext.1

end BankReconciliation.Text
