import BankReconciliation.Proofs.Export.Transactions

/-! Files in Latin-1 and in UTF-8. The bytes that hold a file together are the same in both, since
they are ASCII and no byte of another character is, and each cell is read as the text that was
written, unless its Latin-1 form happens to be valid UTF-8. -/

namespace BankReconciliation

open Text (Bytes)

/-- A text that Latin-1 has all characters of. -/
def Text.IsLatin1 (cs : List Char) : Prop := ∀ c ∈ cs, c.toNat < 256

instance (cs : List Char) : Decidable (Text.IsLatin1 cs) := List.decidableBAll _ cs

namespace Csv

def escapeText (cs : List Char) : List Char :=
  cs.flatMap fun c => if c = '"' then ['"', '"'] else [c]

def quotedText (cs : List Char) : List Char := '"' :: escapeText cs ++ ['"']

def textLine (delimiter : Char) : List (List Char) → List Char
  | [] => []
  | [cs] => quotedText cs
  | cs :: rest => quotedText cs ++ delimiter :: textLine delimiter rest

def LineEnd.chars : LineEnd → List Char
  | .lf => ['\n']
  | .crlf => ['\r', '\n']

def text (delimiter : Char) (rows : List (List (List Char) × LineEnd)) : List Char :=
  rows.flatMap fun (fields, lineEnd) => textLine delimiter fields ++ lineEnd.chars

variable {delimiter c : Char} {cs : List Char} {fields : List (List Char)}
  {rows : List (List (List Char) × LineEnd)}

theorem mem_escapeText (hc : c ∈ escapeText cs) : c ∈ cs := by
  obtain ⟨d, hd, hc⟩ := List.mem_flatMap.mp hc
  split_ifs at hc with hquote
  · simp_all
  · exact List.mem_singleton.mp hc ▸ hd

theorem mem_textLine (hc : c ∈ textLine delimiter fields) :
    c = '"' ∨ c = delimiter ∨ ∃ cs ∈ fields, c ∈ cs := by
  have hquoted : ∀ {cs}, c ∈ quotedText cs → c = '"' ∨ c ∈ cs := by
    intro cs hc
    rcases List.mem_append.mp hc with hc | hc
    · exact (List.mem_cons.mp hc).imp_right mem_escapeText
    · exact .inl (List.mem_singleton.mp hc)
  fun_induction textLine delimiter fields with
  | case1 => cases hc
  | case2 cs =>
    rcases hquoted hc with h | h
    · exact .inl h
    · exact .inr (.inr ⟨cs, List.mem_cons_self, h⟩)
  | case3 cs rest _ ih =>
    rcases List.mem_append.mp hc with hc | hc
    · rcases hquoted hc with h | h
      · exact .inl h
      · exact .inr (.inr ⟨cs, List.mem_cons_self, h⟩)
    · rcases List.mem_cons.mp hc with h | h
      · exact .inr (.inl h)
      · rcases ih h with h | h | ⟨cs', hcs', h⟩
        · exact .inl h
        · exact .inr (.inl h)
        · exact .inr (.inr ⟨cs', List.mem_cons_of_mem _ hcs', h⟩)

theorem mem_text (hc : c ∈ text delimiter rows) :
    c ∈ ['"', delimiter, '\r', '\n'] ∨ ∃ row ∈ rows, ∃ cs ∈ row.1, c ∈ cs := by
  obtain ⟨⟨fields, lineEnd⟩, hrow, hc⟩ := List.mem_flatMap.mp hc
  rcases List.mem_append.mp hc with hc | hc
  · rcases mem_textLine hc with rfl | rfl | ⟨cs, hcs, hc⟩
    · simp
    · simp
    · exact .inr ⟨_, hrow, cs, hcs, hc⟩
  · cases lineEnd <;> simp_all [LineEnd.chars]

theorem isLatin1_text (hdelimiter : delimiter.toNat < 256)
    (hrows : ∀ row ∈ rows, ∀ cs ∈ row.1, Text.IsLatin1 cs) :
    Text.IsLatin1 (text delimiter rows) := by
  intro c hc
  rcases mem_text hc with hc | ⟨row, hrow, cs, hcs, hc⟩
  · simp only [List.mem_cons, List.not_mem_nil, or_false] at hc
    rcases hc with rfl | rfl | rfl | rfl
    · decide
    · exact hdelimiter
    · decide
    · decide
  · exact hrows row hrow cs hcs c hc

/-- An encoding of the characters up to `U+00FF` in which an ASCII character is its own byte, and no
other character has an ASCII byte. -/
structure KeepsAscii (encode : Char → Bytes) : Prop where
  ascii : ∀ c : Char, c.toNat < 128 → encode c = [UInt8.ofNat c.toNat]
  other : ∀ c : Char, 128 ≤ c.toNat → c.toNat < 256 → ∀ b ∈ encode c, 128 ≤ b.toNat

namespace KeepsAscii

variable {encode encode' : Char → Bytes} {b : UInt8}

theorem eq_of_mem (h : KeepsAscii encode) (hc : c.toNat < 256) (hmem : b ∈ encode c)
    (hb : b.toNat < 128) : c.toNat = b.toNat := by
  by_cases hascii : c.toNat < 128
  · rw [h.ascii c hascii, List.mem_singleton] at hmem
    rw [hmem, UInt8.toNat_ofNat']
    omega
  · have := h.other c (Nat.not_lt.mp hascii) hc b hmem
    omega

theorem encode_escapeText (h : KeepsAscii encode) (hcs : Text.IsLatin1 cs) :
    (escapeText cs).flatMap encode = escape (cs.flatMap encode) := by
  induction cs with
  | nil => rfl
  | cons c cs ih =>
    obtain ⟨hc, hcs⟩ := List.forall_mem_cons.mp hcs
    have hchar : (if c = '"' then ['"', '"'] else [c]).flatMap encode = escape (encode c) := by
      split_ifs with hquote
      · subst hquote
        rw [List.flatMap_cons, List.flatMap_singleton, h.ascii _ (by decide)]
        rfl
      · have hnone : ∀ b ∈ encode c, b ≠ quote := by
          rintro b hb rfl
          exact hquote (Char.ext (UInt32.toNat_inj.mp (h.eq_of_mem hc hb (by decide))))
        rw [List.flatMap_singleton, escape, List.flatMap_congr fun b hb => if_neg (hnone b hb),
          List.flatMap_singleton']
    rw [escapeText, List.flatMap_cons, List.flatMap_append, hchar, ← escapeText, ih hcs,
      List.flatMap_cons, escape, escape, escape, List.flatMap_append]

theorem encode_quotedText (h : KeepsAscii encode) (hcs : Text.IsLatin1 cs) :
    (quotedText cs).flatMap encode = quotedField (cs.flatMap encode) := by
  have hquote : encode '"' = [quote] := h.ascii _ (by decide)
  simp [quotedText, quotedField, h.encode_escapeText hcs, hquote]

theorem encode_textLine {byte : UInt8} (h : KeepsAscii encode)
    (hdelimiter : encode delimiter = [byte]) (hfields : ∀ cs ∈ fields, Text.IsLatin1 cs) :
    (textLine delimiter fields).flatMap encode =
      line byte (fields.map fun cs => cs.flatMap encode) := by
  fun_induction textLine delimiter fields with
  | case1 => rfl
  | case2 cs => exact h.encode_quotedText (hfields cs List.mem_cons_self)
  | case3 cs rest hrest ih =>
    obtain ⟨hcs, hfields⟩ := List.forall_mem_cons.mp hfields
    obtain ⟨cs', rest, rfl⟩ := List.exists_cons_of_ne_nil hrest
    rw [List.flatMap_append, List.flatMap_cons, hdelimiter, h.encode_quotedText hcs, ih hfields]
    rfl

theorem encode_text {byte : UInt8} (h : KeepsAscii encode) (hdelimiter : encode delimiter = [byte])
    (hrows : ∀ row ∈ rows, ∀ cs ∈ row.1, Text.IsLatin1 cs) :
    (text delimiter rows).flatMap encode =
      document byte (rows.map fun (fields, lineEnd) =>
        (fields.map fun cs => cs.flatMap encode, lineEnd)) := by
  have hend : ∀ lineEnd : LineEnd, lineEnd.chars.flatMap encode = lineEnd.bytes := by
    intro lineEnd
    cases lineEnd <;> simp [LineEnd.chars, LineEnd.bytes, h.ascii]
  rw [text, document, List.flatMap_assoc, List.flatMap_map]
  refine List.flatMap_congr fun row hrow => ?_
  rw [List.flatMap_append, h.encode_textLine hdelimiter (hrows row hrow), hend]

theorem count_lineFeed (h : KeepsAscii encode) (hcs : Text.IsLatin1 cs) :
    (cs.flatMap encode).count lineFeed = cs.count '\n' := by
  induction cs with
  | nil => rfl
  | cons c cs ih =>
    obtain ⟨hc, hcs⟩ := List.forall_mem_cons.mp hcs
    rw [List.flatMap_cons, List.count_append, ih hcs, List.count_cons, Nat.add_comm]
    by_cases hfeed : c = '\n'
    · subst hfeed
      rw [h.ascii _ (by decide)]
      rfl
    · have hnone : lineFeed ∉ encode c := fun hmem =>
        hfeed (Char.ext (UInt32.toNat_inj.mp (h.eq_of_mem hc hmem (by decide))))
      simp [hfeed, List.count_eq_zero_of_not_mem hnone]

theorem feeds_encoded (h : KeepsAscii encode) (hfields : ∀ cs ∈ fields, Text.IsLatin1 cs) :
    feeds (fields.map fun cs => cs.flatMap encode) = fields.flatten.count '\n' := by
  rw [feeds, List.count_flatten, List.count_flatten, List.map_map]
  exact congrArg List.sum (List.map_congr_left fun cs hcs => h.count_lineFeed (hfields cs hcs))

end KeepsAscii

end Csv

namespace Text

variable {c : Char} {cs : List Char} {bytes : Bytes}

def latin1Bytes (c : Char) : Bytes := [UInt8.ofNat c.toNat]

theorem keepsAscii_latin1 : Csv.KeepsAscii latin1Bytes where
  ascii _ _ := rfl
  other c hc hlt b hb := by
    rw [List.mem_singleton.mp hb, UInt8.toNat_ofNat']
    omega

theorem keepsAscii_utf8 : Csv.KeepsAscii String.utf8EncodeChar where
  ascii c hc := by simp [String.utf8EncodeChar, Nat.le_of_lt_succ hc]
  other c hc hlt b hb := by
    have hall : ∀ n < 256, 128 ≤ n →
        (String.utf8EncodeChar (Char.ofNat n)).all (fun b => decide (128 ≤ b.toNat)) = true := by
      decide +kernel
    have hbytes := hall c.toNat hlt hc
    rw [Char.ofNat_toNat] at hbytes
    simpa using List.all_eq_true.mp hbytes b hb

theorem encodeLatin1?_eq_some (hcs : IsLatin1 cs) :
    encodeLatin1? cs = some (cs.flatMap latin1Bytes) := by
  induction cs with
  | nil => rfl
  | cons c cs ih =>
    obtain ⟨hc, hcs⟩ := List.forall_mem_cons.mp hcs
    rw [encodeLatin1?, List.mapM_cons, if_pos hc, ← encodeLatin1?, ih hcs]
    rfl

theorem decodeLatin1_encoded (hcs : IsLatin1 cs) :
    decodeLatin1 (cs.flatMap latin1Bytes) = cs := by
  induction cs with
  | nil => rfl
  | cons c cs ih =>
    obtain ⟨hc, hcs⟩ := List.forall_mem_cons.mp hcs
    have hbyte : Char.ofNat (UInt8.ofNat c.toNat).toNat = c := by
      rw [UInt8.toNat_ofNat', Nat.mod_eq_of_lt hc, Char.ofNat_toNat]
    rw [decodeLatin1] at ih ⊢
    rw [List.flatMap_cons, List.map_append, ih hcs]
    exact congrArg (· :: cs) hbyte

/-- A cell is read as the same text from both encodings, unless its Latin-1 form is valid UTF-8
though it is not ASCII. -/
theorem decodeCell_latin1 (hcs : IsLatin1 cs)
    (hinvalid : (∃ c ∈ cs, 128 ≤ c.toNat) → decodeUtf8? (cs.flatMap latin1Bytes) = none) :
    decodeCell (cs.flatMap latin1Bytes) = decodeCell (encodeUtf8 cs) := by
  have hmark : cs.head? ≠ some byteOrderMark := by
    intro hhead
    have := hcs _ (List.mem_of_mem_head? hhead)
    revert this
    decide
  rw [decodeCell_padded (padded_encodeUtf8 cs) hmark]
  by_cases hascii : ∃ c ∈ cs, 128 ≤ c.toNat
  · rw [decodeCell, hinvalid hascii, decodeLatin1_encoded hcs]
  · have hsame : cs.flatMap latin1Bytes = encodeUtf8 cs := by
      refine List.flatMap_congr fun c hc => ?_
      exact (keepsAscii_utf8.ascii c (Nat.not_le.mp fun h => hascii ⟨c, hc, h⟩)).symm
    rw [hsame, decodeCell_padded (padded_encodeUtf8 cs) hmark]

end Text

namespace Export

variable {d : Dialect} {batch : Batch} {rows : List (List (List Char) × Csv.LineEnd)}

/-- Files whose records stand on the same lines and hold the same texts give the same lines. -/
theorem lines_congr {content content' : Bytes}
    (h : List.Forall₂
      (fun r r' => r.line = r'.line ∧ r.fields.map Text.decodeCell = r'.fields.map Text.decodeCell)
      (Csv.records d.delimiter content) (Csv.records d.delimiter content')) :
    lines d batch content = lines d batch content' := by
  have hrow : ∀ headers columns (r r' : Csv.Record),
      r.line = r'.line ∧ r.fields.map Text.decodeCell = r'.fields.map Text.decodeCell →
        row d batch headers columns r = row d batch headers columns r' := by
    rintro headers columns r r' ⟨hline, hcells⟩
    rw [row, row, hline, hcells]
  generalize hrecords : Csv.records d.delimiter content = records at h
  generalize hrecords' : Csv.records d.delimiter content' = records' at h
  cases h with
  | nil => rw [lines, lines, hrecords, hrecords']
  | @cons _ _ rest rest' hheader hrest =>
    have hrows : ∀ headers columns, rest.mapM (row d batch headers columns) =
        rest'.mapM (row d batch headers columns) :=
      fun headers columns => mapM_congr (hrest.imp (hrow headers columns))
    rw [lines_of_records hrecords, lines_of_records hrecords', hheader.2]
    simp only [hrows]

/-- The fields of one row in the two encodings. -/
def Encoded (fields fields' : List Bytes) : Prop :=
  ∃ texts : List (List Char), (∀ cs ∈ texts, Text.IsLatin1 cs) ∧
    (∀ cs ∈ texts, (∃ c ∈ cs, 128 ≤ c.toNat) →
      Text.decodeUtf8? (cs.flatMap Text.latin1Bytes) = none) ∧
    fields = texts.map (fun cs => cs.flatMap Text.latin1Bytes) ∧
    fields' = texts.map Text.encodeUtf8

theorem Encoded.feeds_eq {fields fields' : List Bytes} (h : Encoded fields fields') :
    (fields = [] ↔ fields' = []) ∧ Csv.feeds fields = Csv.feeds fields' := by
  obtain ⟨texts, hchars, -, rfl, rfl⟩ := h
  constructor
  · rw [List.map_eq_nil_iff, List.map_eq_nil_iff]
  · exact (Text.keepsAscii_latin1.feeds_encoded hchars).trans
      (Text.keepsAscii_utf8.feeds_encoded hchars).symm

theorem Encoded.texts_eq {fields fields' : List Bytes} (h : Encoded fields fields') :
    fields.map Text.decodeCell = fields'.map Text.decodeCell := by
  obtain ⟨texts, hchars, hinvalid, rfl, rfl⟩ := h
  rw [List.map_map, List.map_map]
  exact List.map_congr_left fun cs hcs =>
    Text.decodeCell_latin1 (hchars cs hcs) (hinvalid cs hcs)

/-- A file in Latin-1 gives the same lines, or the same problem, as the same file in UTF-8, unless
the Latin-1 form of a field that is not ASCII happens to be valid UTF-8. -/
theorem lines_latin1 (hdelimiter : Csv.Divides d.delimiter) (hascii : d.delimiter.toNat < 128)
    (hchars : ∀ row ∈ rows, ∀ field ∈ row.1, Text.IsLatin1 field)
    (hinvalid : ∀ row ∈ rows, ∀ field ∈ row.1, (∃ c ∈ field, 128 ≤ c.toNat) →
      ∀ bytes, Text.encodeLatin1? field = some bytes → Text.decodeUtf8? bytes = none) :
    ∃ bytes, Text.encodeLatin1? (Csv.text (Char.ofNat d.delimiter.toNat) rows) = some bytes ∧
      lines d batch bytes =
        lines d batch (Text.encodeUtf8 (Csv.text (Char.ofNat d.delimiter.toNat) rows)) := by
  have hbyte : (Char.ofNat d.delimiter.toNat).toNat = d.delimiter.toNat := by
    have hvalid : d.delimiter.toNat.isValidChar := .inl (by omega)
    rw [Char.ofNat, dif_pos hvalid]
    rfl
  have htext : Text.IsLatin1 (Csv.text (Char.ofNat d.delimiter.toNat) rows) :=
    Csv.isLatin1_text (by omega) hchars
  have hcode : ∀ {encode}, Csv.KeepsAscii encode →
      encode (Char.ofNat d.delimiter.toNat) = [d.delimiter] := by
    intro encode h
    rw [h.ascii _ (by omega), hbyte, UInt8.ofNat_toNat]
  have hrecords : ∀ rows, Csv.records d.delimiter (Csv.document d.delimiter rows) =
      Csv.layout 1 1 rows := fun rows => Csv.records_document hdelimiter false
  refine ⟨_, Text.encodeLatin1?_eq_some htext, lines_congr ?_⟩
  rw [Text.keepsAscii_latin1.encode_text (hcode Text.keepsAscii_latin1) hchars, Text.encodeUtf8,
    Text.keepsAscii_utf8.encode_text (hcode Text.keepsAscii_utf8) hchars, hrecords, hrecords]
  refine (Csv.layout_forall₂ Encoded.feeds_eq ?_ 1 1).imp fun _ _ h => ⟨h.1, h.2.texts_eq⟩
  rw [List.forall₂_map_left_iff, List.forall₂_map_right_iff, List.forall₂_same]
  intro row hrow
  refine ⟨⟨row.1, hchars row hrow, fun field hfield hother => ?_, rfl, rfl⟩, rfl⟩
  exact hinvalid row hrow field hfield hother _
    (Text.encodeLatin1?_eq_some (hchars row hrow field hfield))

end Export

namespace Sample

def accented : List (List (List Char) × Csv.LineEnd) := [
  (["Data".toList, "Histórico".toList, "Valor".toList], .lf),
  (["01/05/2024".toList, "Doação \"A\"".toList, "-10,00".toList], .crlf)]

end Sample

namespace Export

theorem lines_latin1_accented :
    let d := Dialect.bancoDoBrasil
    let text := Csv.text (Char.ofNat d.delimiter.toNat) Sample.accented
    (lines d Sample.period (Text.encodeUtf8 text)).map List.length = .ok 1 ∧
      ∃ bytes, Text.encodeLatin1? text = some bytes ∧
        lines d Sample.period bytes = lines d Sample.period (Text.encodeUtf8 text) := by
  intro d text
  have hinvalid : ∀ row ∈ Sample.accented, ∀ field ∈ row.1,
      field.all (fun c => decide (c.toNat < 128)) = true ∨
        (Text.encodeLatin1? field).bind Text.decodeUtf8? = none := by decide +kernel
  refine ⟨by decide +kernel, lines_latin1 (by decide) (by decide) (by decide +kernel) ?_⟩
  intro row hrow field hfield hother bytes hbytes
  rcases hinvalid row hrow field hfield with hascii | hnone
  · obtain ⟨c, hc, hother⟩ := hother
    have hascii := List.all_eq_true.mp hascii c hc
    exact absurd (of_decide_eq_true hascii) (Nat.not_lt.mpr hother)
  · rwa [hbytes] at hnone

end Export

end BankReconciliation
