import BankReconciliation.Json.Printer
import BankReconciliation.Json.Reader
import BankReconciliation.Proofs.Uuid

/-! Texts between quotes. Every text is read back from its escaped form. -/

namespace BankReconciliation.Json

variable {c : Char} {rest seen : List Char} {fuel n : Nat}

theorem hexUnit_four {a b c d : Char} {digits : List Nat}
    (hlength : Text.byteLength [a, b, c, d] = 4)
    (hdigits : [a, b, c, d].mapM Text.hexValue? = some digits) :
    hexUnit (a :: b :: c :: d :: rest) = .ok (digits.foldl (fun n d => n * 16 + d) 0, rest) := by
  rw [hexUnit]
  simp only [List.take_succ_cons, List.take_zero, hlength, hdigits]
  rfl

theorem hexEscape_control (hn : n < 0x20) :
    hexEscape ('0' :: '0' :: hexDigit (n / 16) :: hexDigit n :: rest) =
      .ok (Char.ofNat n, rest) := by
  have hlength : ∀ n : Fin 0x20,
      Text.byteLength ['0', '0', hexDigit (n.val / 16), hexDigit n.val] = 4 := by decide
  have hdigits : ∀ n : Fin 0x20, ['0', '0', hexDigit (n.val / 16), hexDigit n.val].mapM
      Text.hexValue? = some [0, 0, n.val / 16, n.val % 16] := by decide
  have hvalue : [0, 0, n / 16, n % 16].foldl (fun n d => n * 16 + d) 0 = n := by
    simp only [List.foldl_cons, List.foldl_nil]
    omega
  have hunit : hexUnit ('0' :: '0' :: hexDigit (n / 16) :: hexDigit n :: rest) = .ok (n, rest) := by
    rw [hexUnit_four (hlength ⟨n, hn⟩) (hdigits ⟨n, hn⟩), hvalue]
  rw [hexEscape, hunit]
  have hlow : ¬(0xDC00 ≤ n ∧ n < 0xE000) := by omega
  have hhigh : ¬(0xD800 ≤ n ∧ n < 0xDC00) := by omega
  simp only [bind, Except.bind, if_neg hlow, if_neg hhigh]

theorem text_plain (hquote : c ≠ '"') (hslash : c ≠ '\\') (hcode : ¬c.toNat < 0x20) :
    text (fuel + 1) seen (c :: rest) = text fuel (c :: seen) rest := by
  rw [text, if_neg hcode]
  · exact hquote
  · exact hslash

theorem text_escape {cs : List Char} (h : escape cs = .ok (c, rest)) :
    text (fuel + 1) seen ('\\' :: cs) = text fuel (c :: seen) rest := by
  rw [text, h]
  rfl

theorem text_escapeChar :
    text (fuel + 1) seen (escapeChar c ++ rest) = text fuel (c :: seen) rest := by
  unfold escapeChar
  split
  case h_8 hquote hslash _ _ _ _ _ =>
    split_ifs with hcode
    · have hescape : escape ('u' :: '0' :: '0' :: hexDigit (c.toNat / 16) :: hexDigit c.toNat ::
          rest) = .ok (Char.ofNat c.toNat, rest) := hexEscape_control hcode
      rw [Char.ofNat_toNat] at hescape
      exact text_escape hescape
    · exact text_plain hquote hslash hcode
  all_goals exact text_escape rfl

theorem escapeChar_ne_nil (c : Char) : escapeChar c ≠ [] := by
  unfold escapeChar
  split <;> (try split_ifs) <;> exact List.cons_ne_nil _ _

theorem text_escaped {cs : List Char} (hfuel : cs.length < fuel) :
    text fuel seen (cs.flatMap escapeChar ++ '"' :: rest) =
      .ok (String.ofList (seen.reverse ++ cs), rest) := by
  induction cs generalizing fuel seen with
  | nil =>
    cases fuel with
    | zero => exact absurd hfuel (Nat.not_lt_zero _)
    | succ fuel => rw [List.flatMap_nil, List.nil_append, text, List.append_nil]
  | cons c cs ih =>
    cases fuel with
    | zero => exact absurd hfuel (Nat.not_lt_zero _)
    | succ fuel =>
      rw [List.flatMap_cons, List.append_assoc, text_escapeChar, ih (Nat.lt_of_succ_lt_succ hfuel),
        List.reverse_cons, List.append_assoc]
      rfl

theorem length_le_escaped (cs : List Char) : cs.length ≤ (cs.flatMap escapeChar).length := by
  induction cs with
  | nil => exact Nat.le_refl _
  | cons c cs ih =>
    have hc := List.length_pos_of_ne_nil (escapeChar_ne_nil c)
    rw [List.flatMap_cons, List.length_append, List.length_cons]
    omega

/-- A text is read back, in front of any other text. -/
theorem text_strChars (s : String) (rest : List Char) :
    ∃ cs, strChars s ++ rest = '"' :: cs ∧ text (cs.length + 1) [] cs = .ok (s, rest) := by
  refine ⟨s.toList.flatMap escapeChar ++ '"' :: rest, by simp [strChars], ?_⟩
  have hlength := length_le_escaped s.toList
  rw [text_escaped, List.reverse_nil, List.nil_append, String.ofList_toList]
  rw [List.length_append]
  omega

end BankReconciliation.Json
