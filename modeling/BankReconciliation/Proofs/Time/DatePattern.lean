import BankReconciliation.Proofs.Text.Cell
import BankReconciliation.Proofs.Text.Digits
import BankReconciliation.Proofs.Time.Date
import BankReconciliation.Time.DatePattern
import Mathlib.Data.List.Basic

/-! Days that are written as day, month and year are read back by the pattern `%d/%m/%Y`. -/

namespace BankReconciliation

namespace Timestamp

variable {ds rest : List Char} {width : Nat}

theorem number?_append (hds : ∀ c ∈ ds, c.isDigit = true) (hlength : ds.length = width)
    (hwidth : 0 < width) : number? width (ds ++ rest) = some (Text.digitsValue ds, rest) := by
  have htake : ((ds ++ rest).take width).takeWhile Char.isDigit = ds := by
    rw [List.take_left' hlength, List.takeWhile_eq_self_iff.mpr hds]
  have hne : ds ≠ [] := List.ne_nil_of_length_pos (hlength ▸ hwidth)
  rw [number?, htake, if_neg hne, List.drop_left]

theorem trimStart_digits (hds : ∀ c ∈ ds, c.isDigit = true) (hne : ds ≠ []) :
    Text.trimStart (ds ++ rest) = ds ++ rest := by
  obtain ⟨c, ds, rfl⟩ := List.exists_cons_of_ne_nil hne
  have hc : Text.isBlank c = false := Text.isBlank_of_isDigit (hds c List.mem_cons_self)
  rw [Text.trimStart, List.cons_append, List.dropWhile_cons_of_neg (by simp [hc])]

theorem field?_append (hds : ∀ c ∈ ds, c.isDigit = true) (hlength : ds.length = width)
    (hwidth : 0 < width) : field? width (ds ++ rest) = some (Text.digitsValue ds, rest) := by
  rw [field?, trimStart_digits hds (List.ne_nil_of_length_pos (hlength ▸ hwidth)),
    number?_append hds hlength hwidth]

theorem year?_append (hds : ∀ c ∈ ds, c.isDigit = true) (hlength : ds.length = 4) :
    year? (ds ++ rest) = some ((Text.digitsValue ds : Int), rest) := by
  have hne : ds ≠ [] := List.ne_nil_of_length_pos (by omega)
  rw [year?, trimStart_digits hds hne]
  obtain ⟨c, ds, rfl⟩ := List.exists_cons_of_ne_nil hne
  have hc := hds c List.mem_cons_self
  have hminus : c ≠ '-' := Text.ne_of_isDigit hc rfl
  have hplus : c ≠ '+' := Text.ne_of_isDigit hc rfl
  have hnumber : number? 4 (c :: ds ++ rest) = some (Text.digitsValue (c :: ds), rest) :=
    number?_append hds hlength (by decide)
  rw [List.cons_append] at hnumber ⊢
  split
  · rename_i heq
    exact absurd (List.cons.inj heq).1 hminus
  · rename_i heq
    exact absurd (List.cons.inj heq).1 hplus
  · rw [hnumber, Option.map_some]

end Timestamp

namespace DatePattern

variable {item : Item} {items : List Item} {place : Place} {found found' : DateFields} {n : Int}
  {cs cs' : List Char} {d : Date}

theorem readItems?_cons (h : readItem? item found cs = some (found', cs')) :
    readItems? (item :: items) found cs = readItems? items found' cs' := by
  rw [readItems?, h]
  rfl

theorem readItem?_number (hread : place.read? cs = some (n, cs'))
    (hnote : note? found place n = some found') :
    readItem? (.number place) found cs = some (found', cs') := by
  simp [readItem?, hread, hnote]

/-- Day, month and year, with two digits for each but the year, which has four. -/
def dayMonthYear (d : Date) : List Char :=
  Text.padded 2 d.day ++ '/' :: (Text.padded 2 d.month ++ '/' :: Text.padded 4 d.year.toNat)

theorem dayMonthYear_ne_nil (d : Date) : dayMonthYear d ≠ [] :=
  List.append_ne_nil_of_left_ne_nil (Text.padded_ne_nil (by decide)) _

theorem isDigit_of_head?_dayMonthYear {c : Char} (hc : (dayMonthYear d).head? = some c) :
    c.isDigit = true := by
  rw [dayMonthYear, List.head?_append_of_ne_nil _ (Text.padded_ne_nil (by decide))] at hc
  exact Text.isDigit_of_mem_padded (List.mem_of_mem_head? hc)

theorem isDigit_of_getLast?_dayMonthYear {c : Char} (hc : (dayMonthYear d).getLast? = some c) :
    c.isDigit = true := by
  have hyear : dayMonthYear d = (Text.padded 2 d.day ++ '/' :: (Text.padded 2 d.month ++ ['/'])) ++
      Text.padded 4 d.year.toNat := by
    simp [dayMonthYear]
  rw [hyear, List.getLast?_append_of_ne_nil _ (Text.padded_ne_nil (by decide))] at hc
  exact Text.isDigit_of_mem_padded (List.mem_of_getLast? hc)

theorem trim_dayMonthYear (d : Date) : Text.trim (dayMonthYear d) = dayMonthYear d :=
  Text.trim_eq_self
    (fun _ hc => Text.isBlank_of_isDigit (isDigit_of_head?_dayMonthYear hc))
    (fun _ hc => Text.isBlank_of_isDigit (isDigit_of_getLast?_dayMonthYear hc))

theorem clean_dayMonthYear (d : Date) : Text.Clean (dayMonthYear d) :=
  ⟨trim_dayMonthYear d, fun h => by cases isDigit_of_head?_dayMonthYear h⟩

theorem date?_dayMonthYear (d : Date) :
    DateFields.date? [(.year, d.year), (.month, d.month), (.day, d.day)] = some d := by
  have hof : Date.of? d.year d.month d.day = some d := Date.of?_eq_some_iff.mpr ⟨rfl, rfl, rfl⟩
  have hdays : DateFields.date? [(.year, d.year), (.month, d.month), (.day, d.day)] =
      ((Date.of? d.year d.month d.day).toList ++ []).find? fun e =>
        [(DateField.year, d.year), (.month, (d.month : Int)), (.day, (d.day : Int))].all
          (DateFields.agrees e) := rfl
  rw [hdays, hof]
  simp [DateFields.agrees]

theorem read?_padded {k : Nat} {rest : List Char} (hplace : place = .day ∨ place = .month)
    (hk : k < 100) : place.read? (Text.padded 2 k ++ rest) = some ((k : Int), rest) := by
  have hlength : (Text.padded 2 k).length = 2 := Text.length_padded_of_lt (by decide) hk
  have hfield : Timestamp.field? 2 (Text.padded 2 k ++ rest) = some (k, rest) := by
    rw [Timestamp.field?_append (fun _ => Text.isDigit_of_mem_padded) hlength (by decide),
      Text.digitsValue_padded]
  have hread := congrArg (Option.map fun p : Nat × List Char => ((p.1 : Int), p.2)) hfield
  rcases hplace with rfl | rfl <;> exact hread

theorem read?_dayMonthYear (hyear : 0 ≤ d.year ∧ d.year ≤ 9999) :
    read? "%d/%m/%Y".toList (dayMonthYear d) = some (.midnight d) := by
  obtain ⟨-, ⟨hm, hm'⟩, hn, hn'⟩ := d.valid
  have hn' : d.day ≤ 31 := hn'.trans (Calendar.daysInMonth_le d.year d.month)
  have hitems : DatePattern.items "%d/%m/%Y".toList =
      [.number .day, .literal '/', .number .month, .literal '/', .number .year] := by decide
  have hday : note? [] .day d.day = some [(DateField.day, (d.day : Int))] := by
    rw [note?, Place.facts?, Place.inside?, if_pos (by omega)]
    rfl
  have hmonth : note? [(.day, d.day)] .month d.month =
      some [(DateField.month, (d.month : Int)), (.day, (d.day : Int))] := by
    rw [note?, Place.facts?, Place.inside?, if_pos (by omega)]
    rfl
  have hread : Place.year.read? (Text.padded 4 d.year.toNat) = some (d.year, []) := by
    have hlength : (Text.padded 4 d.year.toNat).length = 4 :=
      Text.length_padded_of_lt (by decide) (by omega)
    have hfour : Timestamp.year? (Text.padded 4 d.year.toNat ++ []) =
        some ((Text.digitsValue (Text.padded 4 d.year.toNat) : Int), []) :=
      Timestamp.year?_append (fun _ => Text.isDigit_of_mem_padded) hlength
    rwa [List.append_nil, Text.digitsValue_padded, Int.toNat_of_nonneg hyear.1] at hfour
  have hitem : readItems? [.number .year] [(.month, d.month), (.day, d.day)]
      (Text.padded 4 d.year.toNat) =
        some ([(DateField.year, d.year), (.month, (d.month : Int)), (.day, (d.day : Int))], []) :=
    readItems?_cons (readItem?_number hread rfl)
  have hall : readItems? (DatePattern.items "%d/%m/%Y".toList) [] (dayMonthYear d) =
      some ([(DateField.year, d.year), (.month, (d.month : Int)), (.day, (d.day : Int))], []) := by
    rw [hitems, dayMonthYear,
      readItems?_cons (readItem?_number (read?_padded (.inl rfl) (by omega)) hday),
      readItems?_cons rfl,
      readItems?_cons (readItem?_number (read?_padded (.inr rfl) (by omega)) hmonth),
      readItems?_cons rfl, hitem]
  rw [read?, trim_dayMonthYear, hall]
  simp [date?_dayMonthYear]

end DatePattern

end BankReconciliation
