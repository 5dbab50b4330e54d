import BankReconciliation.Store.Ledger
import Mathlib.Data.List.Nodup

/-! What the calls on the ledger do to its records: a look-up answers an accepted record, and a
dispatch changes the status of one record and nothing else. -/

namespace BankReconciliation.Store.Ledger

/-- No two records have the same church and id. -/
def KeysDistinct (records : List LedgerRecord) : Prop := (records.map LedgerRecord.key).Nodup

variable {records : List LedgerRecord} {r r' : LedgerRecord} {key : String × String}

theorem eq_of_key_eq (h : KeysDistinct records) (hr : r ∈ records) (hr' : r' ∈ records)
    (hk : r.key = r'.key) : r = r' :=
  List.inj_on_of_nodup_map h hr hr' hk

theorem keysDistinct_insert (h : KeysDistinct records) (hr : ∀ a ∈ records, a.key ≠ r.key) :
    KeysDistinct (records ++ [r]) := by
  rw [KeysDistinct, List.map_append, List.map_singleton]
  refine List.Nodup.append h (List.nodup_singleton _) ?_
  intro k hk hk'
  obtain ⟨a, ha, rfl⟩ := List.mem_map.mp hk
  exact hr a ha (List.mem_singleton.mp hk')

theorem foldl_earlier_mem (best : LedgerRecord) (records : List LedgerRecord) :
    records.foldl (fun best r => if precedes r best then r else best) best ∈ best :: records := by
  induction records generalizing best with
  | nil => exact List.mem_singleton_self best
  | cons a rs ih =>
    rw [List.foldl_cons]
    by_cases ha : precedes a best
    · rw [if_pos ha]
      exact List.mem_cons_of_mem best (ih a)
    · rw [if_neg ha]
      have hmem := ih best
      simp only [List.mem_cons] at hmem ⊢
      tauto

theorem mem_of_earliest? (h : earliest? records = some r) : r ∈ records := by
  cases records with
  | nil => cases h
  | cons a rs =>
    rw [← Option.some.inj h]
    exact foldl_earlier_mem a rs

theorem earliest?_eq_none_iff : earliest? records = none ↔ records = [] := by
  cases records <;> simp [earliest?]

theorem mem_of_findOne {l : Ledger} {filter : RecordFilter} (h : l.findOne filter = some r) :
    r ∈ l.records ∧ filter.accepts r = true :=
  List.mem_filter.mp (mem_of_earliest? h)

theorem findOne_eq_none_iff {l : Ledger} {filter : RecordFilter} :
    l.findOne filter = none ↔ ∀ r ∈ l.records, filter.accepts r = false := by
  rw [findOne, earliest?_eq_none_iff, List.filter_eq_nil_iff]
  simp

theorem mem_of_find? {l : Ledger} {churchId id : String} (h : l.find? churchId id = some r) :
    r ∈ l.records ∧ r.key = (churchId, id) := by
  refine ⟨List.mem_of_find?_eq_some h, ?_⟩
  simpa [LedgerRecord.key] using List.find?_some h

@[simp] theorem keys_setStatus (status : RecordStatus) :
    (setStatus key status records).map LedgerRecord.key = records.map LedgerRecord.key := by
  induction records with
  | nil => rfl
  | cons a rs ih =>
    by_cases ha : a.key = key
    · rw [setStatus, if_pos ha]; rfl
    · rw [setStatus, if_neg ha, List.map_cons, List.map_cons, ih]

/-- Where no key occurs twice, a change of status changes every record of its key. -/
theorem setStatus_eq_map (status : RecordStatus) (h : KeysDistinct records) :
    setStatus key status records =
      records.map fun a => if a.key = key then { a with status } else a := by
  induction records with
  | nil => rfl
  | cons a rs ih =>
    obtain ⟨ha, hrs⟩ := List.nodup_cons.mp h
    by_cases hk : a.key = key
    · have hrest : ∀ b ∈ rs, (if b.key = key then { b with status } else b) = b := by
        intro b hb
        refine if_neg fun hbk => ha ?_
        exact List.mem_map.mpr ⟨b, hb, hbk.trans hk.symm⟩
      rw [setStatus, if_pos hk, List.map_cons, if_pos hk, List.map_congr_left hrest, List.map_id']
    · rw [setStatus, if_neg hk, List.map_cons, if_neg hk, ih hrs]

theorem mem_setStatus (key : String × String) (status : RecordStatus) (h : KeysDistinct records)
    (hr : r ∈ records) :
    (if r.key = key then { r with status } else r) ∈ setStatus key status records := by
  rw [setStatus_eq_map status h]
  exact List.mem_map_of_mem hr

theorem setStatus_of_status {status : RecordStatus} (h : KeysDistinct records) (hr : r ∈ records)
    (hs : r.status = status) : setStatus r.key status records = records := by
  rw [setStatus_eq_map status h]
  refine (List.map_congr_left fun a ha => ?_).trans (List.map_id _)
  split
  · rename_i hk
    obtain rfl := eq_of_key_eq h ha hr hk
    rw [← hs]
    rfl
  · rfl

theorem keysDistinct_dispatch {l : Ledger} (record : LedgerRecord) (status : RecordStatus)
    (h : KeysDistinct l.records) : KeysDistinct (l.dispatch record status).records := by
  rw [KeysDistinct, dispatch, keys_setStatus]
  exact h

theorem status_of_mem_dispatch {l : Ledger} {record : LedgerRecord} {status : RecordStatus}
    (h : KeysDistinct l.records) (hrecord : record ∈ l.records)
    (hr : r ∈ (l.dispatch record status).records) (hk : r.key = record.key) :
    r.status = status := by
  have hmem : { record with status } ∈ (l.dispatch record status).records := by
    have hset := mem_setStatus record.key status h hrecord
    rw [if_pos rfl] at hset
    exact hset
  have hsame := eq_of_key_eq (keysDistinct_dispatch record status h) hr hmem hk
  rw [hsame]

end BankReconciliation.Store.Ledger
