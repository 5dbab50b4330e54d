import BankReconciliation.Files
import BankReconciliation.Proofs.Except

/-! Removing a file: the way to its place stays as it was, and nothing stands there any more. -/

namespace BankReconciliation.Files

open Text (Bytes)

/-- The files after one of them was discarded, if it is a local one that can be removed. -/
def discarding (files : Files) (location : String) : Files :=
  if isRemote location then files else (files.remove location).toOption.getD files

def without (files : Files) (path : Path) : Files := List.filter (fun (p, _) => p != path) files

variable {files : Files} {start path other : Path} {location : String} {content : Bytes}

theorem lookup_cons_eq_ite (other p : Path) (e : FileEntry) (files : Files) :
    List.lookup other ((p, e) :: files) =
      if other = p then some e else List.lookup other files := by
  rw [List.lookup_cons]
  by_cases ho : other = p
  · rw [if_pos ho, beq_iff_eq.mpr ho]
  · rw [if_neg ho, beq_eq_false_iff_ne.mpr ho]

theorem lookup_without (files : Files) (path other : Path) :
    List.lookup other (files.without path) =
      if other = path then none else List.lookup other files := by
  induction files with
  | nil => simp [without]
  | cons entry files ih =>
    obtain ⟨p, e⟩ := entry
    rw [lookup_cons_eq_ite]
    by_cases hp : p = path
    · rw [without, List.filter_cons_of_neg (by simp [hp]), ← without, ih, hp]
      split <;> rfl
    · rw [without, List.filter_cons_of_pos (by simpa using hp), ← without, lookup_cons_eq_ite, ih]
      by_cases ho : other = p
      · rw [if_pos ho, if_pos ho, if_neg (ho ▸ hp)]
      · rw [if_neg ho, if_neg ho]

theorem at?_without_of_ne (h : other ≠ path) : (files.without path).at? other = files.at? other := by
  rw [at?, at?, lookup_without, if_neg h]

theorem at?_without_self (h : files.at? path = some (.file content)) :
    (files.without path).at? path = none := by
  have hgiven : ¬ path.isGiven = true := by
    intro hgiven
    rw [at?, if_pos hgiven] at h
    cases h
  rw [at?, if_neg hgiven, lookup_without, if_pos rfl]

/-- The way to a place leads through directories, which are still there when a file is not. -/
theorem walk_without (hfile : files.at? other = some (.file content)) {names : List String}
    (h : files.walk start names = .ok path) :
    (files.without other).walk start names = .ok path := by
  induction names generalizing start with
  | nil => exact h
  | cons name names ih =>
    have hne : start ≠ other := by
      rintro rfl
      rw [walk, hfile] at h
      cases h
    rw [walk] at h ⊢
    rw [at?_without_of_ne hne]
    cases hat : files.at? start with
    | none =>
      rw [hat] at h
      cases h
    | some entry =>
      rw [hat] at h
      cases entry with
      | file c => cases h
      | directory =>
        obtain ⟨next, hnext, h⟩ := Except.bind_eq_ok_iff.mp h
        exact Except.bind_eq_ok_iff.mpr ⟨next, hnext, ih h⟩

theorem refusal?_eq_none_iff : refusal? location = none ↔
    location ≠ "" ∧ '\x00' ∉ location.toList ∧ location.utf8ByteSize ≤ longestLocation := by
  unfold refusal?
  rw [String.contains_char_eq]
  split_ifs <;> simp_all

theorem find_eq_ok_iff {entry : FileEntry} : files.find location = .ok entry ↔
    ∃ path, files.resolve location = .ok path ∧ files.at? path = some entry := by
  rw [find, Except.bind_eq_ok_iff]
  refine exists_congr fun path => and_congr_right fun _ => ?_
  cases files.at? path <;> simp

theorem find_of_absent (hresolve : files.resolve location = .ok path)
    (hat : files.at? path = none) : files.find location = .error .notFound := by
  simp [find, hresolve, hat, bind, Except.bind]

theorem remove_of_file (hresolve : files.resolve location = .ok path)
    (hfile : files.at? path = some (.file content)) :
    files.remove location = .ok (files.without path) := by
  refine Except.bind_eq_ok_iff.mpr ⟨path, hresolve, ?_⟩
  rw [hfile]
  rfl

theorem resolve_without (hresolve : files.resolve location = .ok path)
    (hfile : files.at? other = some (.file content)) :
    (files.without other).resolve location = .ok path := by
  unfold resolve at hresolve ⊢
  cases hrefusal : refusal? location with
  | some e =>
    rw [hrefusal] at hresolve
    cases hresolve
  | none =>
    rw [hrefusal] at hresolve
    exact walk_without hfile hresolve

theorem map_remove (files : Files) (location : String) : (files.remove location).map (fun _ => ()) =
    match files.find location with
    | .ok (.file _) => .ok ()
    | .ok .directory => .error .isDirectory
    | .error e => .error e := by
  cases hresolve : files.resolve location with
  | error e => simp [remove, find, hresolve, bind, Except.bind, Except.map]
  | ok path =>
    rcases hat : files.at? path with _ | (_ | _) <;>
      simp [remove, find, hresolve, hat, bind, Except.bind, Except.map]

theorem find_discarding (hlocal : isRemote location = false)
    (h : files.find location = .ok (.file content)) :
    (files.discarding location).find location = .error .notFound := by
  obtain ⟨path, hresolve, hfile⟩ := find_eq_ok_iff.mp h
  rw [discarding, if_neg (by simp [hlocal]), remove_of_file hresolve hfile]
  exact find_of_absent (resolve_without hresolve hfile) (at?_without_self hfile)

theorem discarding_of_not_file (h : ∀ content, files.find location ≠ .ok (.file content)) :
    files.discarding location = files := by
  have hremove := map_remove files location
  unfold discarding
  split
  · rfl
  · cases hfound : files.remove location with
    | error e => rfl
    | ok rest =>
      rw [hfound] at hremove
      rcases hfind : files.find location with e | (content | _)
      · rw [hfind] at hremove
        cases hremove
      · exact absurd hfind (h content)
      · rw [hfind] at hremove
        cases hremove

theorem discarding_discarding (files : Files) (location : String) :
    (files.discarding location).discarding location = files.discarding location := by
  by_cases hremote : isRemote location = true
  · rw [discarding, if_pos hremote]
  by_cases hfile : ∃ content, files.find location = .ok (.file content)
  · obtain ⟨content, hfile⟩ := hfile
    have hgone := find_discarding (by simpa using hremote) hfile
    refine discarding_of_not_file fun c hc => ?_
    rw [hgone] at hc
    cases hc
  · have hsame := discarding_of_not_file (not_exists.mp hfile)
    rw [hsame, hsame]

theorem find_discarding_congr {files' : Files} (h : files.find location = files'.find location) :
    (files.discarding location).find location = (files'.discarding location).find location := by
  by_cases hremote : isRemote location = true
  · rw [discarding, discarding, if_pos hremote, if_pos hremote, h]
  by_cases hfile : ∃ content, files.find location = .ok (.file content)
  · obtain ⟨content, hfile⟩ := hfile
    have hlocal : isRemote location = false := by simpa using hremote
    rw [find_discarding hlocal hfile, find_discarding hlocal (h ▸ hfile)]
  · rw [discarding_of_not_file (not_exists.mp hfile),
      discarding_of_not_file (h ▸ not_exists.mp hfile), h]

/-- Files that have nothing to do with one another: discarding one leaves what is found at the
other. -/
def Apart (files : Files) (a b : String) : Prop :=
  (files.discarding a).find b = files.find b ∧ (files.discarding b).find a = files.find a

theorem Apart.symm {a b : String} (h : files.Apart a b) : files.Apart b a := ⟨h.2, h.1⟩

theorem find_discarding_of_ne {a b : String} (ha : files.resolve a = .ok path)
    (hb : files.resolve b = .ok other) (hne : path ≠ other) :
    (files.discarding a).find b = files.find b := by
  by_cases hremote : isRemote a = true
  · rw [discarding, if_pos hremote]
  by_cases hfile : ∃ content, files.at? path = some (.file content)
  · obtain ⟨content, hfile⟩ := hfile
    have hway := resolve_without hb hfile
    rw [discarding, if_neg hremote, remove_of_file ha hfile]
    simp only [Except.toOption, Option.getD_some, find, hway, hb, bind, Except.bind,
      at?_without_of_ne hne.symm]
  · rw [discarding_of_not_file]
    intro content hfound
    obtain ⟨path', hpath, hat⟩ := find_eq_ok_iff.mp hfound
    rw [ha] at hpath
    obtain rfl := Except.ok.inj hpath
    exact hfile ⟨content, hat⟩

theorem apart_of_resolve_ne {a b : String} (ha : files.resolve a = .ok path)
    (hb : files.resolve b = .ok other) (hne : path ≠ other) : files.Apart a b :=
  ⟨find_discarding_of_ne ha hb hne, find_discarding_of_ne hb ha hne.symm⟩

end BankReconciliation.Files
