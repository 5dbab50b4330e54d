import BankReconciliation.Proofs.Interleaving.Listing
import BankReconciliation.Proofs.Service.Isolation

/-! Operations of different churches have nothing to do with one another. Both find the same
whichever comes first, and in the end the stores hold the same. -/

namespace BankReconciliation

open Store (Statements Ledger)

namespace Service

/-- What a request comes to with a provision, and the memory that it leaves. -/
def Request.serve (setup : ImportSetup) (request : Request) (v : Provision) (m : Memory) :
    Program.Outcome Response × Memory :=
  let served := (request.task setup).run Memory.answerWith (v, m)
  (served.1, served.2.2)

/-- The token of a request, if it has one that is read, names a stored statement of its church. -/
def Request.OwnToken (request : Request) (stored : Statements) : Prop :=
  ∀ id ∈ request.party.token, ∃ s ∈ stored, s.id = id ∧ s.churchId = request.party.churchId

def Request.FilesApart (a b : Request) (files : Files) : Prop :=
  ∀ x ∈ a.party.location, ∀ y ∈ b.party.location, files.Apart x y

end Service

namespace Memory

/-- The statements and records of the other churches are as they were. -/
structure Spares (churchId : String) (m m' : Memory) : Prop where
  statements : ∀ other ≠ churchId, m'.statements.ofChurch other = m.statements.ofChurch other
  records : ∀ other ≠ churchId,
    Ledger.ofChurch m'.ledger.records other = Ledger.ofChurch m.ledger.records other

/-- The same records in their order, and the same statements, those of each church in their
order. -/
structure SameContents (m m' : Memory) : Prop where
  records : m.ledger.records = m'.ledger.records
  parts : ∀ churchId, m.statements.ofChurch churchId = m'.statements.ofChurch churchId
  statements : m.statements.Perm m'.statements

end Memory

/-- Two operations, for two churches, of which each comes to the same before and after the other. -/
structure Independent {α β : Type} (f : Memory → α × Memory) (g : Memory → β × Memory)
    (churchId churchId' : String) (m : Memory) : Prop where
  first : (f (g m).2).1 = (f m).1
  second : (g (f m).2).1 = (g m).1
  contents : (g (f m).2).2.SameContents (f (g m).2).2
  spares_first : ∀ n, Memory.Spares churchId n (f n).2
  spares_second : ∀ n, Memory.Spares churchId' n (g n).2

section

variable {κ β : Type} [DecidableEq κ] {a b : κ} {part partA partB partAB partBA : κ → β}

theorem parts_eq_of_changes (hne : a ≠ b) (hA : ∀ c ≠ a, partA c = part c)
    (hB : ∀ c ≠ b, partB c = part c) (hAB : ∀ c ≠ b, partAB c = partA c)
    (hBA : ∀ c ≠ a, partBA c = partB c) (ha : partBA a = partA a) (hb : partAB b = partB b)
    (c : κ) : partAB c = partBA c := by
  by_cases hca : c = a
  · subst hca
    rw [hAB c hne, ha]
  by_cases hcb : c = b
  · subst hcb
    rw [hBA c hca, hb]
  · rw [hAB c hcb, hA c hca, hBA c hca, hB c hcb]

end

namespace Memory

open Service

variable {setup : ImportSetup} {m : Memory} {a b : Request}

theorem spares_serve (ha : a.isQueueing = false) (v : Provision) (n : Memory) :
    n.Spares a.party.churchId (a.serve setup v n).2 := by
  have hleaves := leaves_run (keepsTo_task setup ha) v n
  exact ⟨hleaves.statements, hleaves.records⟩

theorem ownToken_of_nodup (hids : (m.statements.map Statement.id).Nodup)
    (ht : a.OwnToken m.statements) :
    m.statements.OwnToken a.party.churchId a.party.token := by
  intro id hid
  obtain ⟨s, hs, rfl, hchurch⟩ := ht id hid
  exact hchurch ▸ Statements.ownToken_of_mem hids hs s.id rfl

/-- Two requests of different churches are independent in every memory in which the identifiers of
the statements differ. -/
theorem independent_of_nodup (hids : (m.statements.map Statement.id).Nodup)
    (ha : a.isQueueing = false) (hb : b.isQueueing = false)
    (hne : a.party.churchId ≠ b.party.churchId) (hta : a.OwnToken m.statements)
    (htb : b.OwnToken m.statements) (hfiles : a.FilesApart b m.files) (v w : Provision) :
    Independent (a.serve setup v) (b.serve setup w) a.party.churchId b.party.churchId m := by
  have hkeepsA := keepsTo_task setup ha
  have hkeepsB := keepsTo_task setup hb
  have hownA := ownToken_of_nodup hids hta
  have hownB := ownToken_of_nodup hids htb
  have hA : m.Leaves a.party (a.serve setup v m).2 := leaves_run hkeepsA v m
  have hB : m.Leaves b.party (b.serve setup w m).2 := leaves_run hkeepsB w m
  have hAB := leaves_run hkeepsB w (a.serve setup v m).2
  have hBA := leaves_run hkeepsA v (b.serve setup w m).2
  -- neither sees what the other does, and so each of them runs as it does on the memory at first
  have halikeA : m.Alike a.party (b.serve setup w m).2 := hB.alike hne hfiles
  have halikeB : m.Alike b.party (a.serve setup v m).2 :=
    hA.alike hne.symm fun y hy x hx => (hfiles x hx y hy).symm
  obtain ⟨hfirst, hseenA⟩ := halikeA.run hkeepsA hownA (hownA.mono hB.names) v
  obtain ⟨hsecond, hseenB⟩ := halikeB.run hkeepsB hownB (hownB.mono hA.names) w
  have hstatements := parts_eq_of_changes hne hA.statements hB.statements hAB.statements
    hBA.statements hseenA.statements.symm hseenB.statements.symm
  have hrecords := parts_eq_of_changes hne hA.records hB.records hAB.records hBA.records
    hseenA.records.symm hseenB.records.symm
  have hkeys := (hAB.keys.trans hA.keys).trans (hBA.keys.trans hB.keys).symm
  have hchurches := congrArg (List.map Prod.fst) hkeys
  rw [List.map_map, List.map_map] at hchurches
  exact {
    first := hfirst.symm
    second := hsecond.symm
    contents := ⟨eq_of_parts hchurches hrecords, hstatements, perm_of_parts hstatements⟩
    spares_first := spares_serve ha v
    spares_second := spares_serve hb w }

end Memory

namespace System

variable {setup : ImportSetup} {admits : System → Service.Request → Prop} {S S₀ : System}
  {a b : Service.Request}

/-- In a store that was filled by the service, an import, a retry, a link by hand or a listing for
one church and another such operation for another church are independent, whatever identifiers and
clock readings they are given. -/
theorem independent_of_reaches (hunused : S₀.Unused) (hempty : S₀.memory.statements = [])
    (h : Reaches setup admits S₀ S) (hfresh : S.memory.IdsFresh)
    (ha : a.isQueueing = false) (hb : b.isQueueing = false)
    (hne : a.party.churchId ≠ b.party.churchId) (hta : a.OwnToken S.memory.statements)
    (htb : b.OwnToken S.memory.statements) (hfiles : a.FilesApart b S.memory.files)
    (v w : Provision) :
    Independent (a.serve setup v) (b.serve setup w) a.party.churchId b.party.churchId S.memory :=
  Memory.independent_of_nodup ((Sound.of_empty hunused hempty).reaches h hfresh).1.nodup ha hb hne
    hta htb hfiles v w

end System

namespace Sample

/-- Two churches with a record each, which differ in nothing but the church, and a file each. -/
def neighbours : Memory :=
  { memory with
    ledger := { records := [record, { record with churchId := "other" }] }
    files := [(["a.csv"], .file []), (["b.csv"], .file [])] }

def neighbouring : System := ⟨neighbours, fun _ => none⟩

def importFor (churchId location : String) : Service.Request :=
  .importFile { job with churchId, location }

def provisionFrom (n : Nat) : Provision := ⟨fun _ => .midnight day, fun i => .ofNat (n + i)⟩

theorem filesApart_neighbours :
    (importFor "church" "a.csv").FilesApart (importFor "other" "b.csv") neighbours.files := by
  have hresolve : ∀ location ∈ ["a.csv", "b.csv"],
      neighbours.files.resolve location = .ok [location] := by
    intro location hlocation
    have hnames : Files.refusal? location = none := by
      rw [Files.refusal?_eq_none_iff]
      revert location
      decide
    rw [Files.resolve, hnames]
    clear hnames
    revert location
    decide
  rintro x hx y hy
  obtain rfl := Option.some.inj hx
  obtain rfl := Option.some.inj hy
  exact Files.apart_of_resolve_ne (hresolve "a.csv" (by decide)) (hresolve "b.csv" (by decide))
    (by decide)

theorem ownToken_importFor (churchId location : String) (stored : Store.Statements) :
    (importFor churchId location).OwnToken stored :=
  fun _ hid => nomatch hid

end Sample

namespace System

/-- Two churches import the same line from files of their own, and each of them has a record that
fits it, with the same id. -/
theorem independent_of_reaches_neighbours :
    Independent
      ((Sample.importFor "church" "a.csv").serve (Sample.reading [Sample.line "x"])
        (Sample.provisionFrom 0))
      ((Sample.importFor "other" "b.csv").serve (Sample.reading [Sample.line "x"])
        (Sample.provisionFrom 1))
      "church" "other" Sample.neighbours := by
  have hreach : Reaches (Sample.reading [Sample.line "x"]) anything Sample.neighbouring
    Sample.neighbouring := .refl
  exact independent_of_reaches (fun _ => rfl) rfl hreach (by decide) rfl rfl (by decide)
    (Sample.ownToken_importFor _ _ _) (Sample.ownToken_importFor _ _ _)
    Sample.filesApart_neighbours _ _

end System

end BankReconciliation
