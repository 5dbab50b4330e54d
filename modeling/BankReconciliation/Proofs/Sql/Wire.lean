import BankReconciliation.Sql.Statements
import BankReconciliation.Proofs.Transcript

/-! What a query sends to a server, and what the program makes of the answer. -/

namespace BankReconciliation.Sql

variable {α β : Type}

def Command.isRefusal : (c : Command) → c.Answer → Bool
  | .begin, a | .commit, a | .rollback, a => !Except.isOk a
  | .query _, a => !Except.isOk a

def Refused (x : Interface.Exchange Wire) : Prop := Command.isRefusal x.request x.answer = true

def Command.params : Command → List Value
  | .query q => q.params
  | _ => []

def sent (es : List (Interface.Exchange Wire)) : List Command := es.map fun x => x.request

theorem sent_append (xs ys : List (Interface.Exchange Wire)) :
    sent (xs ++ ys) = sent xs ++ sent ys := List.map_append

section Script

variable {script script' : List Command} {es es' : List (Interface.Exchange Wire)}

structure Completes (script : List Command) (es : List (Interface.Exchange Wire)) : Prop where
  sent_eq : sent es = script
  not_refused : ∀ x ∈ es, ¬ Refused x

/-- The commands are sent in their order up to one, and none before that one is refused. -/
structure BreaksOff (script : List Command) (es : List (Interface.Exchange Wire)) : Prop where
  sent_prefix : sent es <+: script
  ne_nil : es ≠ []
  not_refused : ∀ x ∈ es.dropLast, ¬ Refused x

theorem completes_nil : Completes [] [] := ⟨rfl, by simp⟩

theorem completes_singleton {c : Command} {a : c.Answer} (h : ¬ Refused ⟨c, a⟩) :
    Completes [c] [⟨c, a⟩] := ⟨rfl, by simpa using h⟩

theorem breaksOff_singleton (c : Command) (a : c.Answer) : BreaksOff [c] [⟨c, a⟩] :=
  ⟨List.prefix_rfl, by simp, by simp⟩

theorem Completes.append (h : Completes script es) (h' : Completes script' es') :
    Completes (script ++ script') (es ++ es') := by
  refine ⟨by rw [sent_append, h.sent_eq, h'.sent_eq], fun x hx => ?_⟩
  rcases List.mem_append.mp hx with hx | hx
  · exact h.not_refused x hx
  · exact h'.not_refused x hx

theorem Completes.append_breaksOff (h : Completes script es) (h' : BreaksOff script' es') :
    BreaksOff (script ++ script') (es ++ es') := by
  refine ⟨?_, by simp [h'.ne_nil], fun x hx => ?_⟩
  · rw [sent_append, h.sent_eq]
    exact (List.prefix_append_right_inj script).mpr h'.sent_prefix
  · rw [List.dropLast_append_of_ne_nil h'.ne_nil] at hx
    rcases List.mem_append.mp hx with hx | hx
    · exact h.not_refused x hx
    · exact h'.not_refused x hx

theorem BreaksOff.append (h : BreaksOff script es) (script' : List Command) :
    BreaksOff (script ++ script') es :=
  ⟨h.sent_prefix.trans (List.prefix_append _ _), h.ne_nil, h.not_refused⟩

theorem BreaksOff.eq_nil_of_refused {x : Interface.Exchange Wire}
    {before after : List (Interface.Exchange Wire)} (h : BreaksOff script (before ++ x :: after))
    (hrefused : Refused x) : after = [] := by
  cases after with
  | nil => rfl
  | cons y rest =>
    refine absurd hrefused (h.not_refused x ?_)
    rw [List.dropLast_append_of_ne_nil (List.cons_ne_nil x _),
      List.dropLast_cons_of_ne_nil (List.cons_ne_nil y rest)]
    exact List.mem_append_right _ List.mem_cons_self

end Script

def readAnswer (action : Action) (read : Cells → Except Failure α) (a : Except Failure Result) :
    Except ServiceError (List α) := do
  let r ← explain action a
  explain action (r.rows.mapM read)

def ask (c : Command) (next : c.Answer → Dialogue α) : Dialogue α := .call c next

section Ask

variable {σ : Type} {c : Command} {next : c.Answer → Dialogue α}

theorem run_ask (server : Program.Handler Wire σ) (s : σ) :
    (ask c next).run server s = (next (server c s).1).run server (server c s).2 := rfl

theorem exchanges_ask (server : Program.Handler Wire σ) (s : σ) :
    (ask c next).exchanges server s =
      ⟨c, (server c s).1⟩ :: (next (server c s).1).exchanges server (server c s).2 := rfl

theorem transcript_ask {es : List (Interface.Exchange Wire)} {o : Program.Outcome α}
    (h : (ask c next).Transcript es o) :
    ∃ (a : c.Answer) (rest : List (Interface.Exchange Wire)),
      es = ⟨c, a⟩ :: rest ∧ (next a).Transcript rest o := h

end Ask

theorem run_exec_readRows (action : Action) (pieces : List Piece)
    (read : Cells → Except Failure α) (f : List α → Exchange β) :
    (exec action pieces >>= fun r => readRows action read r >>= f).run =
      ask (.query (.ofPieces pieces)) fun a =>
        match readAnswer action read a with
        | .ok rows => (f rows).run
        | .error e => .done (.error e) := by
  refine congrArg (ask (.query (.ofPieces pieces))) (funext fun a => ?_)
  cases a with
  | error e => rfl
  | ok r =>
    change (readRows action read r >>= f).run = match explain action (r.rows.mapM read) with
      | .ok rows => (f rows).run
      | .error e => .done (.error e)
    rw [readRows]
    cases r.rows.mapM read <;> rfl

namespace Query

theorem valuesOf_append (xs ys : List Piece) : valuesOf (xs ++ ys) = valuesOf xs ++ valuesOf ys :=
  List.filterMap_append

@[simp] theorem valuesOf_sql (text : String) (pieces : List Piece) :
    valuesOf (.sql text :: pieces) = valuesOf pieces := rfl

@[simp] theorem valuesOf_bind (value : Value) (pieces : List Piece) :
    valuesOf (.bind value :: pieces) = value :: valuesOf pieces := rfl

@[simp] theorem valuesOf_nil : valuesOf [] = [] := rfl

theorem valuesOf_intercalate (text : String) (parts : List (List Piece)) :
    valuesOf ([Piece.sql text].intercalate parts) = parts.flatMap valuesOf := by
  induction parts with
  | nil => rfl
  | cons part rest ih =>
    cases rest with
    | nil => simp
    | cons next rest =>
      rw [List.intercalate_cons_cons, valuesOf_append, valuesOf_append, ih]
      simp

theorem valuesOf_tuple (values : List Value) : valuesOf (tuple values) = values := by
  rw [tuple, List.cons_append, valuesOf_sql, valuesOf_append, valuesOf_intercalate,
    valuesOf_sql, valuesOf_nil, List.append_nil, List.flatMap_map]
  exact List.flatMap_singleton' values

end Query

end BankReconciliation.Sql
