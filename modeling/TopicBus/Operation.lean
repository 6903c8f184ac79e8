import TopicBus.Bytes
import TopicBus.Log

/-!
Operations: what changes a state of type `σ`, may fail and may write to the log. What an operation
changed or logged before it failed stays.
-/

namespace TopicBus

abbrev Op (σ α : Type) := ExceptT Failure (StateT σ (StateM Log)) α

/-- What a call that reads works on: the source, and the buffer that the caller lends. -/
structure Reading (σ : Type) where
  source : σ
  buffer : Bytes

instance {m : Type → Type} [Monad m] : MonadLift (Except Refusal) (ExceptT Failure m) where
  monadLift result := ExceptT.mk (pure (result.mapError .refused))

instance {m : Type → Type} [Monad m] : MonadLift (Except Fault) (ExceptT Failure m) where
  monadLift result := ExceptT.mk (pure (result.mapError .fault))

namespace Op

variable {σ τ α : Type}

def exec (op : Op σ α) (state : σ) (log : Log) : (Except Failure α × σ) × Log :=
  op state log

def refuse (reason : Refusal) : Op σ α := throw (.refused reason)

def fail (fault : Fault) : Op σ α := throw (.fault fault)

def log (entry : LogEntry) : Op σ Unit :=
  fun state log => ((.ok (), state), log.push entry)

def attempt (op : Op σ α) : Op σ (Except Failure α) := fun state log =>
  let ((outcome, state), log) := op.exec state log
  ((.ok outcome, state), log)

def within (part : σ → τ) (put : τ → σ → σ) (op : Op τ α) : Op σ α := fun state log =>
  let ((outcome, inner), log) := op.exec (part state) log
  ((outcome, put inner state), log)

/-- An operation on a part that the state may lack. -/
def withinSome (part : σ → Option τ) (put : τ → σ → σ) (missing : Failure) (op : Op τ α) :
    Op σ α := fun state log =>
  match part state with
  | none => ((.error missing, state), log)
  | some inner => op.within (fun _ => inner) put state log

def onSource (op : Op σ α) : Op (Reading σ) α :=
  op.within Reading.source fun source call => { call with source }

/-- An operation with a buffer of its own, which it hands back. -/
def lending (buffer : Bytes) (op : Op (Reading σ) α) : Op σ (α × Bytes) := fun state log =>
  let ((outcome, call), log) := op.exec ⟨state, buffer⟩ log
  ((outcome.map (·, call.buffer), call.source), log)

section Exec

variable {β : Type} (state : σ) (log : Log)

@[simp] theorem exec_pure (a : α) : (pure a : Op σ α).exec state log = ((.ok a, state), log) := rfl

theorem exec_bind (op : Op σ α) (next : α → Op σ β) :
    (op >>= next).exec state log =
      match op.exec state log with
      | ((.ok a, state), log) => (next a).exec state log
      | ((.error failure, state), log) => ((.error failure, state), log) := by
  simp only [exec, bind, ExceptT.bind, ExceptT.mk, StateT.bind]
  rcases op state log with ⟨⟨_ | _, _⟩, _⟩ <;> rfl

theorem exec_map (f : α → β) (op : Op σ α) :
    (f <$> op).exec state log =
      (((op.exec state log).1.1.map f, (op.exec state log).1.2), (op.exec state log).2) := by
  rw [map_eq_pure_bind, exec_bind]
  rcases op.exec state log with ⟨⟨_ | _, _⟩, _⟩ <;> rfl

@[simp] theorem exec_get : (get : Op σ σ).exec state log = ((.ok state, state), log) := rfl

@[simp] theorem exec_set (new : σ) :
    (set new : Op σ PUnit).exec state log = ((.ok ⟨⟩, new), log) := rfl

@[simp] theorem exec_modify (f : σ → σ) :
    (modify f : Op σ PUnit).exec state log = ((.ok ⟨⟩, f state), log) := rfl

@[simp] theorem exec_refuse (reason : Refusal) :
    (refuse reason : Op σ α).exec state log = ((.error (.refused reason), state), log) := rfl

@[simp] theorem exec_fail (broken : Fault) :
    (fail broken : Op σ α).exec state log = ((.error (.fault broken), state), log) := rfl

@[simp] theorem exec_log (entry : LogEntry) :
    (Op.log entry).exec state log = ((.ok (), state), log.push entry) := rfl

@[simp] theorem exec_liftRefusal (result : Except Refusal α) :
    (liftM result : Op σ α).exec state log = ((result.mapError .refused, state), log) := rfl

@[simp] theorem exec_liftFault (result : Except Fault α) :
    (liftM result : Op σ α).exec state log = ((result.mapError .fault, state), log) := rfl

@[simp] theorem exec_liftFailure (result : Except Failure α) :
    (liftM result : Op σ α).exec state log = ((result, state), log) := rfl

theorem exec_within (part : σ → τ) (put : τ → σ → σ) (op : Op τ α) :
    (op.within part put).exec state log =
      (((op.exec (part state) log).1.1, put (op.exec (part state) log).1.2 state),
        (op.exec (part state) log).2) := rfl

theorem exec_onSource (op : Op σ α) (call : Reading σ) :
    op.onSource.exec call log =
      (((op.exec call.source log).1.1, { call with source := (op.exec call.source log).1.2 }),
        (op.exec call.source log).2) := rfl

theorem exec_lending (buffer : Bytes) (op : Op (Reading σ) α) :
    (op.lending buffer).exec state log =
      (((op.exec ⟨state, buffer⟩ log).1.1.map (·, (op.exec ⟨state, buffer⟩ log).1.2.buffer),
        (op.exec ⟨state, buffer⟩ log).1.2.source), (op.exec ⟨state, buffer⟩ log).2) := rfl

theorem exec_attempt (op : Op σ α) :
    op.attempt.exec state log =
      ((.ok (op.exec state log).1.1, (op.exec state log).1.2), (op.exec state log).2) := rfl

end Exec

end Op

end TopicBus
