import Mathlib.Order.Defs.Unbundled
import TopicBus.Operation

/-!
Where operations lead. An operation follows a preorder on states if its state afterwards stands in
that relation to the one before, whatever the outcome; it yields a property if all that it returns
has it; it is unrefused if its only failures are faults. All three go along a sequence.
-/

namespace TopicBus.Op

variable {σ τ α β : Type}

instance {part : σ → τ} {rel : τ → τ → Prop} [IsPreorder τ rel] :
    IsPreorder σ (InvImage rel part) where
  refl state := refl (part state)
  trans _ _ _ hab hbc := IsTrans.trans (part _) _ _ hab hbc

theorem exec_bind_eq_ok {op : Op σ α} {next : α → Op σ β} {state : σ} {log : Log} {b : β}
    (h : ((op >>= next).exec state log).1.1 = .ok b) :
    ∃ a middle rest, op.exec state log = ((.ok a, middle), rest) ∧
      ((next a).exec middle rest).1.1 = .ok b := by
  rw [exec_bind] at h
  generalize op.exec state log = result at h ⊢
  obtain ⟨⟨failure | a, middle⟩, rest⟩ := result
  · cases h
  · exact ⟨a, middle, rest, rfl, h⟩

theorem exec_liftFault_bind_eq_ok {result : Except Fault α} {next : α → Op σ β} {state after : σ}
    {log log' : Log} {b : β}
    (h : ((liftM result : Op σ α) >>= next).exec state log = ((.ok b, after), log')) :
    ∃ a, (next a).exec state log = ((.ok b, after), log') := by
  rw [exec_bind, exec_liftFault] at h
  cases result with
  | error fault => cases h
  | ok a => exact ⟨a, h⟩

/-- Every execution leads from a state to a related one. -/
def Follows (rel : σ → σ → Prop) (op : Op σ α) : Prop :=
  ∀ state log, rel state (op.exec state log).1.2

section Follows

variable {rel : σ → σ → Prop}

theorem Follows.mono {wider : σ → σ → Prop} {op : Op σ α} (hop : op.Follows rel)
    (h : ∀ before after, rel before after → wider before after) : op.Follows wider :=
  fun state log => h _ _ (hop state log)

theorem Follows.ite {c : Prop} [Decidable c] {a b : Op σ α} (ha : a.Follows rel)
    (hb : b.Follows rel) : Follows rel (if c then a else b) := by
  split
  · exact ha
  · exact hb

theorem Follows.within {inner : τ → τ → Prop} {part : σ → τ} {put : τ → σ → σ} {op : Op τ α}
    (hop : op.Follows inner) (hput : ∀ state part', inner (part state) part' →
      rel state (put part' state)) : (op.within part put).Follows rel := by
  intro state log
  rw [exec_within]
  exact hput state _ (hop (part state) log)

theorem Follows.onSource {op : Op σ α} (hop : op.Follows rel) :
    op.onSource.Follows (InvImage rel Reading.source) := fun call log => hop call.source log

theorem Follows.lending {op : Op (Reading σ) α} (buffer : Bytes)
    (hop : op.Follows (InvImage rel Reading.source)) : (op.lending buffer).Follows rel :=
  fun state log => hop ⟨state, buffer⟩ log

theorem Follows.attempt {op : Op σ α} (hop : op.Follows rel) : op.attempt.Follows rel :=
  fun state log => hop state log

theorem Follows.of_map {f : α → β} {op : Op σ α} (h : (f <$> op).Follows rel) : op.Follows rel := by
  intro state log
  have hmap := h state log
  rw [exec_map] at hmap
  exact hmap

variable [IsPreorder σ rel]

theorem Follows.pure (a : α) : Follows rel (Pure.pure a : Op σ α) := fun state _ => refl state

theorem Follows.throw (failure : Failure) : Follows rel (throw failure : Op σ α) :=
  fun state _ => refl state

theorem Follows.get : Follows rel (get : Op σ σ) := fun state _ => refl state

theorem Follows.log (entry : LogEntry) : Follows rel (Op.log entry) := fun state _ => refl state

theorem Follows.liftFault (result : Except Fault α) : Follows rel (liftM result : Op σ α) :=
  fun state _ => refl state

theorem Follows.liftRefusal (result : Except Refusal α) : Follows rel (liftM result : Op σ α) :=
  fun state _ => refl state

theorem Follows.liftFailure (result : Except Failure α) : Follows rel (liftM result : Op σ α) :=
  fun state _ => refl state

theorem Follows.bind {op : Op σ α} {next : α → Op σ β} (hop : op.Follows rel)
    (hnext : ∀ a, (next a).Follows rel) : (op >>= next).Follows rel := by
  intro state log
  have hfirst := hop state log
  rw [exec_bind]
  generalize op.exec state log = result at hfirst ⊢
  obtain ⟨⟨failure | a, middle⟩, rest⟩ := result
  · exact hfirst
  · exact IsTrans.trans _ _ _ hfirst (hnext a middle rest)

theorem Follows.mapM {f : β → Op σ α} (hf : ∀ b, (f b).Follows rel) (entries : List β) :
    Follows rel (entries.mapM f) := by
  induction entries with
  | nil => exact Follows.pure []
  | cons entry entries ih =>
      rw [List.mapM_cons]
      exact (hf entry).bind fun _ => ih.bind fun _ => Follows.pure _

theorem Follows.forM {f : β → Op σ PUnit} (hf : ∀ b, (f b).Follows rel) (entries : List β) :
    Follows rel (entries.forM f) := by
  induction entries with
  | nil => exact Follows.pure PUnit.unit
  | cons entry entries ih => exact (hf entry).bind fun _ => ih

end Follows

/-- Whatever an execution returns has the property. -/
def Yields (post : α → Prop) (op : Op σ α) : Prop :=
  ∀ state log a, (op.exec state log).1.1 = .ok a → post a

theorem Yields.pure {post : α → Prop} {a : α} (h : post a) :
    Yields post (Pure.pure a : Op σ α) := by
  rintro _ _ _ ⟨⟩
  exact h

theorem Yields.throw {post : α → Prop} (failure : Failure) :
    Yields post (throw failure : Op σ α) := by
  rintro _ _ _ ⟨⟩

theorem Yields.bind {post : β → Prop} (op : Op σ α) {next : α → Op σ β}
    (hnext : ∀ a, (next a).Yields post) : (op >>= next).Yields post := by
  intro state log b hb
  obtain ⟨a, middle, rest, -, hrest⟩ := exec_bind_eq_ok hb
  exact hnext a middle rest b hrest

def Unrefused (op : Op σ α) : Prop :=
  ∀ state log reason, (op.exec state log).1.1 ≠ .error (.refused reason)

theorem Unrefused.pure (a : α) : Unrefused (Pure.pure a : Op σ α) := by
  rintro _ _ _ ⟨⟩

theorem Unrefused.get : Unrefused (get : Op σ σ) := by
  rintro _ _ _ ⟨⟩

theorem Unrefused.set (state : σ) : Unrefused (set state : Op σ PUnit) := by
  rintro _ _ _ ⟨⟩

theorem Unrefused.modify (f : σ → σ) : Unrefused (modify f : Op σ PUnit) := by
  rintro _ _ _ ⟨⟩

theorem Unrefused.fail (fault : Fault) : Unrefused (Op.fail fault : Op σ α) := by
  rintro _ _ _ ⟨⟩

theorem Unrefused.liftOk (a : α) :
    Unrefused (liftM (Except.ok a : Except Refusal α) : Op σ α) := by
  rintro _ _ _ ⟨⟩

theorem Unrefused.liftFault (result : Except Fault α) : Unrefused (liftM result : Op σ α) := by
  intro state log reason
  rw [exec_liftFault]
  rcases result with fault | a
  · rintro ⟨⟩
  · rintro ⟨⟩

theorem Unrefused.bind {op : Op σ α} {next : α → Op σ β} (hop : op.Unrefused)
    (hnext : ∀ a, (next a).Unrefused) : (op >>= next).Unrefused := by
  intro state log reason
  have hfirst := hop state log reason
  rw [exec_bind]
  generalize op.exec state log = result at hfirst ⊢
  obtain ⟨⟨failure | a, middle⟩, rest⟩ := result
  · intro he
    apply hfirst
    simpa using he
  · exact hnext a middle rest reason

theorem Unrefused.ite {c : Prop} [Decidable c] {a b : Op σ α} (ha : a.Unrefused)
    (hb : b.Unrefused) : Unrefused (if c then a else b) := by
  split
  · exact ha
  · exact hb

end TopicBus.Op
