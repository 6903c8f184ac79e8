import TopicBus.Proofs.Bus.Trace
import TopicBus.Proofs.Session.Sound

namespace TopicBus

/-- Listed topics are in use as what they are. -/
def Session.Fitting (session : Session) : Prop :=
  ∀ id entry, session.registry.directory.get? id = some entry → entry.topic.Held session.bus

variable {session after : Session} {events : List Bus.Event}

namespace Session

def Traced (before after : Session) : Prop :=
  (∃ events, Bus.Run before.bus events after.bus) ∧ after.Fitting

theorem Fitting.traced (hfit : session.Fitting) (hsound : session.bus.Sound)
    (hrun : Bus.Run session.bus events after.bus)
    (hlists : ∀ id entry, after.registry.directory.get? id = some entry →
      session.registry.directory.get? id = some entry) : session.Traced after :=
  ⟨⟨events, hrun⟩, fun id entry hget => (hfit id entry (hlists id entry hget)).run hsound hrun⟩

theorem Fitting.kept (hfit : session.Fitting) (h : Registry.Kept session after) :
    session.Traced after := by
  constructor
  · rw [h.bus_eq]
    exact ⟨[], .nil session.bus⟩
  · intro id entry hget
    rw [h.directory_eq] at hget
    rw [h.bus_eq]
    exact hfit id entry hget

theorem Fitting.effect (hfit : session.Fitting) (h : session.Sound)
    (hrun : Bus.Run session.bus events after.bus) {outcome : Except Failure Registry.Reply}
    (heffect : Registry.Effect session after outcome) : session.Traced after := by
  cases heffect with
  | kept kept lists keeps => exact hfit.kept kept
  | left id entry removed settings_eq answer bus_eq =>
      exact hfit.traced h.bus hrun fun _ _ hget => Directory.get?_remove removed hget
  | entered kind spec ring topic makes name_eq vacant room fresh storage_eq bus_eq inserted
      settings_eq answer =>
      obtain ⟨other, hother, hfresh⟩ :=
        h.coherent.directory.freshId_eq_ok (room.trans_le h.coherent.max_le)
      obtain rfl := Except.ok.inj (hother.symm.trans fresh)
      refine ⟨⟨events, hrun⟩, fun id entry hget => ?_⟩
      rcases (hfresh.get?_insert inserted).mp hget with ⟨-, rfl⟩ | hold
      · rw [bus_eq]
        apply Topic.Held.of_layout
        · rw [storage_eq]
          exact Array.getElem?_push_size
        · exact (Layout.create_eq_ok makes.layout_eq).1
      · exact (hfit id entry hold).run h.bus hrun

end Session

end TopicBus
