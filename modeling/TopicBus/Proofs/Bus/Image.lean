import TopicBus.Proofs.Bus.Trace
import TopicBus.Proofs.Ring.Image

namespace TopicBus

open Op

variable {kind : Kind} {storage : Storage} {queue : Queue} {log : Log}

theorem Ring.image_of_run {capacity memory : Nat} {layout : Layout} {ring ring' : Ring}
    {events : List Event} (hring : create capacity layout memory = .ok ring)
    (hrun : Run ring events ring') (epoch : Nat) :
    ∃ found, ring'.slotImage epoch = .ok found ∧
      Imaged layout capacity (accepted events) epoch found := by
  have hnone : ([] : List Bytes).length < 2 ^ 63 := by decide
  obtain ⟨queue, hholds, htraced⟩ := hrun.holds (create_holds hring) hnone
  have hfound := hholds.slotImage_imaged htraced.length_lt epoch
  rw [htraced.extends_eq.layout_eq, htraced.extends_eq.capacity_eq,
    htraced.extends_eq.history_eq] at hfound
  exact hfound

theorem Topic.image_of_run {spec : TopicSpec} {id : TopicId} {before made after : Bus}
    {log log' : Log} {topic : Topic kind} {events : List Bus.Event}
    (hmade : (Topic.ofSpec kind spec id).exec before log = ((.ok topic, made), log'))
    (hrun : Bus.Run made events after) (hstorage : after.storages[topic.storage]? = some storage)
    (hlive : storage.released = false) :
    ∃ layout, Layout.create kind spec.payloadSize = .ok layout ∧ ∀ epoch, ∃ found,
      (∀ log, (topic.slotImage epoch).exec after log = ((.ok found, after), log)) ∧
        Imaged layout spec.capacity (Bus.accepted topic.storage events) epoch found := by
  obtain ⟨storage', queue, hstorage', hqueue, hlayout, hcapacity, hhistory, hfew⟩ :=
    topic.storage_of_run hmade hrun
  obtain rfl := Option.some.inj (hstorage'.symm.trans hstorage)
  refine ⟨queue.layout, hlayout, fun epoch => ?_⟩
  obtain ⟨found, hfound, himaged⟩ := hqueue.slotImage_imaged hfew epoch
  rw [hcapacity, hhistory] at himaged
  refine ⟨found, fun log => ?_, himaged⟩
  exact topic.access_still hstorage (Storage.slotImage_live hlive hfound)

/-- Whatever was asked of a new ring, or of a bus since a topic that is live still was made: a look
at any epoch finds its image exactly while no later payload has its slot. -/
theorem images_of_runs :
    (∀ {capacity memory : Nat} {layout : Layout} {ring ring' : Ring} {events : List Ring.Event},
      Ring.create capacity layout memory = .ok ring → Ring.Run ring events ring' →
      ∀ epoch, ∃ found, ring'.slotImage epoch = .ok found ∧
        Imaged layout capacity (Ring.accepted events) epoch found) ∧
    ∀ {kind : Kind} {spec : TopicSpec} {id : TopicId} {before made after : Bus} {log log' : Log}
      {topic : Topic kind} {events : List Bus.Event} {storage : Storage},
      (Topic.ofSpec kind spec id).exec before log = ((.ok topic, made), log') →
      Bus.Run made events after → after.storages[topic.storage]? = some storage →
      storage.released = false →
      ∃ layout, Layout.create kind spec.payloadSize = .ok layout ∧ ∀ epoch, ∃ found,
        (∀ log, (topic.slotImage epoch).exec after log = ((.ok found, after), log)) ∧
          Imaged layout spec.capacity (Bus.accepted topic.storage events) epoch found :=
  ⟨Ring.image_of_run, Topic.image_of_run⟩

/-- One byte where two lay before, in a ring of its own and in that of a topic. -/
theorem images_of_runs_short :
    let image : Bytes := [2, 0, 0, 0, 0, 0, 0, 0, 1, 0, 0, 0, 3, 2, 0, 0]
    (∃ (ring : Ring) (events : List Ring.Event), Ring.accepted events = [[1, 2], [3]] ∧
      ring.slotImage 2 = .ok (some image) ∧
      Imaged ⟨.byte, 4, by decide, by decide⟩ 1 [[1, 2], [3]] 2 (some image)) ∧
    ∃ (topic : Topic .byte) (events : List Bus.Event) (bus : Bus) (layout : Layout),
      Bus.accepted topic.storage events = [[1, 2], [3]] ∧
      (∀ log, (topic.slotImage 2).exec bus log = ((.ok (some image), bus), log)) ∧
      Imaged layout 1 [[1, 2], [3]] 2 (some image) := by
  intro image
  constructor
  · let layout : Layout := ⟨.byte, 4, by decide, by decide⟩
    let empty : Ring := ⟨layout, 1, by decide, {}, 0, 0⟩
    have hring : Ring.create 1 layout = .ok empty := rfl
    have hreach {events : List Ring.Event} {ring : Ring} (hrun : Ring.Run empty events ring)
        (haccepted : Ring.accepted events = [[1, 2], [3]])
        (hlook : ring.slotImage 2 = .ok (some image)) :
        Ring.accepted events = [[1, 2], [3]] ∧ ring.slotImage 2 = .ok (some image) ∧
          Imaged layout 1 [[1, 2], [3]] 2 (some image) := by
      obtain ⟨found, hfound, himaged⟩ := images_of_runs.1 hring hrun 2
      obtain rfl := Except.ok.inj (hfound.symm.trans hlook)
      rw [haccepted] at himaged
      exact ⟨haccepted, hlook, himaged⟩
    have hfirst := (Ring.Run.nil empty).snoc (.serve _ #[] (.publish [1, 2]))
    have hread := hfirst.snoc (.serve _ #[] (.receive [0, 0]))
    have hrun := hread.snoc (.serve _ #[] (.publish [3]))
    exact ⟨_, _, hreach hrun (by decide +kernel) (by decide +kernel)⟩
  · let topic : Topic .byte := ⟨"a", .detached, 0⟩
    let made := (Topic.ofSpec .byte ⟨"a", .byte, 1, 4⟩ .detached).exec {} #[]
    have hmade : made = ((.ok topic, made.1.2), made.2) := rfl
    have hreach {events : List Bus.Event} {bus : Bus} (hrun : Bus.Run made.1.2 events bus)
        (haccepted : Bus.accepted 0 events = [[1, 2], [3]])
        (hlive : (bus.storages[0]?).map (·.released) = some false)
        (hlook : ((topic.slotImage 2).exec bus #[]).1.1 = .ok (some image)) :
        ∃ layout, Bus.accepted 0 events = [[1, 2], [3]] ∧
          (∀ log, (topic.slotImage 2).exec bus log = ((.ok (some image), bus), log)) ∧
          Imaged layout 1 [[1, 2], [3]] 2 (some image) := by
      obtain ⟨storage, hstorage, hreleased⟩ := Option.map_eq_some_iff.mp hlive
      obtain ⟨layout, -, himages⟩ := images_of_runs.2 hmade hrun hstorage hreleased
      obtain ⟨found, hfound, himaged⟩ := himages 2
      rw [hfound] at hlook
      obtain rfl := Except.ok.inj hlook
      exact ⟨layout, haccepted, hfound, haccepted ▸ himaged⟩
    have hfirst := (Bus.Run.nil made.1.2).snoc
      (.call _ #[] (.topic topic (.publish [1, 2])) (by decide +kernel))
    have hread := hfirst.snoc (.call _ #[] (.topic topic .drain) (by decide +kernel))
    have hrun := hread.snoc (.call _ #[] (.publisher ⟨topic⟩ (.publish [3])) (by decide +kernel))
    exact ⟨topic, _, _, hreach hrun (by decide +kernel) (by decide +kernel) (by decide +kernel)⟩

end TopicBus
