import TopicBus.Proofs.Boundary.Unbroken
import TopicBus.Proofs.Bus.Retry

namespace TopicBus

open Op

namespace Call

variable {session : Session}

theorem serve_read_whole (h : session.Hosted) (handle : UInt64) (call : Read) (log : Log) :
    Whole session (.read handle call) log := by
  have hlent : (Request.read handle call).Lent := trivial
  refine serve_whole h hlent ?_ log
  rintro ⟨direct, hdenotes, kind, id, payload, topic, storage, hpublish, -⟩
  cases hdenotes with
  | read designated _ =>
      unfold Read.direct at hpublish
      split at hpublish
      · cases hpublish
      · split at hpublish <;> cases hpublish

/-- Every retry loop ends in its first round: on every ring, whatever was asked of it before, on every
topic of every world, and on every topic that C callers reach. The epochs that the loops look for are
in their slots, and the read cursor can be exchanged. So no request through a handle waits for a loop
without end, and no read through a handle or through the C interface breaks off; draining a live
topic takes one read more than there are unread entries, draining a released one a single read. -/
theorem retries_end {capacity memory : Nat} {layout : Layout} {empty ring : Ring}
    {events : List Ring.Event} (hring : Ring.create capacity layout memory = .ok empty)
    (hevents : Ring.Run empty events ring) {world : World} (hworld : World.Run {} world)
    {heap : Heap} (hheap : Heap.Run (fun _ => none) heap) :
    ring.Prompt ∧
    (world.bus.Prompt ∧ ∀ request : Bus.Request, request.Held world.bus → ∀ log,
      (request.perform.exec world.bus log).1.1 ≠ .error (.fault .stalled) ∧
        (request.offered = none → isFault (request.perform.exec world.bus log).1.1 = false)) ∧
    ∀ address session, heap address = some session →
      session.bus.Prompt ∧ ∀ handle call log, Whole session (.read handle call) log := by
  have hbus := World.Run.sound_bus hworld
  refine ⟨Ring.prompt_of_run hring hevents, ⟨hbus.prompt, fun request held log => ⟨?_, ?_⟩⟩, ?_⟩
  · exact request.perform_unstalled hbus held log
  · intro hreads
    refine request.perform_whole hbus held ?_ log
    rintro ⟨index, storage, payload, -, -, hoffered, -⟩
    rw [hreads] at hoffered
    cases hoffered
  · intro address session there
    have hhosted := hheap.hosted address session there
    exact ⟨hhosted.sound.bus.prompt, serve_read_whole hhosted⟩

/-- A ring whose only slot was overwritten, a topic with one entry to drain, and a topic of a C caller
without any. -/
theorem retries_end_overwritten :
    ∃ (ring : Ring) (world : World) (storage : Storage) (heap : Heap) (session : Session),
      ring.written = 2 ∧ ring.passed = 1 ∧ ring.Prompt ∧
      world.bus.storages[0]? = some storage ∧ storage.DrainsIn "/a" #[] 2 ∧
      heap 0 = some session ∧
      ∀ log, Whole session (.read 4294967296 (.receiveByte (some [0]) none)) log := by
  let layout : Layout := ⟨.byte, 4, by decide, by decide⟩
  let empty : Ring := ⟨layout, 1, by decide, {}, 0, 0⟩
  have hring : Ring.create 1 layout = .ok empty := rfl
  have hfirst := (Ring.Run.nil empty).snoc (.serve _ #[] (.publish [1]))
  have hevents := hfirst.snoc (.serve _ #[] (.publish [2]))
  let created := World.use {} (.create .byte (.byte "/a" 1)) #[]
  let topic : Topic .byte := ⟨"/a", .detached, 0⟩
  let world := created.use (.topic topic (.publish [7])) #[]
  have hcreated : World.Run {} created := .single (.use {} (.create .byte (.byte "/a" 1)) trivial #[])
  have hworld : World.Run {} world :=
    hcreated.tail (.use created (.topic topic (.publish [7])) (by decide +kernel) #[])
  obtain ⟨heap, hheap, there⟩ := Heap.reaches_new.call (.getByteTopic (some [97, 0]) 1 none) trivial
    (by rintro ⟨⟩) #[]
  obtain ⟨hprompt, ⟨hbus, -⟩, hcalls⟩ := retries_end hring hevents hworld hheap
  have hlook : (world.bus.storages[0]?).map
      (fun storage => (storage.released, storage.ring.length)) = some (false, 1) := by
    decide +kernel
  obtain ⟨storage, hstorage, hfacts⟩ := Option.map_eq_some_iff.mp hlook
  obtain ⟨hflag, hlength⟩ := Prod.ext_iff.mp hfacts
  dsimp only at hflag hlength
  have hdrains := (hbus 0 storage hstorage).drainsIn "/a" #[]
  rw [hflag, hlength] at hdrains
  exact ⟨_, world, storage, heap, _, by decide +kernel, by decide +kernel, hprompt, hstorage, hdrains,
    there, (hcalls 0 _ there).2 _ _⟩

end Call

end TopicBus
