import TopicBus.Proofs.Bytes
import TopicBus.Slot.Layout

/-!
Slots as rows of bytes. A slot is filled by writing a payload behind the room of its header and then
the header; both are read back, and what lies behind a short payload stays from before.
-/

namespace TopicBus

namespace Header

theorem decode_append (header : Header) (rest : Bytes) :
    decode header.kind (header.bytes ++ rest) = .ok header := by
  cases header with
  | byte epoch length =>
      have hl := length.toNat_lt
      have he := Bytes.read_append [] (Bytes.ofNat 8 epoch.toNat)
        (Bytes.ofNat 4 length.toNat ++ rest)
      have hn := Bytes.read_append (Bytes.ofNat 8 epoch.toNat) (Bytes.ofNat 4 length.toNat) rest
      simp only [Bytes.length_ofNat, List.length_nil, List.nil_append] at he hn
      simp only [decode, kind, bytes, List.append_assoc, he, hn, Except.bind, bind,
        Bytes.toNat_ofNat]
      have h8 : epoch.toNat % 256 ^ 8 = epoch.toNat := Nat.mod_eq_of_lt epoch.toNat_lt
      have h4 : length.toNat % 256 ^ 4 = length.toNat := Nat.mod_eq_of_lt hl
      rw [h8, h4, UInt64.ofNat_toNat, UInt32.ofNat_toNat]
      rfl
  | typed epoch =>
      have he := Bytes.read_append [] (Bytes.ofNat 8 epoch.toNat) rest
      simp only [Bytes.length_ofNat, List.length_nil, List.nil_append] at he
      have h8 : epoch.toNat % 256 ^ 8 = epoch.toNat := Nat.mod_eq_of_lt epoch.toNat_lt
      simp only [decode, kind, bytes, he, Except.bind, bind, Bytes.toNat_ofNat]
      rw [h8, UInt64.ofNat_toNat]
      rfl

end Header

namespace Layout

theorem create_eq_ok {kind : Kind} {payloadSize : Nat} {layout : Layout}
    (h : create kind payloadSize = .ok layout) :
    layout.kind = kind ∧ layout.payloadSize = payloadSize := by
  unfold create at h
  split at h
  · cases h
    exact ⟨rfl, rfl⟩
  · cases h

variable (layout : Layout)

theorem header_kind (epoch length : Nat) : (layout.header epoch length).kind = layout.kind := by
  unfold header
  cases layout.kind <;> rfl

theorem length_header (epoch length : Nat) :
    (layout.header epoch length).bytes.length = layout.headerSize := by
  rw [Header.length_bytes, header_kind, headerSize]

theorem epoch_header {epoch : Nat} (length : Nat) (h : epoch < Limits.word) :
    (layout.header epoch length).epoch.toNat = epoch := by
  have he : (UInt64.ofNat epoch).toNat = epoch := UInt64.toNat_ofNat_of_lt' h
  unfold header
  cases layout.kind <;> exact he

theorem checkPayload_le {length : Nat} (h : layout.checkPayload length = .ok ()) :
    length ≤ layout.payloadSize := by
  unfold checkPayload at h
  split at h <;> split at h <;> first | omega | cases h

theorem checkPayload_typed {layout : Layout} {length : Nat} (hkind : layout.kind = .typed)
    (h : layout.checkPayload length = .ok ()) : length = layout.payloadSize := by
  simp only [checkPayload, hkind] at h
  by_contra hne
  rw [if_pos hne] at h
  cases h

/-- The 32 bits for a length hold that of any accepted payload. -/
theorem noted_header {layout : Layout} (hbyte : layout.kind = .byte) (epoch : Nat) {length : Nat}
    (h : layout.checkPayload length = .ok ()) :
    ∃ noted : UInt32, layout.header epoch length = .byte (UInt64.ofNat epoch) noted ∧
      noted.toNat = length := by
  have hle := (layout.checkPayload_le h).trans layout.payloadSize_le
  refine ⟨UInt32.ofNat length, ?_, ?_⟩
  · simp only [header, hbyte]
  · apply UInt32.toNat_ofNat_of_lt'
    exact Nat.lt_of_le_of_lt hle (by decide)

theorem payloadLength_header (epoch : Nat) {length : Nat}
    (h : layout.checkPayload length = .ok ()) :
    layout.payloadLength (layout.header epoch length) = length := by
  cases hk : layout.kind with
  | byte =>
      obtain ⟨noted, hheader, hnoted⟩ := noted_header hk epoch h
      rw [hheader, payloadLength, hnoted]
      exact Nat.min_eq_left (layout.checkPayload_le h)
  | typed =>
      simp only [header, hk]
      exact (checkPayload_typed hk h).symm

/-- The bytes of a slot once a payload was written over what the slot held. -/
def fill (epoch : Nat) (payload old : Bytes) : Bytes :=
  (layout.header epoch payload.length).bytes ++
    (payload ++ old.drop (layout.headerSize + payload.length))

variable {layout} {epoch : Nat} {payload old : Bytes}

theorem length_fill (hp : payload.length ≤ layout.payloadSize)
    (ho : old.length = layout.slotSize) :
    (layout.fill epoch payload old).length = layout.slotSize := by
  have hs : layout.slotSize = layout.headerSize + layout.payloadSize := rfl
  rw [fill, List.length_append, List.length_append, List.length_drop, length_header, ho]
  omega

theorem write_fill (epoch : Nat) (hp : payload.length ≤ layout.payloadSize)
    (ho : old.length = layout.slotSize) :
    ∃ body, Bytes.write layout.headerSize payload old = .ok body ∧
      (layout.header epoch payload.length).encode body = .ok (layout.fill epoch payload old) := by
  have hs : layout.slotSize = layout.headerSize + layout.payloadSize := rfl
  have ht : (old.take layout.headerSize).length = layout.headerSize := by
    rw [List.length_take]
    omega
  refine ⟨_, Bytes.write_eq_ok (by omega), ?_⟩
  rw [Header.encode, Bytes.write_front _ _ (by rw [length_header, List.length_append, ht]; omega),
    length_header, List.drop_append_of_le_length (by omega), List.drop_of_length_le (by omega),
    List.nil_append]
  rfl

theorem decode_fill :
    Header.decode layout.kind (layout.fill epoch payload old) =
      .ok (layout.header epoch payload.length) := by
  rw [← layout.header_kind epoch payload.length]
  exact Header.decode_append _ _

theorem read_fill :
    Bytes.read layout.headerSize payload.length (layout.fill epoch payload old) = .ok payload := by
  rw [← layout.length_header epoch payload.length]
  exact Bytes.read_append _ _ _

end Layout

end TopicBus
