import TopicBus.Proofs.Slot

namespace TopicBus

namespace Header

variable {kind : Kind} {header : Header} {source out written : Bytes}

/-- The bytes begin with the header: with its epoch, and then its length if it has one. -/
def Spelled : Header → Bytes → Prop
  | byte epoch length, source => source.Spells 0 8 epoch.toNat ∧ source.Spells 8 4 length.toNat
  | typed epoch, source => source.Spells 0 8 epoch.toNat

theorem spelled_iff : header.Spelled source ↔ source.take (size header.kind) = header.bytes := by
  cases header with
  | typed epoch => exact Bytes.spells_iff
  | byte epoch length =>
      have hsplit : source.take (8 + 4) = source.take 8 ++ (source.drop 8).take 4 := List.take_add
      show _ ∧ _ ↔ source.take (8 + 4) = Bytes.ofNat 8 epoch.toNat ++ Bytes.ofNat 4 length.toNat
      rw [Bytes.spells_iff, Bytes.spells_iff, List.drop_zero, hsplit]
      constructor
      · rintro ⟨hepoch, hlength⟩
        rw [hepoch, hlength]
      · intro h
        refine List.append_inj h ?_
        have hwhole := congrArg List.length h
        simp only [List.length_append, List.length_take, List.length_drop, Bytes.length_ofNat]
          at hwhole ⊢
        omega

theorem exists_spelled (h : size kind ≤ source.length) :
    ∃ header : Header, header.kind = kind ∧ header.Spelled source := by
  have hfront : 0 + 8 ≤ source.length := by
    refine Nat.le_trans ?_ h
    cases kind <;> decide
  obtain ⟨epoch, hepoch, hfirst⟩ := Bytes.exists_spells hfront
  have hword : (UInt64.ofNat epoch).toNat = epoch := UInt64.toNat_ofNat_of_lt' hepoch
  cases kind with
  | typed =>
      refine ⟨typed (UInt64.ofNat epoch), rfl, ?_⟩
      rw [Spelled, hword]
      exact hfirst
  | byte =>
      have hback : 8 + 4 ≤ source.length := h
      obtain ⟨length, hlength, hsecond⟩ := Bytes.exists_spells hback
      have hhalf : (UInt32.ofNat length).toNat = length := UInt32.toNat_ofNat_of_lt' hlength
      refine ⟨byte (UInt64.ofNat epoch) (UInt32.ofNat length), rfl, ?_⟩
      rw [Spelled, hword, hhalf]
      exact ⟨hfirst, hsecond⟩

theorem encode_eq_ok_iff : header.encode out = .ok written ↔
    size header.kind ≤ out.length ∧ written = header.bytes ++ out.drop (size header.kind) := by
  rw [← length_bytes, encode]
  by_cases h : header.bytes.length ≤ out.length
  · rw [Bytes.write_front _ _ h, Except.ok.injEq]
    exact ⟨fun hwritten => ⟨h, hwritten.symm⟩, fun hwritten => hwritten.2.symm⟩
  · rw [Bytes.write_short (by omega)]
    simp [h]

theorem decode_short (h : source.length < size kind) :
    decode kind source = .error .outOfRange := by
  cases kind with
  | typed =>
      rw [decode, Bytes.read_short h]
      rfl
  | byte =>
      have hback : source.length < 8 + 4 := h
      by_cases hfront : source.length < 0 + 8
      · simp only [decode, Bytes.read_short hfront, bind, Except.bind]
      · simp only [decode, Bytes.read_eq_ok (Nat.le_of_not_lt hfront), Bytes.read_short hback,
          bind, Except.bind]

theorem decode_eq_ok_iff :
    decode kind source = .ok header ↔ header.kind = kind ∧ header.Spelled source := by
  have hfound {header : Header} (h : header.Spelled source) :
      decode header.kind source = .ok header := by
    have hdecode := decode_append header (source.drop (size header.kind))
    rwa [← spelled_iff.mp h, List.take_append_drop] at hdecode
  constructor
  · intro h
    by_cases hfits : size kind ≤ source.length
    · obtain ⟨other, rfl, hspelled⟩ := exists_spelled hfits
      have hother := hfound hspelled
      rw [h] at hother
      cases hother
      exact ⟨rfl, hspelled⟩
    · rw [decode_short (Nat.lt_of_not_le hfits)] at h
      cases h
  · rintro ⟨rfl, h⟩
    exact hfound h

/-- What a buffer holds once a header was encoded into it. -/
structure Fronts (header : Header) (out written : Bytes) : Prop where
  spelled : header.Spelled written
  length_eq : written.length = out.length
  drop_eq : written.drop (size header.kind) = out.drop (size header.kind)

theorem fronts_of_encode (h : header.encode out = .ok written) : header.Fronts out written := by
  obtain ⟨hfits, rfl⟩ := encode_eq_ok_iff.mp h
  have hlength := header.length_bytes
  constructor
  case spelled => exact spelled_iff.mpr (List.take_left' hlength)
  case length_eq =>
    rw [List.length_append, List.length_drop]
    omega
  case drop_eq => exact List.drop_left' hlength

structure Lawful (kind : Kind) : Prop where
  encode : ∀ header : Header, header.kind = kind → ∀ out, size kind ≤ out.length →
    ∃ written, header.encode out = .ok written ∧ header.Fronts out written
  decode_encode : ∀ header : Header, header.kind = kind → ∀ out written,
    header.encode out = .ok written → decode kind written = .ok header
  encode_decode : ∀ source, size kind ≤ source.length → ∃ header, decode kind source = .ok header ∧
    header.kind = kind ∧ ∀ out, size kind ≤ out.length →
      header.encode out = .ok (source.take (size kind) ++ out.drop (size kind))
  decode_iff : ∀ source header, decode kind source = .ok header ↔
    header.kind = kind ∧ header.Spelled source

theorem lawful (kind : Kind) : Lawful kind := by
  constructor
  case encode =>
    rintro header rfl out hout
    have hencode := encode_eq_ok_iff.mpr ⟨hout, rfl⟩
    exact ⟨_, hencode, fronts_of_encode hencode⟩
  case decode_encode =>
    rintro header rfl out written hwritten
    exact decode_eq_ok_iff.mpr ⟨rfl, (fronts_of_encode hwritten).spelled⟩
  case encode_decode =>
    intro source hsource
    obtain ⟨header, rfl, hspelled⟩ := exists_spelled hsource
    refine ⟨header, decode_eq_ok_iff.mpr ⟨rfl, hspelled⟩, rfl, fun out hout => ?_⟩
    rw [spelled_iff.mp hspelled]
    exact encode_eq_ok_iff.mpr ⟨hout, rfl⟩
  case decode_iff => exact fun _ _ => decode_eq_ok_iff

end Header

namespace Layout

variable {layout : Layout}

theorem create_eq_ok_iff {kind : Kind} {payloadSize : Nat} :
    create kind payloadSize = .ok layout ↔
      layout.kind = kind ∧ layout.payloadSize = payloadSize := by
  constructor
  · exact create_eq_ok
  · rintro ⟨rfl, rfl⟩
    exact dif_pos ⟨layout.payloadSize_pos, layout.payloadSize_le⟩

theorem ofSlotSize_eq_ok_iff {slotSize : Nat} :
    ofSlotSize slotSize = .ok layout ↔ layout.kind = .byte ∧ layout.slotSize = slotSize := by
  have hpos := layout.payloadSize_pos
  have hsize (hbyte : layout.kind = .byte) :
      layout.slotSize = Limits.byteHeader + layout.payloadSize := by
    rw [Layout.slotSize, headerSize, hbyte]
    rfl
  unfold ofSlotSize
  split
  · simp only [reduceCtorEq, false_iff, not_and]
    intro hbyte
    have h := hsize hbyte
    omega
  · rw [create_eq_ok_iff]
    refine and_congr_right fun hbyte => ?_
    have h := hsize hbyte
    omega

theorem payloadLength_le (layout : Layout) (header : Header) :
    layout.payloadLength header ≤ layout.payloadSize := by
  cases header with
  | byte epoch length => exact Nat.min_le_right _ _
  | typed epoch => exact Nat.le_refl _

/-- What headers say of the payloads of a layout; and which calls make the layout. -/
structure Faithful (layout : Layout) : Prop where
  create_iff : ∀ kind payloadSize, create kind payloadSize = .ok layout ↔
    layout.kind = kind ∧ layout.payloadSize = payloadSize
  ofSlotSize_iff : ∀ slotSize, ofSlotSize slotSize = .ok layout ↔
    layout.kind = .byte ∧ layout.slotSize = slotSize
  noted : layout.kind = .byte → ∀ epoch length, layout.checkPayload length = .ok () →
    ∃ noted : UInt32, layout.header epoch length = .byte (UInt64.ofNat epoch) noted ∧
      noted.toNat = length
  kept : ∀ epoch < 2 ^ 64, ∀ length, layout.checkPayload length = .ok () → ∀ out,
    layout.headerSize ≤ out.length → ∃ written header,
      (layout.header epoch length).encode out = .ok written ∧
      Header.decode layout.kind written = .ok header ∧
      header.epoch.toNat = epoch ∧ layout.payloadLength header = length
  bounded : ∀ source, layout.headerSize ≤ source.length → ∃ header,
    Header.decode layout.kind source = .ok header ∧
      layout.payloadLength header ≤ layout.payloadSize
  inside : ∀ slot, slot.length = layout.slotSize → ∃ header,
    Header.decode layout.kind slot = .ok header ∧
      Bytes.read layout.headerSize (layout.payloadLength header) slot =
        .ok ((slot.drop layout.headerSize).take (layout.payloadLength header))

theorem faithful (layout : Layout) : layout.Faithful := by
  have hbounded : ∀ source, layout.headerSize ≤ source.length → ∃ header,
      Header.decode layout.kind source = .ok header ∧
        layout.payloadLength header ≤ layout.payloadSize := by
    intro source hsource
    obtain ⟨header, hdecode, -⟩ := (Header.lawful layout.kind).encode_decode source hsource
    exact ⟨header, hdecode, layout.payloadLength_le header⟩
  constructor
  case create_iff => exact fun _ _ => create_eq_ok_iff
  case ofSlotSize_iff => exact fun _ => ofSlotSize_eq_ok_iff
  case noted => exact fun hbyte epoch _ hlength => noted_header hbyte epoch hlength
  case kept =>
    intro epoch hepoch length hlength out hout
    have hkind := layout.header_kind epoch length
    rw [headerSize, ← hkind] at hout
    have hencode := Header.encode_eq_ok_iff.mpr ⟨hout, rfl⟩
    have hdecode := (Header.lawful _).decode_encode _ hkind _ _ hencode
    exact ⟨_, _, hencode, hdecode, layout.epoch_header length hepoch,
      layout.payloadLength_header epoch hlength⟩
  case bounded => exact hbounded
  case inside =>
    intro slot hslot
    have hsize : slot.length = layout.headerSize + layout.payloadSize := hslot
    obtain ⟨header, hdecode, hle⟩ := hbounded slot (by omega)
    exact ⟨header, hdecode, Bytes.read_eq_ok (by omega)⟩

end Layout

end TopicBus
