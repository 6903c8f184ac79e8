import TopicBus.Proofs.Message.Codec

/-!
The laws of messages as bytes, for all shapes without elements of no bytes. Encoding and decoding are
inverse to each other on the bytes of a message, and touch no others. A buffer that is too short for
an array takes whole elements of it; for a number it takes nothing and the call breaks off.
-/

namespace TopicBus.Shape

/-- The bytes of an array are what its elements write into buffers of their own, in their order. -/
def Joins : Shape → Prop
  | scalar _ => True
  | array element count => ∀ values : Vector element.Value count, ∃ chunks : List Bytes,
      (array element count).bytes values = chunks.flatten ∧
      List.Forall₂ (fun value chunk => ∀ out, out.length = element.size →
        element.encode value out = .ok chunk) values.toList chunks

/-- What becomes of a buffer that is too short for a message. -/
def Shortens : Shape → Prop
  | scalar s => ∀ (value : (scalar s).Value) (out : Bytes), out.length < s.size →
      (scalar s).encode value out = .error .outOfRange
  | array element count => ∀ (values : Vector element.Value count) (out : Bytes),
      out.length < (array element count).size →
      let taken := min count (out.length / element.size) * element.size
      (array element count).encode values out =
        .ok (((array element count).bytes values).take taken ++ out.drop taken)

structure Lawful (shape : Shape) : Prop where
  length_bytes : ∀ message : shape.Value, (shape.bytes message).length = shape.size
  encode_eq : ∀ (message : shape.Value) (out : Bytes), shape.size ≤ out.length →
    shape.encode message out = .ok (shape.bytes message ++ out.drop shape.size)
  decode_encode : ∀ (message : shape.Value) (out written : Bytes), shape.size ≤ out.length →
    shape.encode message out = .ok written → shape.decode written = .ok message
  encode_decode : ∀ source out : Bytes, shape.size ≤ source.length → shape.size ≤ out.length →
    (shape.decode source >>= fun message => shape.encode message out) =
      .ok (source.take shape.size ++ out.drop shape.size)
  decode_take : ∀ source : Bytes, shape.size ≤ source.length →
    shape.decode (source.take shape.size) = shape.decode source
  encode_injective : ∀ (message other : shape.Value) (out : Bytes), shape.size ≤ out.length →
    shape.encode message out = shape.encode other out → message = other
  joins : shape.Joins
  shortens : shape.Shortens

theorem bytes_injective {shape : Shape} {message other : shape.Value}
    (h : shape.bytes message = shape.bytes other) : message = other := by
  have hdecode := shape.decode_bytes message []
  rw [h, shape.decode_bytes other []] at hdecode
  exact (Except.ok.inj hdecode).symm

theorem decode_eq_ok_iff {shape : Shape} {message : shape.Value} {source : Bytes}
    (hsource : shape.size ≤ source.length) :
    shape.decode source = .ok message ↔ shape.bytes message = source.take shape.size := by
  obtain ⟨found, hdecode, hbytes⟩ := shape.bytes_decode hsource
  rw [hdecode, ← hbytes]
  constructor
  · rintro ⟨⟩
    rfl
  · intro h
    rw [bytes_injective h]

theorem decode_take (shape : Shape) {source : Bytes} (hsource : shape.size ≤ source.length) :
    shape.decode (source.take shape.size) = shape.decode source := by
  obtain ⟨message, hdecode, hbytes⟩ := shape.bytes_decode hsource
  have hlength : (source.take shape.size).length = shape.size := List.length_take_of_le hsource
  rw [hdecode, decode_eq_ok_iff (Nat.le_of_eq hlength.symm), hbytes, List.take_take, Nat.min_self]

theorem joins {shape : Shape} (h : shape.Solid) : shape.Joins := by
  cases shape with
  | scalar s => trivial
  | array element count =>
      intro values
      refine ⟨values.toList.map element.bytes, rfl, ?_⟩
      rw [List.forall₂_map_right_iff]
      exact List.forall₂_same.mpr fun value _ out hout => encode_exact h.2 value hout

theorem shortens {shape : Shape} (h : shape.Solid) : shape.Shortens := by
  cases shape with
  | scalar s =>
      intro value out hshort
      apply if_neg
      rw [Bytes.length_ofNat]
      omega
  | array element count =>
      intro values out _
      have harray := encode_array h.1 (fun _ _ hroom => encode_exact h.2 _ hroom) values out
      rw [Nat.mul_comm] at harray
      exact harray

theorem lawful_of_solid {shape : Shape} (h : shape.Solid) : shape.Lawful where
  length_bytes := shape.length_bytes
  encode_eq message out hout := encode_eq_ok h message hout
  decode_encode message out written hout hwritten := by
    rw [encode_eq_ok h message hout, Except.ok.injEq] at hwritten
    rw [← hwritten]
    exact shape.decode_bytes message _
  encode_decode source out hsource hout := by
    obtain ⟨message, hdecode, hbytes⟩ := shape.bytes_decode hsource
    rw [hdecode, ← hbytes]
    exact encode_eq_ok h message hout
  decode_take source hsource := shape.decode_take hsource
  encode_injective message other out hout hsame := by
    rw [encode_eq_ok h message hout, encode_eq_ok h other hout, Except.ok.injEq] at hsame
    exact bytes_injective (List.append_cancel_right hsame)
  joins := joins h
  shortens := shortens h

/-- Of two pairs of numbers, a buffer that lacks one byte takes the first pair. -/
theorem lawful_of_solid_short :
    let shape : Shape := array (array (scalar .int16) 2) 2
    let message : Vector (Vector (BitVec 16) 2) 2 := #v[#v[1, 0xffff], #v[3, 4]]
    shape.Solid ∧ shape.encode message [9, 9, 9, 9, 9, 9, 9] = .ok [1, 0, 255, 255, 9, 9, 9] := by
  intro shape message
  have hsolid : shape.Solid := ⟨by decide, by decide, trivial⟩
  have hlawful := lawful_of_solid hsolid
  refine ⟨hsolid, (hlawful.shortens message [9, 9, 9, 9, 9, 9, 9] (by decide)).trans ?_⟩
  rfl

end TopicBus.Shape
