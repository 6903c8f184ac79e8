import TopicBus.Message.Codec
import TopicBus.Proofs.Bytes

namespace TopicBus.Shape

variable {α : Type}

/-- The bytes of a message, which has all elements of an array one after the other. -/
def bytes : (shape : Shape) → shape.Value → Bytes
  | scalar s, (value : BitVec (8 * s.size)) => Bytes.ofNat s.size value.toNat
  | array element _, (values : Vector element.Value _) => values.toList.flatMap element.bytes

/-- No array at any level has elements of no bytes. -/
def Solid : Shape → Prop
  | scalar _ => True
  | array element _ => 0 < element.size ∧ element.Solid

theorem solid_of_size_pos {shape : Shape} (h : 0 < shape.size) : shape.Solid := by
  induction shape with
  | scalar s => trivial
  | array element count ih =>
      have he : 0 < element.size := Nat.pos_of_mul_pos_right h
      exact ⟨he, ih he⟩

theorem length_flatMap_const {size : Nat} {image : α → Bytes} (h : ∀ a, (image a).length = size)
    (values : List α) : (values.flatMap image).length = size * values.length := by
  induction values with
  | nil => rfl
  | cons value values ih =>
      rw [List.flatMap_cons, List.length_append, h, ih, List.length_cons, Nat.mul_succ,
        Nat.add_comm]

theorem length_bytes (shape : Shape) (message : shape.Value) :
    (shape.bytes message).length = shape.size := by
  induction shape with
  | scalar s => exact Bytes.length_ofNat s.size _
  | array element count ih =>
      have hcount : (Vector.toList message).length = count := Vector.length_toList
      have h := length_flatMap_const ih (Vector.toList message)
      rw [hcount] at h
      exact h

/-- Values are written for as long as the buffer has chunks for them. -/
theorem encodeEach_eq_ok {size : Nat} {encode : α → Bytes → Except Fault Bytes} {image : α → Bytes}
    (hpos : 0 < size) (hencode : ∀ a out, out.length = size → encode a out = .ok (image a))
    (values : List α) (out : Bytes) :
    encodeEach size encode values out =
      .ok ((values.take (out.length / size)).flatMap image ++
        out.drop (size * min values.length (out.length / size))) := by
  induction values generalizing out with
  | nil => simp [encodeEach]
  | cons value values ih =>
      by_cases hshort : out.length < size
      · simp [encodeEach, hshort, Nat.div_eq_of_lt hshort]
      · have hchunk : encode value (out.take size) = .ok (image value) :=
          hencode value _ (by rw [List.length_take]; omega)
        have hchunks : out.length / size = (out.drop size).length / size + 1 := by
          rw [List.length_drop, ← Nat.div_eq_sub_div hpos (Nat.le_of_not_lt hshort)]
        simp only [encodeEach, hshort, if_false, hchunk, ih (out.drop size), bind, Except.bind, pure,
          Except.pure]
        rw [hchunks, List.take_succ_cons, List.flatMap_cons, List.append_assoc, List.drop_drop,
          List.length_cons, Nat.succ_min_succ, Nat.mul_succ, Nat.add_comm size]

theorem take_flatMap_const {size : Nat} {image : α → Bytes} (h : ∀ a, (image a).length = size)
    (values : List α) (count : Nat) :
    (values.flatMap image).take (size * count) = (values.take count).flatMap image := by
  induction values generalizing count with
  | nil => simp
  | cons value values ih =>
      cases count with
      | zero => simp
      | succ count =>
          rw [List.flatMap_cons, List.take_succ_cons, List.flatMap_cons, ← ih, Nat.mul_succ,
            Nat.add_comm, ← h value, List.take_length_add_append]

theorem encode_array {element : Shape} {count : Nat} (hpos : 0 < element.size)
    (hencode : ∀ a out, out.length = element.size → element.encode a out = .ok (element.bytes a))
    (values : Vector element.Value count) (out : Bytes) :
    let taken := element.size * min count (out.length / element.size)
    (array element count).encode values out =
      .ok (((array element count).bytes values).take taken ++ out.drop taken) := by
  have hcount : values.toList.length = count := Vector.length_toList
  have heach := encodeEach_eq_ok hpos hencode values.toList out
  rw [hcount, List.take_eq_take_min, hcount, Nat.min_comm,
    ← take_flatMap_const element.length_bytes] at heach
  simp only [encode, Nat.ne_of_gt hpos, if_false]
  exact heach

theorem encode_eq_ok {shape : Shape} (hs : shape.Solid) (message : shape.Value) {out : Bytes}
    (hout : shape.size ≤ out.length) :
    shape.encode message out = .ok (shape.bytes message ++ out.drop shape.size) := by
  induction shape generalizing out with
  | scalar s =>
      have hlength := Bytes.length_ofNat s.size (BitVec.toNat message)
      have hwrite := Bytes.write_front (Bytes.ofNat s.size (BitVec.toNat message)) out
        (by rw [hlength]; exact hout)
      rw [hlength] at hwrite
      exact hwrite
  | array element count ih =>
      have hencode : ∀ a out, out.length = element.size →
          element.encode a out = .ok (element.bytes a) := by
        intro a out ho
        rw [ih hs.2 a (Nat.le_of_eq ho.symm), List.drop_of_length_le (Nat.le_of_eq ho),
          List.append_nil]
      have hfits : count ≤ out.length / element.size := by
        rw [Nat.le_div_iff_mul_le hs.1, Nat.mul_comm]
        exact hout
      have hlength : ((array element count).bytes message).length = element.size * count :=
        length_bytes _ message
      have harray := encode_array hs.1 hencode message out
      simp only [Nat.min_eq_left hfits] at harray
      rwa [List.take_of_length_le (Nat.le_of_eq hlength)] at harray

theorem encode_exact {shape : Shape} (hs : shape.Solid) (message : shape.Value) {out : Bytes}
    (hout : out.length = shape.size) : shape.encode message out = .ok (shape.bytes message) := by
  rw [encode_eq_ok hs message (Nat.le_of_eq hout.symm), List.drop_of_length_le (Nat.le_of_eq hout),
    List.append_nil]

theorem encode_zeros {shape : Shape} (hs : shape.Solid) (message : shape.Value) :
    shape.encode message (Bytes.zeros shape.size) = .ok (shape.bytes message) :=
  encode_exact hs message (Bytes.length_zeros shape.size)

theorem decodeEach_eq_ok {size : Nat} {decode : Bytes → Except Fault α} {source : Bytes}
    {count : Nat} (values : Vector α count) (hsource : count * size ≤ source.length)
    (hdecode : ∀ i (hi : i < count), decode ((source.drop (i * size)).take size) = .ok values[i]) :
    decodeEach size decode source count = .ok values := by
  induction count with
  | zero =>
      have hempty : values = #v[] := Vector.eq_empty
      rw [hempty]
      rfl
  | succ count ih =>
      rw [Nat.succ_mul] at hsource
      have hfront := ih values.pop (by omega) fun i hi => by
        rw [hdecode i (by omega)]
        simp
      have hlast := hdecode count (Nat.lt_succ_self count)
      have hread : Bytes.read (count * size) size source =
          .ok ((source.drop (count * size)).take size) := Bytes.read_eq_ok hsource
      simp only [decodeEach, hfront, hread, hlast, bind, Except.bind, pure, Except.pure]
      have hback : values[count] = values.back := rfl
      rw [hback, Vector.push_pop_back]

theorem chunk_flatMap {size : Nat} {image : α → Bytes} (h : ∀ a, (image a).length = size)
    (values : List α) (rest : Bytes) (i : Nat) (hi : i < values.length) :
    ((values.flatMap image ++ rest).drop (i * size)).take size = image values[i] := by
  induction values generalizing i with
  | nil => exact absurd hi (Nat.not_lt_zero i)
  | cons value values ih =>
      rw [List.flatMap_cons, List.append_assoc]
      cases i with
      | zero =>
          rw [Nat.zero_mul, List.drop_zero, List.take_append_of_le_length (Nat.le_of_eq (h _).symm),
            List.take_of_length_le (Nat.le_of_eq (h _))]
          rfl
      | succ i =>
          rw [Nat.succ_mul, Nat.add_comm, ← List.drop_drop,
            List.drop_append_of_le_length (Nat.le_of_eq (h _).symm),
            List.drop_of_length_le (Nat.le_of_eq (h _)), List.nil_append]
          exact ih i (Nat.lt_of_succ_lt_succ hi)

theorem flatMap_chunks {size : Nat} {image : α → Bytes} (values : List α) (source : Bytes)
    (hsource : size * values.length ≤ source.length)
    (h : ∀ i (hi : i < values.length), image values[i] = (source.drop (i * size)).take size) :
    values.flatMap image = source.take (size * values.length) := by
  induction values generalizing source with
  | nil => rfl
  | cons value values ih =>
      rw [List.length_cons, Nat.mul_succ] at hsource
      have hfirst : image value = source.take size := by simpa using h 0 (Nat.succ_pos _)
      have hrest := ih (source.drop size) (by rw [List.length_drop]; omega) fun i hi => by
        rw [List.drop_drop, Nat.add_comm size, ← Nat.succ_mul]
        exact h (i + 1) (Nat.succ_lt_succ hi)
      rw [List.flatMap_cons, hfirst, hrest, List.length_cons, Nat.mul_succ, Nat.add_comm,
        List.take_add]

theorem decode_scalar {s : Scalar} (value : BitVec (8 * s.size)) (rest : Bytes) :
    (scalar s).decode (Bytes.ofNat s.size value.toNat ++ rest) = .ok value := by
  have hlt : value.toNat < 256 ^ s.size := by
    have h := value.isLt
    rw [pow_mul] at h
    exact h
  have hread := Bytes.read_append [] (Bytes.ofNat s.size value.toNat) rest
  rw [Bytes.length_ofNat, List.length_nil, List.nil_append] at hread
  simp only [decode, hread, bind, Except.bind, Bytes.toNat_ofNat, Nat.mod_eq_of_lt hlt]
  rw [BitVec.ofNat_toNat, BitVec.setWidth_eq]
  rfl

theorem decode_array {element : Shape} {count : Nat} (values : Vector element.Value count)
    (rest : Bytes)
    (h : ∀ value : element.Value, element.decode (element.bytes value) = .ok value) :
    (array element count).decode (values.toList.flatMap element.bytes ++ rest) = .ok values := by
  have hlength := length_flatMap_const element.length_bytes values.toList
  rw [Vector.length_toList] at hlength
  apply decodeEach_eq_ok values
  · rw [List.length_append, hlength, Nat.mul_comm]
    exact Nat.le_add_right _ _
  · intro i hi
    have hi' : i < values.toList.length := by
      rw [Vector.length_toList]
      exact hi
    rw [chunk_flatMap element.length_bytes values.toList rest i hi', Vector.getElem_toList]
    exact h values[i]

theorem decode_bytes (shape : Shape) (message : shape.Value) (rest : Bytes) :
    shape.decode (shape.bytes message ++ rest) = .ok message := by
  induction shape generalizing rest with
  | scalar s => exact decode_scalar message rest
  | array element count ih =>
      apply decode_array message rest
      intro value
      have h := ih value []
      rw [List.append_nil] at h
      exact h

theorem scalar_decode {s : Scalar} {source : Bytes} (hsource : s.size ≤ source.length) :
    ∃ value, (scalar s).decode source = .ok value ∧
      (scalar s).bytes value = source.take s.size := by
  have hread : Bytes.read 0 s.size source = .ok (source.take s.size) := by
    rw [Bytes.read_eq_ok (by rw [Nat.zero_add]; exact hsource), List.drop_zero]
  have hlength : (source.take s.size).length = s.size := List.length_take_of_le hsource
  have hlt : Bytes.toNat (source.take s.size) < 2 ^ (8 * s.size) := by
    have h := Bytes.toNat_lt (source.take s.size)
    rw [hlength] at h
    rw [pow_mul]
    exact h
  have hrow := Bytes.ofNat_toNat (source.take s.size)
  rw [hlength] at hrow
  refine ⟨BitVec.ofNat (8 * s.size) (Bytes.toNat (source.take s.size)), ?_, ?_⟩
  · simp only [decode, hread, bind, Except.bind]
    rfl
  · simp only [bytes, BitVec.toNat_ofNat, Nat.mod_eq_of_lt hlt]
    exact hrow

theorem array_decode {element : Shape} {count : Nat} {source : Bytes}
    (hsource : element.size * count ≤ source.length)
    (h : ∀ i : Fin count, ∃ value,
      element.decode ((source.drop (i * element.size)).take element.size) = .ok value ∧
        element.bytes value = (source.drop (i * element.size)).take element.size) :
    ∃ values, (array element count).decode source = .ok values ∧
      (array element count).bytes values = source.take (element.size * count) := by
  choose values hdecode hbytes using h
  refine ⟨Vector.ofFn values, ?_, ?_⟩
  · apply decodeEach_eq_ok (Vector.ofFn values)
    · rw [Nat.mul_comm]
      exact hsource
    · intro i hi
      rw [Vector.getElem_ofFn]
      exact hdecode ⟨i, hi⟩
  · have hcount : (Vector.ofFn values).toList.length = count := Vector.length_toList
    have hchunks := flatMap_chunks (Vector.ofFn values).toList source
      (by rw [hcount]; exact hsource) fun i hi => by
        rw [Vector.getElem_toList, Vector.getElem_ofFn]
        exact hbytes ⟨i, by rw [hcount] at hi; exact hi⟩
    rw [hcount] at hchunks
    exact hchunks

theorem bytes_decode (shape : Shape) {source : Bytes} (hsource : shape.size ≤ source.length) :
    ∃ message, shape.decode source = .ok message ∧
      shape.bytes message = source.take shape.size := by
  induction shape generalizing source with
  | scalar s => exact scalar_decode hsource
  | array element count ih =>
      apply array_decode hsource
      intro i
      have hfit : i * element.size + element.size ≤ source.length := by
        rw [← Nat.succ_mul, Nat.mul_comm]
        exact (Nat.mul_le_mul_left _ i.isLt).trans hsource
      have hlength : ((source.drop (i * element.size)).take element.size).length =
          element.size := by
        rw [List.length_take, List.length_drop]
        omega
      obtain ⟨value, hdecode, hbytes⟩ := ih (Nat.le_of_eq hlength.symm)
      rw [List.take_of_length_le (Nat.le_of_eq hlength)] at hbytes
      exact ⟨value, hdecode, hbytes⟩

end TopicBus.Shape
