import Mathlib.Tactic

/-!
The order of names. Strings are compared by their code points, which comes to the same as comparing
their bytes in UTF-8: the first byte of a code point grows with the number of bytes, and the others
are its digits to the base 64.
-/

namespace TopicBus

namespace Text

def utf8 (text : String) : List UInt8 := text.toUTF8.data.toList

theorem utf8_eq (text : String) : utf8 text = text.toList.flatMap String.utf8EncodeChar := by
  rw [utf8, String.toUTF8_eq_toByteArray, ← String.utf8Encode_toList, List.utf8Encode,
    List.toList_data_toByteArray]

theorem digit_lt {v w : Nat} (h : v < w) :
    v / 64 < w / 64 ∨ v / 64 = w / 64 ∧ v % 64 < w % 64 := by
  omega

theorem digits_lt {v w : Nat} (h : v < w) :
    v / 262144 < w / 262144 ∨ v / 262144 = w / 262144 ∧
      (v / 4096 % 64 < w / 4096 % 64 ∨ v / 4096 % 64 = w / 4096 % 64 ∧
        (v / 64 % 64 < w / 64 % 64 ∨ v / 64 % 64 = w / 64 % 64 ∧ v % 64 < w % 64)) := by
  have hdiv (n : Nat) : n / 4096 = n / 64 / 64 ∧ n / 262144 = n / 64 / 64 / 64 := by
    simp only [Nat.div_div_eq_div_mul, and_self]
  simp only [hdiv]
  rcases digit_lt h with h₁ | ⟨h₁, hlast⟩
  · rcases digit_lt h₁ with h₂ | ⟨h₂, hthird⟩
    · rcases digit_lt h₂ with h₃ | ⟨h₃, hsecond⟩
      · exact .inl h₃
      · exact .inr ⟨h₃, .inl hsecond⟩
    · rw [h₂]
      exact .inr ⟨rfl, .inr ⟨rfl, .inl hthird⟩⟩
  · rw [h₁]
    exact .inr ⟨rfl, .inr ⟨rfl, .inr ⟨rfl, hlast⟩⟩⟩

theorem ofNat_lt_iff {m n : Nat} (hm : m < 256) (hn : n < 256) :
    UInt8.ofNat m < UInt8.ofNat n ↔ m < n := by
  rw [UInt8.lt_iff_toNat_lt, UInt8.toNat_ofNat_of_lt' hm, UInt8.toNat_ofNat_of_lt' hn]

theorem ofNat_inj {m n : Nat} (hm : m < 256) (hn : n < 256) :
    UInt8.ofNat m = UInt8.ofNat n ↔ m = n := by
  rw [← UInt8.toNat_inj, UInt8.toNat_ofNat_of_lt' hm, UInt8.toNat_ofNat_of_lt' hn]

theorem encodeChar_lt {c d : Char} (h : c < d) (rest rest' : List UInt8) :
    String.utf8EncodeChar c ++ rest < String.utf8EncodeChar d ++ rest' := by
  have hv : c.val.toNat < d.val.toNat := h
  have hd : d.val.toNat < 1114112 := by
    have hvalid := d.valid
    rw [UInt32.isValidChar, Nat.isValidChar] at hvalid
    omega
  simp only [String.utf8EncodeChar]
  generalize c.val.toNat = v at hv
  generalize d.val.toNat = w at hv hd
  have hdigits := digits_lt hv
  have hlead (n : Nat) (hn : n ≤ w) : n / 262144 % 8 = n / 262144 := Nat.mod_eq_of_lt (by omega)
  have hleadv := hlead v hv.le
  have hleadw := hlead w le_rfl
  -- One case for each number of bytes of the two.
  split_ifs
  all_goals
    simp (disch := omega) only [List.cons_append, List.cons_lt_cons_iff, ofNat_lt_iff, ofNat_inj]
    omega

theorem flatMap_encodeChar_lt {l m : List Char} (h : l < m) :
    l.flatMap String.utf8EncodeChar < m.flatMap String.utf8EncodeChar := by
  induction l generalizing m with
  | nil =>
      cases m with
      | nil => cases h
      | cons d m =>
          obtain ⟨first, rest, hencode⟩ :=
            List.exists_cons_of_ne_nil (String.utf8EncodeChar_ne_nil (c := d))
          rw [List.flatMap_cons, hencode]
          exact List.nil_lt_cons _ _
  | cons c l ih =>
      cases m with
      | nil => cases h
      | cons d m =>
          rw [List.flatMap_cons, List.flatMap_cons]
          rcases List.cons_lt_cons_iff.mp h with hlt | ⟨rfl, hrest⟩
          · exact encodeChar_lt hlt _ _
          · exact List.append_left_lt (ih hrest)

theorem utf8_lt {a b : String} (h : a < b) : utf8 a < utf8 b := by
  rw [utf8_eq, utf8_eq]
  exact flatMap_encodeChar_lt h

end Text

end TopicBus
