import Mathlib.Data.String.Basic

/-!
# Words in order of their bytes

The order of texts, which compares their characters one by one, is the order of their encodings,
which compares bytes.  The encoding of a character is a lead byte and up to three more bytes, of six
bits each:

    up to 0x7F        the character itself
    up to 0x7FF       0xC0 + bits     one more
    up to 0xFFFF      0xE0 + bits     two more
    up to 0x10FFFF    0xF0 + bits     three more

The lead bytes of longer encodings are greater, and where two lead bytes are equal, so are the
lengths.  So the encodings of two characters part before either ends, and they part in the order of
the characters (`below_encode`).
-/

namespace Spelling.Text

/-- The bytes of a text. -/
def bytes (s : String) : List UInt8 :=
  s.toUTF8.data.toList

/-! ## Lists that part -/

/-- Two lists part before either ends, the first with the lesser byte. -/
def Below (as bs : List UInt8) : Prop :=
  ∃ same a b as' bs', as = same ++ a :: as' ∧ bs = same ++ b :: bs' ∧ a < b

theorem Below.of_lt {a b : UInt8} (h : a < b) (as bs : List UInt8) : Below (a :: as) (b :: bs) :=
  ⟨[], a, b, as, bs, rfl, rfl, h⟩

theorem Below.cons {as bs : List UInt8} (h : Below as bs) (a : UInt8) :
    Below (a :: as) (a :: bs) := by
  obtain ⟨same, x, y, as', bs', rfl, rfl, hlt⟩ := h
  exact ⟨a :: same, x, y, as', bs', rfl, rfl, hlt⟩

/-- Lists that part are in order, whatever follows them. -/
theorem Below.append_lt {as bs : List UInt8} (h : Below as bs) (cs ds : List UInt8) :
    as ++ cs < bs ++ ds := by
  obtain ⟨same, a, b, as', bs', rfl, rfl, hlt⟩ := h
  rw [List.append_assoc, List.append_assoc]
  exact List.append_left_lt (List.cons_lt_cons_iff.mpr (.inl hlt))

/-! ## Encodings of characters -/

/-- The last bytes of an encoding, six bits each. -/
def lastBytes : Nat → Nat → List UInt8
  | 0, _ => []
  | k + 1, v => UInt8.ofNat (v / 64 ^ k % 64 + 0x80) :: lastBytes k v

/-- An encoding by a lead byte and some more. -/
def encoding (mark k v : Nat) : List UInt8 :=
  UInt8.ofNat (v / 64 ^ k + mark) :: lastBytes k v

theorem ofNat_lt_ofNat {a b : Nat} (h : a < b) (hb : b < 256) : UInt8.ofNat a < UInt8.ofNat b := by
  rw [UInt8.lt_iff_toNat_lt, UInt8.toNat_ofNat', UInt8.toNat_ofNat']
  omega

theorem below_lastBytes {m n : Nat} (h : m < n) (k : Nat) (hsame : m / 64 ^ k = n / 64 ^ k) :
    Below (lastBytes k m) (lastBytes k n) := by
  induction k with
  | zero => simp at hsame; omega
  | succ k ih =>
      rw [Nat.pow_succ, ← Nat.div_div_eq_div_mul, ← Nat.div_div_eq_div_mul] at hsame
      have hle : m / 64 ^ k ≤ n / 64 ^ k := Nat.div_le_div_right (Nat.le_of_lt h)
      rw [lastBytes, lastBytes]
      rcases Nat.lt_or_eq_of_le hle with hlt | heq
      · exact .of_lt (ofNat_lt_ofNat (by omega) (by omega)) _ _
      · rw [heq]
        exact (ih heq).cons _

theorem below_encoding {mark k m n : Nat} (h : m < n) (hbound : n / 64 ^ k + mark < 256) :
    Below (encoding mark k m) (encoding mark k n) := by
  have hle : m / 64 ^ k ≤ n / 64 ^ k := Nat.div_le_div_right (Nat.le_of_lt h)
  rw [encoding, encoding]
  rcases Nat.lt_or_eq_of_le hle with hlt | heq
  · exact .of_lt (ofNat_lt_ofNat (by omega) hbound) _ _
  · rw [heq]
    exact (below_lastBytes h k heq).cons _

/-- How a character is encoded. -/
inductive Encoded : Nat → List UInt8 → Prop
  | one {v : Nat} : v < 0x80 → Encoded v (encoding 0 0 v)
  | two {v : Nat} : 0x80 ≤ v → v < 0x800 → Encoded v (encoding 0xC0 1 v)
  | three {v : Nat} : 0x800 ≤ v → v < 0x10000 → Encoded v (encoding 0xE0 2 v)
  | four {v : Nat} : 0x10000 ≤ v → v < 0x110000 → Encoded v (encoding 0xF0 3 v)

theorem encoded (c : Char) : Encoded c.toNat (String.utf8EncodeChar c) := by
  have hvalid : c.toNat < 0x110000 := by
    have h := c.valid
    simp only [UInt32.isValidChar, Nat.isValidChar] at h
    change c.val.toNat < 0x110000
    omega
  change Encoded c.val.toNat _
  change c.val.toNat < 0x110000 at hvalid
  unfold String.utf8EncodeChar
  generalize c.val.toNat = v at hvalid
  dsimp only
  split
  · next h => simpa [encoding, lastBytes] using Encoded.one (v := v) (by omega)
  · split
    · next h1 h2 =>
      rw [Nat.mod_eq_of_lt (by omega)]
      simpa [encoding, lastBytes] using Encoded.two (v := v) (by omega) (by omega)
    · split
      · rw [Nat.mod_eq_of_lt (by omega)]
        simpa [encoding, lastBytes] using Encoded.three (v := v) (by omega) (by omega)
      · rw [Nat.mod_eq_of_lt (by omega)]
        simpa [encoding, lastBytes] using Encoded.four (v := v) (by omega) (by omega)

/-- The encoding of a lesser character parts from that of a greater one as its lesser. -/
theorem Encoded.below {m n : Nat} {as bs : List UInt8} (hm : Encoded m as) (hn : Encoded n bs)
    (h : m < n) : Below as bs := by
  -- Encodings of one length go by their bits.  Of two lengths, the longer has the greater lead byte.
  cases hm <;> cases hn <;> first
    | omega
    | exact below_encoding h (by omega)
    | exact .of_lt (ofNat_lt_ofNat (by omega) (by omega)) _ _

theorem below_encode {c d : Char} (h : c < d) :
    Below (String.utf8EncodeChar c) (String.utf8EncodeChar d) :=
  (encoded c).below (encoded d) h

/-! ## Texts -/

theorem bytes_eq (s : String) : bytes s = s.toList.flatMap String.utf8EncodeChar := by
  rw [bytes, String.toUTF8_eq_toByteArray, ← String.utf8Encode_toList, List.utf8Encode,
    List.toList_data_toByteArray]

example : bytes "aé" = [0x61, 0xC3, 0xA9] := by
  rfl

theorem flatMap_encode_lt {cs ds : List Char} (h : cs < ds) :
    cs.flatMap String.utf8EncodeChar < ds.flatMap String.utf8EncodeChar := by
  induction h with
  | nil =>
      rename_i d ds
      rw [List.flatMap_nil, List.flatMap_cons]
      obtain ⟨b, bs, hd⟩ := List.exists_cons_of_ne_nil (String.utf8EncodeChar_ne_nil (c := d))
      rw [hd]
      exact List.nil_lt_cons _ _
  | rel h => exact (below_encode h).append_lt _ _
  | cons _ ih => exact List.append_left_lt ih

/-- **Texts are in order exactly if their bytes are.** -/
theorem bytes_lt_bytes_iff {s t : String} : bytes s < bytes t ↔ s < t := by
  have hlt : ∀ {s t : String}, s < t → bytes s < bytes t := fun h => by
    rw [bytes_eq, bytes_eq]
    exact flatMap_encode_lt h
  refine ⟨fun h => ?_, hlt⟩
  by_contra hle
  rcases eq_or_lt_of_le (not_lt.mp hle) with rfl | hgt
  · exact List.lt_irrefl _ h
  · exact List.lt_asymm h (hlt hgt)

end Spelling.Text
