import ElasticOpenTelemetry.Foundations.Text

/-!
# UTF-8

`Encoding.UTF8.GetBytes` and `Encoding.UTF8.GetString`. Decoding replaces each maximal part of an
ill-formed sequence by one replacement character, so that it is total. The characters
themselves are encoded and decoded by the functions of the core library.

`getString_getBytes` is the round trip. The rest is what a byte-wise scan for ASCII characters
relies on: an ASCII character is one byte, and no byte of another character is that byte.
-/

namespace DotNet

/-- `Encoding.UTF8.GetBytes`. -/
def getBytes (s : Str) : List UInt8 := s.flatMap String.utf8EncodeChar

/-- Whether the second byte of a sequence agrees with its first one. -/
def isSecondByte (lead second : UInt8) : Bool :=
  if lead = 0xE0 then 0xA0 ≤ second && second ≤ 0xBF
  else if lead = 0xED then 0x80 ≤ second && second ≤ 0x9F
  else if lead = 0xF0 then 0x90 ≤ second && second ≤ 0xBF
  else if lead = 0xF4 then 0x80 ≤ second && second ≤ 0x8F
  else 0xC2 ≤ lead && lead ≤ 0xF4 && 0x80 ≤ second && second ≤ 0xBF

/-- The number of bytes that one replacement character stands for, at an ill-formed sequence. -/
def maximalSubpart : List UInt8 → ℕ
  | lead :: second :: third :: _ =>
    if lead < 0xE0 || !isSecondByte lead second then 1
    else if 0xF0 ≤ lead && 0x80 ≤ third && third ≤ 0xBF then 3
    else 2
  | [lead, second] => if lead < 0xE0 || !isSecondByte lead second then 1 else 2
  | _ => 1

/-- `getString`'s loop. Every round takes a byte at least. -/
def getStringLoop : ℕ → List UInt8 → Str
  | 0, _ => []
  | _ + 1, [] => []
  | fuel + 1, b :: bs =>
    match (b :: bs).toByteArray.utf8DecodeChar? 0 with
    | some c => c :: getStringLoop fuel ((b :: bs).drop c.utf8Size)
    | none => '\uFFFD' :: getStringLoop fuel ((b :: bs).drop (maximalSubpart (b :: bs)))

/-- `Encoding.UTF8.GetString`. -/
def getString (bytes : List UInt8) : Str := getStringLoop bytes.length bytes

/-! ### The round trip -/

theorem getBytes_cons (c : Char) (s : Str) :
    getBytes (c :: s) = String.utf8EncodeChar c ++ getBytes s := List.flatMap_cons

theorem getBytes_append (s t : Str) : getBytes (s ++ t) = getBytes s ++ getBytes t :=
  List.flatMap_append

theorem utf8EncodeChar_ne_nil (c : Char) : String.utf8EncodeChar c ≠ [] := by
  rw [← List.length_pos_iff_ne_nil, String.length_utf8EncodeChar]
  exact c.utf8Size_pos

theorem getStringLoop_getBytes (s : Str) (fuel : ℕ) (h : s.length ≤ fuel) :
    getStringLoop fuel (getBytes s) = s := by
  induction s generalizing fuel with
  | nil => cases fuel <;> rfl
  | cons c s ih =>
    cases fuel with
    | zero => simp at h
    | succ fuel =>
      obtain ⟨b, bs, hb⟩ := List.exists_cons_of_ne_nil (utf8EncodeChar_ne_nil c)
      have hcons : getBytes (c :: s) = b :: (bs ++ getBytes s) := by
        rw [getBytes_cons, hb, List.cons_append]
      have hdecode : (getBytes (c :: s)).toByteArray.utf8DecodeChar? 0 = some c := by
        rw [getBytes_cons, List.toByteArray_append]
        exact ByteArray.utf8DecodeChar?_utf8EncodeChar_append
      have hdrop : (getBytes (c :: s)).drop c.utf8Size = getBytes s := by
        rw [getBytes_cons, ← String.length_utf8EncodeChar, List.drop_left]
      rw [hcons] at hdecode hdrop ⊢
      rw [getStringLoop, hdecode]
      simp only [hdrop]
      rw [ih fuel (by simpa using h)]

/-- **Round trip.** What is encoded decodes as it was. -/
theorem getString_getBytes (s : Str) : getString (getBytes s) = s := by
  refine getStringLoop_getBytes s _ ?_
  induction s with
  | nil => exact le_refl 0
  | cons c s ih =>
    rw [getBytes_cons, List.length_append, String.length_utf8EncodeChar, List.length_cons]
    have hpos := c.utf8Size_pos
    omega

/-! ### ASCII characters -/

/-- An ASCII character is one byte. -/
theorem utf8EncodeChar_of_ascii {c : Char} (h : c.toNat < 0x80) :
    String.utf8EncodeChar c = [UInt8.ofNat c.toNat] := by
  have hle : c.val.toNat ≤ 0x7F := Nat.le_of_lt_succ h
  exact if_pos hle

/-- No byte of another character is an ASCII character. -/
theorem le_of_mem_utf8EncodeChar {c : Char} (h : 0x80 ≤ c.toNat) {b : UInt8}
    (hb : b ∈ String.utf8EncodeChar c) : 0x80 ≤ b.toNat := by
  have hc : 0x80 ≤ c.val.toNat := h
  rw [String.utf8EncodeChar] at hb
  generalize c.val.toNat = v at hc hb
  rw [if_neg (by omega)] at hb
  split_ifs at hb <;> simp only [List.mem_cons, List.not_mem_nil, or_false] at hb
  · rcases hb with rfl | rfl <;> rw [UInt8.toNat_ofNat'] <;> omega
  · rcases hb with rfl | rfl | rfl <;> rw [UInt8.toNat_ofNat'] <;> omega
  · rcases hb with rfl | rfl | rfl | rfl <;> rw [UInt8.toNat_ofNat'] <;> omega

/-- A byte of an encoding that is an ASCII character is the whole of it. -/
theorem eq_of_mem_utf8EncodeChar {c a : Char} (ha : a.toNat < 0x80)
    (h : UInt8.ofNat a.toNat ∈ String.utf8EncodeChar c) : c = a := by
  have hbyte : (UInt8.ofNat a.toNat).toNat = a.toNat := by
    rw [UInt8.toNat_ofNat']
    omega
  by_cases hc : c.toNat < 0x80
  · rw [utf8EncodeChar_of_ascii hc, List.mem_singleton] at h
    have heq : a.toNat = c.toNat := by
      have hnat := congrArg UInt8.toNat h
      rw [hbyte, UInt8.toNat_ofNat'] at hnat
      omega
    exact (Char.toNat_inj.mp heq).symm
  · have hle := le_of_mem_utf8EncodeChar (Nat.le_of_not_lt hc) h
    omega

/-- An ASCII word is a prefix of an encoding exactly when it is one of the text. -/
theorem getBytes_isPrefix_iff {word s : Str} (hword : ∀ c ∈ word, c.toNat < 0x80) :
    getBytes word <+: getBytes s ↔ word <+: s := by
  induction word generalizing s with
  | nil => simp [getBytes]
  | cons a word ih =>
    have ha := hword a List.mem_cons_self
    have hbytes : getBytes (a :: word) = UInt8.ofNat a.toNat :: getBytes word := by
      rw [getBytes_cons, utf8EncodeChar_of_ascii ha, List.singleton_append]
    cases s with
    | nil => simp [getBytes]
    | cons c s =>
      rw [hbytes, List.cons_prefix_cons, ← ih fun d hd => hword d (List.mem_cons_of_mem a hd)]
      constructor
      · intro hpre
        obtain ⟨b, bs, hb⟩ := List.exists_cons_of_ne_nil (utf8EncodeChar_ne_nil c)
        rw [getBytes_cons, hb, List.cons_append, List.cons_prefix_cons] at hpre
        obtain rfl : c = a := eq_of_mem_utf8EncodeChar ha (by rw [hb, hpre.1]; simp)
        rw [utf8EncodeChar_of_ascii ha, List.cons.injEq] at hb
        rw [← hb.2] at hpre
        exact ⟨rfl, hpre.2⟩
      · rintro ⟨rfl, hpre⟩
        rw [getBytes_cons, utf8EncodeChar_of_ascii ha, List.singleton_append,
          List.cons_prefix_cons]
        exact ⟨rfl, hpre⟩

end DotNet
