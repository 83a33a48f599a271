import Logbook.Text.Utf8
import Mathlib.Data.List.Basic

/-! Decoding undoes encoding. What a step reads is one of the encodings of a character, whatever
stands behind it, and each character has just one. So the bytes that can be decoded are those that
encode a text, and nothing is replaced in them. -/

namespace Logbook.Text.Utf8

/-! ### Characters -/

/-- The encodings of characters: the first byte tells how many there are, and each one behind it
holds six bits. The second byte has fewer values where the encoding would be too long, a surrogate
or beyond U+10FFFF. -/
inductive IsForm : Char → List UInt8 → Prop where
  | one {a : Nat} (ha : a < 0x80) : IsForm (Char.ofNat a) [UInt8.ofNat a]
  | two {a b : Nat} (ha : a < 0x20) (hlong : 2 ≤ a) (hb : b < 0x40) :
      IsForm (Char.ofNat (0x40 * a + b)) [UInt8.ofNat (0xC0 + a), UInt8.ofNat (0x80 + b)]
  | three {a b c : Nat} (ha : a < 0x10) (hlong : a = 0 → 0x20 ≤ b)
      (hsurrogate : a = 0xD → b < 0x20) (hb : b < 0x40) (hc : c < 0x40) :
      IsForm (Char.ofNat (0x40 * (0x40 * a + b) + c))
        [UInt8.ofNat (0xE0 + a), UInt8.ofNat (0x80 + b), UInt8.ofNat (0x80 + c)]
  | four {a b c d : Nat} (ha : a < 5) (hlong : a = 0 → 0x10 ≤ b) (hbeyond : a = 4 → b < 0x10)
      (hb : b < 0x40) (hc : c < 0x40) (hd : d < 0x40) :
      IsForm (Char.ofNat (0x40 * (0x40 * (0x40 * a + b) + c) + d))
        [UInt8.ofNat (0xF0 + a), UInt8.ofNat (0x80 + b), UInt8.ofNat (0x80 + c),
          UInt8.ofNat (0x80 + d)]

theorem toNat_ofNat {n : Nat} (h : n < 0xD800 ∨ 0xDFFF < n ∧ n < 0x110000) :
    (Char.ofNat n).val.toNat = n := by
  have hvalid : n.isValidChar := h
  rw [Char.ofNat, dif_pos hvalid]
  rfl

theorem isForm_utf8EncodeChar (c : Char) : IsForm c (String.utf8EncodeChar c) := by
  have hvalid : c.toNat < 0xD800 ∨ 0xDFFF < c.toNat ∧ c.toNat < 0x110000 := c.valid
  have hval : c.val.toNat = c.toNat := rfl
  have hchar := Char.ofNat_toNat c
  rw [String.utf8EncodeChar]
  simp only [hval]
  generalize c.toNat = n at hvalid hchar
  subst hchar
  by_cases h₁ : n ≤ 0x7F
  · rw [if_pos h₁]
    exact .one (by omega)
  rw [if_neg h₁]
  by_cases h₂ : n ≤ 0x7FF
  · have hform := IsForm.two (a := n / 64) (b := n % 64) (by omega) (by omega) (by omega)
    rw [if_pos h₂]
    rwa [show 0x40 * (n / 64) + n % 64 = n by omega,
      show 0xC0 + n / 64 = n / 64 % 32 + 192 by omega, Nat.add_comm 0x80] at hform
  rw [if_neg h₂]
  by_cases h₃ : n ≤ 0xFFFF
  · have hform := IsForm.three (a := n / 4096) (b := n / 64 % 64) (c := n % 64) (by omega)
      (by omega) (by omega) (by omega) (by omega)
    rw [if_pos h₃]
    rwa [show 0x40 * (0x40 * (n / 4096) + n / 64 % 64) + n % 64 = n by omega,
      show 0xE0 + n / 4096 = n / 4096 % 16 + 224 by omega, Nat.add_comm 0x80,
      Nat.add_comm 0x80] at hform
  · have hform := IsForm.four (a := n / 262144) (b := n / 4096 % 64) (c := n / 64 % 64)
      (d := n % 64) (by omega) (by omega) (by omega) (by omega) (by omega) (by omega)
    rw [if_neg h₃]
    rwa [show 0x40 * (0x40 * (0x40 * (n / 262144) + n / 4096 % 64) + n / 64 % 64) + n % 64 = n by
        omega, show 0xF0 + n / 262144 = n / 262144 % 8 + 240 by omega, Nat.add_comm 0x80,
      Nat.add_comm 0x80, Nat.add_comm 0x80] at hform

theorem IsForm.eq {c : Char} {bytes : List UInt8} (h : IsForm c bytes) :
    bytes = String.utf8EncodeChar c := by
  cases h with
  | @one a ha =>
    have hvalid : a < 0xD800 ∨ 0xDFFF < a ∧ a < 0x110000 := by omega
    rw [String.utf8EncodeChar]
    simp only [toNat_ofNat hvalid]
    rw [if_pos (by omega)]
  | @two a b ha hlong hb =>
    generalize hn : 0x40 * a + b = n
    have hvalid : n < 0xD800 ∨ 0xDFFF < n ∧ n < 0x110000 := by omega
    rw [String.utf8EncodeChar]
    simp only [toNat_ofNat hvalid]
    rw [if_neg (by omega), if_pos (by omega), show n / 64 % 32 + 192 = 0xC0 + a by omega,
      show n % 64 + 128 = 0x80 + b by omega]
  | @three a b c ha hlong hsurrogate hb hc =>
    generalize hn : 0x40 * (0x40 * a + b) + c = n
    have hvalid : n < 0xD800 ∨ 0xDFFF < n ∧ n < 0x110000 := by omega
    rw [String.utf8EncodeChar]
    simp only [toNat_ofNat hvalid]
    rw [if_neg (by omega), if_neg (by omega), if_pos (by omega),
      show n / 4096 % 16 + 224 = 0xE0 + a by omega, show n / 64 % 64 + 128 = 0x80 + b by omega,
      show n % 64 + 128 = 0x80 + c by omega]
  | @four a b c d ha hlong hbeyond hb hc hd =>
    generalize hn : 0x40 * (0x40 * (0x40 * a + b) + c) + d = n
    have hvalid : n < 0xD800 ∨ 0xDFFF < n ∧ n < 0x110000 := by omega
    rw [String.utf8EncodeChar]
    simp only [toNat_ofNat hvalid]
    rw [if_neg (by omega), if_neg (by omega), if_neg (by omega),
      show n / 262144 % 8 + 240 = 0xF0 + a by omega, show n / 4096 % 64 + 128 = 0x80 + b by omega,
      show n / 64 % 64 + 128 = 0x80 + c by omega, show n % 64 + 128 = 0x80 + d by omega]

/-- A byte below 0x80 is a character by itself. -/
theorem IsForm.ascii {c : Char} {bytes : List UInt8} (h : IsForm c bytes) {b : UInt8}
    (hb : b ∈ bytes) (hascii : b.toNat < 0x80) : bytes = [b] ∧ c = Char.ofNat b.toNat := by
  have hlarge {n : Nat} (hlow : 0x80 ≤ n) (hhigh : n < 0x100) : b ≠ UInt8.ofNat n := by
    rintro rfl
    rw [UInt8.toNat_ofNat_of_lt' hhigh] at hascii
    omega
  have hnone {bytes : List UInt8} (hbytes : ∀ x ∈ bytes, b ≠ x) (hb : b ∈ bytes) : False :=
    hbytes b hb rfl
  cases h with
  | one ha =>
    obtain rfl := List.mem_singleton.mp hb
    rw [UInt8.toNat_ofNat_of_lt' (by rw [UInt8.size]; omega)]
    exact ⟨rfl, rfl⟩
  | two ha hlong hb₁ =>
    refine (hnone ?_ hb).elim
    simp only [List.forall_mem_cons]
    exact ⟨hlarge (by omega) (by omega), hlarge (by omega) (by omega), by simp⟩
  | three ha hlong hsurrogate hb₁ hc =>
    refine (hnone ?_ hb).elim
    simp only [List.forall_mem_cons]
    exact ⟨hlarge (by omega) (by omega), hlarge (by omega) (by omega),
      hlarge (by omega) (by omega), by simp⟩
  | four ha hlong hbeyond hb₁ hc hd =>
    refine (hnone ?_ hb).elim
    simp only [List.forall_mem_cons]
    exact ⟨hlarge (by omega) (by omega), hlarge (by omega) (by omega),
      hlarge (by omega) (by omega), hlarge (by omega) (by omega), by simp⟩

/-! ### Steps -/

theorem lead?_two : ∀ a < 0x20, 2 ≤ a → lead? (0xC0 + a) = some ⟨1, a, 0x80, 0xBF⟩ := by decide

theorem lead?_three : ∀ a < 0x10, lead? (0xE0 + a) =
    some ⟨2, a, if a = 0 then 0xA0 else 0x80, if a = 0xD then 0x9F else 0xBF⟩ := by decide

theorem lead?_four : ∀ a < 5, lead? (0xF0 + a) =
    some ⟨3, a, if a = 0 then 0x90 else 0x80, if a = 4 then 0x8F else 0xBF⟩ := by decide

/-- Other bytes begin no character. -/
theorem lead?_cases {n : Nat} (hn : n < 0x100) (h : lead? n ≠ none) :
    n < 0x80 ∨ (∃ a < 0x20, 2 ≤ a ∧ n = 0xC0 + a) ∨ (∃ a < 0x10, n = 0xE0 + a) ∨
      ∃ a < 5, n = 0xF0 + a := by
  have hrange : n < 0x80 ∨ 0xC2 ≤ n ∧ n < 0xF5 := by
    by_contra hout
    apply h
    by_cases hlow : n < 0xC2
    · rw [lead?, if_neg (by omega), if_pos hlow]
    · rw [lead?, if_neg (by omega), if_neg hlow, if_neg (by omega), if_neg (by omega),
        if_neg (by omega), if_neg (by omega), if_neg (by omega), if_neg (by omega),
        if_neg (by omega)]
  by_cases h₁ : n < 0x80
  · exact .inl h₁
  by_cases h₂ : n < 0xE0
  · exact .inr (.inl ⟨n - 0xC0, by omega, by omega, by omega⟩)
  by_cases h₃ : n < 0xF0
  · exact .inr (.inr (.inl ⟨n - 0xE0, by omega, by omega⟩))
  · exact .inr (.inr (.inr ⟨n - 0xF0, by omega, by omega⟩))

section Steps

variable {n a bits low high d : Nat} {c : Char} {bytes rest : List UInt8}

theorem step_ofNat {lead : Lead} (hn : n < 0x100) (h : lead? n = some lead) :
    step (UInt8.ofNat n) rest = follow lead.count lead.bits lead.low lead.high rest := by
  rw [step, UInt8.toNat_ofNat_of_lt' hn, h]

theorem step_one (ha : a < 0x80) : step (UInt8.ofNat a) rest = (some (Char.ofNat a), rest) := by
  have hlead : lead? a = some ⟨0, a, 0, 0⟩ := by rw [lead?, if_pos ha]
  exact step_ofNat (by omega) hlead

theorem step_two (ha : a < 0x20) (hlong : 2 ≤ a) :
    step (UInt8.ofNat (0xC0 + a)) rest = follow 1 a 0x80 0xBF rest :=
  step_ofNat (by omega) (lead?_two a ha hlong)

theorem step_three (ha : a < 0x10) : step (UInt8.ofNat (0xE0 + a)) rest =
    follow 2 a (if a = 0 then 0xA0 else 0x80) (if a = 0xD then 0x9F else 0xBF) rest :=
  step_ofNat (by omega) (lead?_three a ha)

theorem step_four (ha : a < 5) : step (UInt8.ofNat (0xF0 + a)) rest =
    follow 3 a (if a = 0 then 0x90 else 0x80) (if a = 4 then 0x8F else 0xBF) rest :=
  step_ofNat (by omega) (lead?_four a ha)

theorem follow_ofNat (hd : d < 0x40) (hlow : low ≤ 0x80 + d) (hhigh : 0x80 + d ≤ high) :
    follow (n + 1) bits low high (UInt8.ofNat (0x80 + d) :: rest) =
      follow n (0x40 * bits + d) 0x80 0xBF rest := by
  have hbyte : (UInt8.ofNat (0x80 + d)).toNat = 0x80 + d :=
    UInt8.toNat_ofNat_of_lt' (by rw [UInt8.size]; omega)
  rw [follow, hbyte, if_pos ⟨hlow, hhigh⟩, show (0x80 + d) % 0x40 = d by omega]

theorem exists_of_follow (hlow : 0x80 ≤ low) (hhigh : high ≤ 0xBF)
    (h : follow (n + 1) bits low high bytes = (some c, rest)) :
    ∃ d tail, bytes = UInt8.ofNat (0x80 + d) :: tail ∧ d < 0x40 ∧ low ≤ 0x80 + d ∧
      0x80 + d ≤ high ∧ follow n (0x40 * bits + d) 0x80 0xBF tail = (some c, rest) := by
  cases bytes with
  | nil => simp [follow] at h
  | cons b tail =>
    rw [follow] at h
    split at h
    · next hb =>
      refine ⟨b.toNat % 0x40, tail, ?_, by omega, by omega, by omega, h⟩
      rw [show 0x80 + b.toNat % 0x40 = b.toNat by omega, UInt8.ofNat_toNat]
    · simp at h

theorem follow_zero (h : follow 0 bits low high bytes = (some c, rest)) :
    c = Char.ofNat bits ∧ bytes = rest := by
  obtain ⟨hc, hrest⟩ := Prod.mk.inj h
  exact ⟨(Option.some.inj hc).symm, hrest⟩

theorem IsForm.step (h : IsForm c bytes) (rest : List UInt8) :
    ∃ b tail, bytes = b :: tail ∧ Utf8.step b (tail ++ rest) = (some c, rest) := by
  cases h with
  | one ha => exact ⟨_, _, rfl, step_one ha⟩
  | two ha hlong hb =>
    refine ⟨_, _, rfl, ?_⟩
    rw [step_two ha hlong, List.cons_append, follow_ofNat hb (by omega) (by omega)]
    rfl
  | three ha hlong hsurrogate hb hc =>
    refine ⟨_, _, rfl, ?_⟩
    rw [step_three ha, List.cons_append, follow_ofNat hb (by split <;> omega) (by split <;> omega),
      List.cons_append, follow_ofNat hc (by omega) (by omega)]
    rfl
  | four ha hlong hbeyond hb hc hd =>
    refine ⟨_, _, rfl, ?_⟩
    rw [step_four ha, List.cons_append, follow_ofNat hb (by split <;> omega) (by split <;> omega),
      List.cons_append, follow_ofNat hc (by omega) (by omega), List.cons_append,
      follow_ofNat hd (by omega) (by omega)]
    rfl

theorem isForm_of_step {b : UInt8} (h : step b bytes = (some c, rest)) :
    ∃ tail, bytes = tail ++ rest ∧ IsForm c (b :: tail) := by
  have hlead : lead? b.toNat ≠ none := by
    intro hnone
    simp [step, hnone] at h
  have hcases := lead?_cases b.toNat_lt hlead
  have hb : b = UInt8.ofNat b.toNat := by simp
  rw [hb] at h ⊢
  generalize b.toNat = n at h hcases
  obtain ha | ⟨a, ha, hlong, rfl⟩ | ⟨a, ha, rfl⟩ | ⟨a, ha, rfl⟩ := hcases
  · rw [step_one ha] at h
    obtain ⟨hc, rfl⟩ := Prod.mk.inj h
    obtain rfl := Option.some.inj hc
    exact ⟨[], rfl, .one ha⟩
  · rw [step_two ha hlong] at h
    obtain ⟨b, _, rfl, hb, -, -, h⟩ := exists_of_follow (by omega) (by omega) h
    obtain ⟨rfl, rfl⟩ := follow_zero h
    exact ⟨[_], rfl, .two ha hlong hb⟩
  · rw [step_three ha] at h
    obtain ⟨b, _, rfl, hb, hlow, hhigh, h⟩ :=
      exists_of_follow (by split <;> omega) (by split <;> omega) h
    obtain ⟨c, _, rfl, hc, -, -, h⟩ := exists_of_follow (by omega) (by omega) h
    obtain ⟨rfl, rfl⟩ := follow_zero h
    refine ⟨[_, _], rfl, .three ha (fun hzero => ?_) (fun hsurrogate => ?_) hb hc⟩
    · rw [if_pos hzero] at hlow
      omega
    · rw [if_pos hsurrogate] at hhigh
      omega
  · rw [step_four ha] at h
    obtain ⟨b, _, rfl, hb, hlow, hhigh, h⟩ :=
      exists_of_follow (by split <;> omega) (by split <;> omega) h
    obtain ⟨c, _, rfl, hc, -, -, h⟩ := exists_of_follow (by omega) (by omega) h
    obtain ⟨d, _, rfl, hd, -, -, h⟩ := exists_of_follow (by omega) (by omega) h
    obtain ⟨rfl, rfl⟩ := follow_zero h
    refine ⟨[_, _, _], rfl, .four ha (fun hzero => ?_) (fun hlast => ?_) hb hc hd⟩
    · rw [if_pos hzero] at hlow
      omega
    · rw [if_pos hlast] at hhigh
      omega

theorem follow_length_le : (follow n bits low high bytes).2.length ≤ bytes.length := by
  induction n generalizing bits low high bytes with
  | zero => exact Nat.le_refl _
  | succ n ih =>
    cases bytes with
    | nil => exact Nat.le_refl _
    | cons b tail =>
      rw [follow]
      split
      · exact Nat.le_trans ih (Nat.le_succ _)
      · exact Nat.le_refl _

theorem step_length_le (b : UInt8) (bytes : List UInt8) :
    (step b bytes).2.length ≤ bytes.length := by
  rw [step]
  split
  · exact Nat.le_refl _
  · exact follow_length_le

end Steps

/-! ### Texts -/

theorem decodeSteps_cons (n : Nat) (b : UInt8) (rest : List UInt8) :
    decodeSteps (n + 1) (b :: rest) = (step b rest).1 :: decodeSteps n (step b rest).2 := rfl

/-- Each step takes a byte at least, so there is fuel enough. -/
theorem decodeSteps_eq {n m : Nat} {bytes : List UInt8} (hn : bytes.length ≤ n)
    (hm : bytes.length ≤ m) : decodeSteps n bytes = decodeSteps m bytes := by
  induction n generalizing m bytes with
  | zero =>
    obtain rfl := List.length_eq_zero_iff.mp (Nat.le_zero.mp hn)
    cases m <;> rfl
  | succ n ih =>
    cases bytes with
    | nil => cases m <;> rfl
    | cons b rest =>
      cases m with
      | zero => simp at hm
      | succ m =>
        have hlen := step_length_le b rest
        rw [List.length_cons] at hn hm
        rw [decodeSteps_cons, decodeSteps_cons, ih (by omega) (show _ ≤ m by omega)]

theorem decode_cons (b : UInt8) (rest : List UInt8) :
    decode (b :: rest) = (step b rest).1 :: decode (step b rest).2 := by
  rw [decode, List.length_cons, decodeSteps_cons, decode,
    decodeSteps_eq (step_length_le b rest) (Nat.le_refl _)]

theorem decode_utf8EncodeChar_append (c : Char) (rest : List UInt8) :
    decode (String.utf8EncodeChar c ++ rest) = some c :: decode rest := by
  obtain ⟨b, tail, hbytes, hstep⟩ := (isForm_utf8EncodeChar c).step rest
  rw [hbytes, List.cons_append, decode_cons, hstep]

theorem decode_eq_map_some_iff {bytes : List UInt8} {chars : List Char} :
    decode bytes = chars.map some ↔ bytes = chars.flatMap String.utf8EncodeChar := by
  induction chars generalizing bytes with
  | nil =>
    cases bytes with
    | nil => simp [decode, decodeSteps]
    | cons b rest => simp [decode_cons]
  | cons c chars ih =>
    rw [List.flatMap_cons, List.map_cons]
    constructor
    · intro h
      cases bytes with
      | nil => simp [decode, decodeSteps] at h
      | cons b rest =>
        rw [decode_cons] at h
        obtain ⟨hc, hrest⟩ := List.cons.inj h
        have hstep : step b rest = (some c, chars.flatMap String.utf8EncodeChar) :=
          Prod.ext hc (ih.mp hrest)
        obtain ⟨tail, rfl, hform⟩ := isForm_of_step hstep
        rw [← hform.eq, List.cons_append]
    · rintro rfl
      rw [decode_utf8EncodeChar_append, ih.mpr rfl]

theorem mapM_id_eq_some_iff {α : Type} {l : List (Option α)} {items : List α} :
    l.mapM id = some items ↔ l = items.map some := by
  induction l generalizing items with
  | nil => cases items <;> simp
  | cons x l ih =>
    cases x with
    | none => cases items <;> simp
    | some a => cases items <;> simp [Option.bind_eq_some_iff, ih, and_comm]

theorem encode_eq (text : String) : encode text = text.toList.flatMap String.utf8EncodeChar := by
  rw [encode, String.toUTF8_eq_toByteArray, ← String.utf8Encode_toList, List.utf8Encode,
    List.toList_data_toByteArray]

/-- What is decoded are the bytes that encode a text. -/
theorem decode?_eq_some_iff {bytes : List UInt8} {text : String} :
    decode? bytes = some text ↔ bytes = encode text := by
  rw [decode?, Option.map_eq_some_iff, encode_eq, ← decode_eq_map_some_iff]
  constructor
  · rintro ⟨chars, hchars, rfl⟩
    rw [mapM_id_eq_some_iff.mp hchars, String.toList_ofList]
  · intro h
    exact ⟨text.toList, mapM_id_eq_some_iff.mpr h, String.ofList_toList⟩

theorem decode?_encode (text : String) : decode? (encode text) = some text :=
  decode?_eq_some_iff.mpr rfl

/-- Nothing is replaced in the bytes of a text. -/
theorem decodeLossy_encode (text : String) : decodeLossy (encode text) = text := by
  have h := decode_eq_map_some_iff.mpr (encode_eq text)
  simp [decodeLossy, h, Function.comp_def]

end Logbook.Text.Utf8
