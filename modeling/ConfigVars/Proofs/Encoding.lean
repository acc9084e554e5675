import ConfigVars.Text.Utf8
import Mathlib.Data.List.Basic

/-!
# Texts as bytes

The bytes of a text are those of its characters (`bytesOf`), one to four for each.  What is read
from them is the text again, to its end (`decode_bytesOf`): the first byte of a character tells how
many there are, the others go on with it and carry the rest of its number
(`decodeFrom_one` to `decodeFrom_four`).
-/

namespace ConfigVars.Text.Utf8

/-- The bytes of a text. -/
def bytesOf (text : String) : List UInt8 := text.toUTF8.data.toList

theorem bytesOf_eq (text : String) : bytesOf text = text.toList.flatMap String.utf8EncodeChar := by
  have hbytes : (String.ofList text.toList).toByteArray = text.toList.utf8Encode :=
    String.toByteArray_ofList
  rw [String.ofList_toList] at hbytes
  rw [bytesOf, String.toUTF8, hbytes, List.utf8Encode, List.toList_data_toByteArray]

/-! ### Bytes that go on -/

section Bytes

variable {a b c d : UInt8}

theorem isContinuation_iff : isContinuation b = true ↔ 0x80 ≤ b.toNat ∧ b.toNat < 0xc0 := by
  simp [isContinuation, UInt8.le_iff_toNat_le, UInt8.lt_iff_toNat_lt]

/-- The second byte of a character fits where it keeps the bounds that the first one sets. -/
theorem fitsSecond_of_bounds (hb : isContinuation b = true)
    (hshort : a.toNat = 0xe0 → 0xa0 ≤ b.toNat) (hsurrogate : a.toNat = 0xed → b.toNat < 0xa0)
    (hlong : a.toNat = 0xf0 → 0x90 ≤ b.toNat) (hlast : a.toNat = 0xf4 → b.toNat < 0x90) :
    fitsSecond a b = true := by
  rw [fitsSecond, hb, Bool.true_and]
  simp only [← UInt8.toNat_inj]
  split_ifs with h₁ h₂ h₃ h₄
  · exact decide_eq_true (hshort h₁)
  · exact decide_eq_true (hsurrogate h₂)
  · exact decide_eq_true (hlong h₃)
  · exact decide_eq_true (hlast h₄)
  · rfl

/-! ### One character -/

variable (position : Nat) (rest : List UInt8)

theorem decodeFrom_one (ha : a.toNat < 0x80) :
    decodeFrom position (a :: rest) = withChar a.toNat (decodeFrom (position + 1) rest) := by
  have hone : a < 0x80 := ha
  rw [decodeFrom.eq_def]
  cases rest with
  | nil => exact if_pos hone
  | cons b rest => exact if_pos hone

/-- A byte from 0xc2 to 0xf4 starts a character of several bytes. -/
theorem starts_several (ha : 0xc2 ≤ a.toNat) (ha' : a.toNat ≤ 0xf4) :
    ¬ a < 0x80 ∧ ¬ (a < 0xc2 || 0xf4 < a) = true := by
  have hplain : ¬ a.toNat < 0x80 := by omega
  have hlow : ¬ a.toNat < 0xc2 := by omega
  have hhigh : ¬ 0xf4 < a.toNat := by omega
  refine ⟨hplain, ?_⟩
  rw [Bool.or_eq_true, decide_eq_true_eq, decide_eq_true_eq]
  exact not_or.mpr ⟨hlow, hhigh⟩

theorem decodeFrom_two (ha : 0xc2 ≤ a.toNat) (ha' : a.toNat < 0xe0)
    (hb : isContinuation b = true) :
    decodeFrom position (a :: b :: rest) =
      withChar (a.toNat % 0x20 * 0x40 + payload b) (decodeFrom (position + 2) rest) := by
  obtain ⟨hplain, hstart⟩ := starts_several ha (by omega)
  have htwo : a < 0xe0 := ha'
  rw [decodeFrom.eq_def]
  dsimp only
  rw [if_neg hplain, if_neg hstart, if_pos htwo, if_pos hb]

theorem decodeFrom_three (ha : 0xe0 ≤ a.toNat) (ha' : a.toNat < 0xf0)
    (hb : fitsSecond a b = true) (hc : isContinuation c = true) :
    decodeFrom position (a :: b :: c :: rest) =
      withChar ((a.toNat % 0x10 * 0x40 + payload b) * 0x40 + payload c)
        (decodeFrom (position + 3) rest) := by
  obtain ⟨hplain, hstart⟩ := starts_several (a := a) (by omega) (by omega)
  have htwo : ¬ a < 0xe0 := Nat.not_lt.mpr ha
  have hthree : a < 0xf0 := ha'
  rw [decodeFrom.eq_def]
  dsimp only
  rw [if_neg hplain, if_neg hstart, if_neg htwo, if_neg (by simp [hb]), if_neg (by simp [hc]),
    if_pos hthree]

theorem decodeFrom_four (ha : 0xf0 ≤ a.toNat) (ha' : a.toNat ≤ 0xf4)
    (hb : fitsSecond a b = true) (hc : isContinuation c = true) (hd : isContinuation d = true) :
    decodeFrom position (a :: b :: c :: d :: rest) =
      withChar (((a.toNat % 8 * 0x40 + payload b) * 0x40 + payload c) * 0x40 + payload d)
        (decodeFrom (position + 4) rest) := by
  obtain ⟨hplain, hstart⟩ := starts_several (a := a) (by omega) ha'
  have htwo : ¬ a < 0xe0 := Nat.not_lt.mpr (Nat.le_trans (by decide) ha)
  have hthree : ¬ a < 0xf0 := Nat.not_lt.mpr ha
  rw [decodeFrom.eq_def]
  dsimp only
  rw [if_neg hplain, if_neg hstart, if_neg htwo, if_neg (by simp [hb]), if_neg (by simp [hc]),
    if_neg hthree, if_neg (by simp [hd])]

end Bytes

/-! ### Texts -/

theorem toNat_ofNat {n : Nat} (h : n < 0x100) : (UInt8.ofNat n).toNat = n :=
  UInt8.toNat_ofNat_of_lt h

/-- A byte that goes on with a character carries six bits. -/
theorem isContinuation_ofNat (n : Nat) : isContinuation (UInt8.ofNat (n % 0x40 + 0x80)) = true := by
  rw [isContinuation_iff, toNat_ofNat (by omega)]
  omega

theorem payload_ofNat (n : Nat) : payload (UInt8.ofNat (n % 0x40 + 0x80)) = n % 0x40 := by
  rw [payload, toNat_ofNat (by omega)]
  omega

/-- **A character is read from its bytes**, whatever comes behind them. -/
theorem decodeFrom_char (position : Nat) (c : Char) (rest : List UInt8) :
    ∃ next, decodeFrom position (String.utf8EncodeChar c ++ rest) =
      (c :: (decodeFrom next rest).1, (decodeFrom next rest).2) := by
  have hvalid : c.toNat < 0xd800 ∨ 0xdfff < c.toNat ∧ c.toNat < 0x110000 := c.valid
  have hchar : ∀ {n} read, n = c.toNat → withChar n read = (c :: read.1, read.2) := by
    rintro _ read rfl
    rw [withChar, Char.ofNat_toNat]
  unfold String.utf8EncodeChar
  rw [show c.val.toNat = c.toNat from rfl]
  dsimp only
  split_ifs with hone htwo hthree
  · have hfirst := toNat_ofNat (n := c.toNat) (by omega)
    exact ⟨_, (decodeFrom_one _ _ (by omega)).trans (hchar _ hfirst)⟩
  · have hfirst := toNat_ofNat (n := c.toNat / 64 % 0x20 + 0xc0) (by omega)
    refine ⟨_, (decodeFrom_two _ _ (by omega) (by omega) (isContinuation_ofNat _)).trans
      (hchar _ ?_)⟩
    rw [hfirst, payload_ofNat]
    omega
  · have hfirst := toNat_ofNat (n := c.toNat / 4096 % 0x10 + 0xe0) (by omega)
    have hsecond := toNat_ofNat (n := c.toNat / 64 % 0x40 + 0x80) (by omega)
    have hfits := fitsSecond_of_bounds (isContinuation_ofNat (c.toNat / 64))
      (a := UInt8.ofNat (c.toNat / 4096 % 0x10 + 0xe0)) (by omega) (by omega) (by omega) (by omega)
    refine ⟨_, (decodeFrom_three _ _ (by omega) (by omega) hfits (isContinuation_ofNat _)).trans
      (hchar _ ?_)⟩
    rw [hfirst, payload_ofNat, payload_ofNat]
    omega
  · have hfirst := toNat_ofNat (n := c.toNat / 262144 % 8 + 0xf0) (by omega)
    have hsecond := toNat_ofNat (n := c.toNat / 4096 % 0x40 + 0x80) (by omega)
    have hfits := fitsSecond_of_bounds (isContinuation_ofNat (c.toNat / 4096))
      (a := UInt8.ofNat (c.toNat / 262144 % 8 + 0xf0)) (by omega) (by omega) (by omega) (by omega)
    refine ⟨_, (decodeFrom_four _ _ (by omega) (by omega) hfits (isContinuation_ofNat _)
      (isContinuation_ofNat _)).trans (hchar _ ?_)⟩
    rw [hfirst, payload_ofNat, payload_ofNat, payload_ofNat]
    omega

theorem decodeFrom_chars (position : Nat) (cs : List Char) :
    decodeFrom position (cs.flatMap String.utf8EncodeChar) = (cs, .complete) := by
  induction cs generalizing position with
  | nil => rfl
  | cons c rest ih =>
    obtain ⟨next, hnext⟩ := decodeFrom_char position c (rest.flatMap String.utf8EncodeChar)
    rw [List.flatMap_cons, hnext, ih]

/-- **What is read from the bytes of a text is the text.** -/
theorem decode_bytesOf (text : String) : decode (bytesOf text) = (text.toList, .complete) := by
  rw [bytesOf_eq, decode, decodeFrom_chars]

end ConfigVars.Text.Utf8
