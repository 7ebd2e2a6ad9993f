import Mathlib.Tactic.IntervalCases
import TunnelSync.Text.Utf8

/-!
# Texts and their UTF-8 form

* `encode_ascii` : an ASCII character is written as the byte of its number
* `decodeLossy_encode` : a text is read back from its UTF-8 form
* `encode_lt_encode_iff` : texts compare as their forms do
-/

namespace TunnelSync.Text

@[simp] theorem encode_nil : encode [] = [] := rfl

@[simp] theorem encode_append (s t : Text) : encode (s ++ t) = encode s ++ encode t := by
  simp [encode]

theorem encode_cons (c : Char) (t : Text) : encode (c :: t) = String.utf8EncodeChar c ++ encode t :=
  rfl

/-- The forms of a character, by its number. -/
theorem utf8EncodeChar_form (c : Char) :
    c.toNat < 0x80 ∧ String.utf8EncodeChar c = [UInt8.ofNat c.toNat] ∨
    0x80 ≤ c.toNat ∧ c.toNat < 0x800 ∧ String.utf8EncodeChar c =
      [UInt8.ofNat (c.toNat / 64 % 32 + 192), UInt8.ofNat (c.toNat % 64 + 128)] ∨
    0x800 ≤ c.toNat ∧ c.toNat < 0x10000 ∧ String.utf8EncodeChar c =
      [UInt8.ofNat (c.toNat / 4096 % 16 + 224), UInt8.ofNat (c.toNat / 64 % 64 + 128),
        UInt8.ofNat (c.toNat % 64 + 128)] ∨
    0x10000 ≤ c.toNat ∧ c.toNat < 0x110000 ∧ String.utf8EncodeChar c =
      [UInt8.ofNat (c.toNat / 262144 % 8 + 240), UInt8.ofNat (c.toNat / 4096 % 64 + 128),
        UInt8.ofNat (c.toNat / 64 % 64 + 128), UInt8.ofNat (c.toNat % 64 + 128)] := by
  have hvalue : c.val.toNat = c.toNat := rfl
  have hvalid : c.toNat < 0xD800 ∨ 0xDFFF < c.toNat ∧ c.toNat < 0x110000 := c.valid
  unfold String.utf8EncodeChar
  rw [hvalue]
  dsimp only
  split
  next h => exact .inl ⟨by omega, rfl⟩
  next =>
    split
    next => exact .inr (.inl ⟨by omega, by omega, rfl⟩)
    next =>
      split
      next => exact .inr (.inr (.inl ⟨by omega, by omega, rfl⟩))
      next => exact .inr (.inr (.inr ⟨by omega, by omega, rfl⟩))

theorem utf8EncodeChar_ascii {c : Char} (h : c.toNat < 0x80) :
    String.utf8EncodeChar c = [UInt8.ofNat c.toNat] := by
  rcases utf8EncodeChar_form c with ⟨-, hform⟩ | ⟨hge, -⟩ | ⟨hge, -⟩ | ⟨hge, -⟩
  · exact hform
  all_goals omega

/-- The bytes of ASCII characters are their numbers. -/
theorem encode_ascii {t : Text} (h : ∀ c ∈ t, c.toNat < 0x80) :
    encode t = t.map fun c => UInt8.ofNat c.toNat := by
  induction t with
  | nil => rfl
  | cons c t ih =>
      rw [encode_cons, utf8EncodeChar_ascii (h c (by simp)), ih fun d hd => h d (by simp [hd])]
      rfl

/-- Only an ASCII character has an ASCII byte in its form, and that is its number. -/
theorem toNat_of_mem_utf8EncodeChar {c : Char} {b : UInt8} (h : b ∈ String.utf8EncodeChar c)
    (hb : b.toNat < 0x80) : c.toNat = b.toNat := by
  have hmore (n : Nat) (h₁ : 0x80 ≤ n) (h₂ : n < 256) (hmem : b = UInt8.ofNat n) : False := by
    rw [hmem, UInt8.toNat_ofNat', Nat.mod_eq_of_lt h₂] at hb
    omega
  rcases utf8EncodeChar_form c with ⟨hlt, hform⟩ | ⟨-, -, hform⟩ | ⟨-, -, hform⟩ | ⟨-, hlt, hform⟩
  · rw [hform, List.mem_singleton] at h
    rw [h, UInt8.toNat_ofNat', Nat.mod_eq_of_lt (by omega)]
  · simp only [hform, List.mem_cons, List.not_mem_nil, or_false] at h
    rcases h with h | h
    all_goals exact (hmore _ (by omega) (by omega) h).elim
  · simp only [hform, List.mem_cons, List.not_mem_nil, or_false] at h
    rcases h with h | h | h
    all_goals exact (hmore _ (by omega) (by omega) h).elim
  · simp only [hform, List.mem_cons, List.not_mem_nil, or_false] at h
    rcases h with h | h | h | h
    all_goals exact (hmore _ (by omega) (by omega) h).elim

theorem utf8EncodeChar_ne_nil (c : Char) : String.utf8EncodeChar c ≠ [] := by
  rcases utf8EncodeChar_form c with ⟨-, hform⟩ | ⟨-, -, hform⟩ | ⟨-, -, hform⟩ | ⟨-, -, hform⟩ <;>
    simp [hform]

namespace Utf8

/-! ### The bytes of one character -/

theorem lead_one {b : Nat} (h : b < 0x80) : lead b = ([Char.ofNat b], none) := by simp [lead, h]

theorem lead_two {b : Nat} (h₁ : 0xC2 ≤ b) (h₂ : b ≤ 0xDF) :
    lead b = ([], some ⟨1, 0x80, 0xBF, b - 0xC0⟩) := by
  have h : ¬ b < 0x80 := by omega
  simp [lead, h, h₁, h₂]

theorem lead_three {b : Nat} (h₁ : 0xE0 ≤ b) (h₂ : b ≤ 0xEF) :
    lead b = ([], some ⟨2, if b = 0xE0 then 0xA0 else 0x80, if b = 0xED then 0x9F else 0xBF,
      b - 0xE0⟩) := by
  interval_cases b <;> rfl

theorem lead_four {b : Nat} (h₁ : 0xF0 ≤ b) (h₂ : b ≤ 0xF4) :
    lead b = ([], some ⟨3, if b = 0xF0 then 0x90 else 0x80, if b = 0xF4 then 0x8F else 0xBF,
      b - 0xF0⟩) := by
  interval_cases b <;> rfl

theorem next_more {need lower upper value b : Nat} (hl : lower ≤ b) (hu : b ≤ upper)
    (hn : need ≠ 1) :
    next (some ⟨need, lower, upper, value⟩) b =
      ([], some ⟨need - 1, 0x80, 0xBF, value * 64 + (b - 0x80)⟩) := by
  simp [next, hl, hu, hn]

theorem next_last {lower upper value b : Nat} (hl : lower ≤ b) (hu : b ≤ upper) :
    next (some ⟨1, lower, upper, value⟩) b = ([Char.ofNat (value * 64 + (b - 0x80))], none) := by
  simp [next, hl, hu]

theorem run_cons (p : Option Partial) {n : Nat} (hn : n < 256) (bs : Bytes) :
    run p (UInt8.ofNat n :: bs) = (next p n).1 ++ run (next p n).2 bs := by
  have hbyte : (UInt8.ofNat n).toNat = n := by simp [Nat.mod_eq_of_lt hn]
  simp only [run, hbyte]

theorem next_none (b : Nat) : next none b = lead b := rfl

section
variable {v : Nat} (bs : Bytes)

theorem run_one (h : v ≤ 0x7F) : run none (UInt8.ofNat v :: bs) = Char.ofNat v :: run none bs := by
  rw [run_cons _ (by omega), next_none, lead_one (by omega)]
  rfl

theorem run_two (h₁ : 0x80 ≤ v) (h₂ : v ≤ 0x7FF) :
    run none (UInt8.ofNat (v / 64 % 32 + 192) :: UInt8.ofNat (v % 64 + 128) :: bs) =
      Char.ofNat v :: run none bs := by
  have hv : (v / 64 % 32 + 192 - 0xC0) * 64 + (v % 64 + 128 - 0x80) = v := by omega
  rw [run_cons _ (by omega), next_none, lead_two (by omega) (by omega)]
  dsimp only
  rw [run_cons _ (by omega), next_last (by omega) (by omega), hv]
  rfl

theorem run_three (h₁ : 0x800 ≤ v) (h₂ : v ≤ 0xFFFF) (hs : v < 0xD800 ∨ 0xDFFF < v) :
    run none (UInt8.ofNat (v / 4096 % 16 + 224) :: UInt8.ofNat (v / 64 % 64 + 128)
      :: UInt8.ofNat (v % 64 + 128) :: bs) = Char.ofNat v :: run none bs := by
  have hv : ((v / 4096 % 16 + 224 - 0xE0) * 64 + (v / 64 % 64 + 128 - 0x80)) * 64
      + (v % 64 + 128 - 0x80) = v := by omega
  rw [run_cons _ (by omega), next_none, lead_three (by omega) (by omega)]
  dsimp only
  rw [run_cons _ (by omega), next_more (by split <;> omega) (by split <;> omega) (by decide)]
  dsimp only
  rw [run_cons _ (by omega), next_last (by omega) (by omega), hv]
  rfl

theorem run_four (h₁ : 0x10000 ≤ v) (h₂ : v ≤ 0x10FFFF) :
    run none (UInt8.ofNat (v / 262144 % 8 + 240) :: UInt8.ofNat (v / 4096 % 64 + 128)
      :: UInt8.ofNat (v / 64 % 64 + 128) :: UInt8.ofNat (v % 64 + 128) :: bs) =
      Char.ofNat v :: run none bs := by
  have hv : (((v / 262144 % 8 + 240 - 0xF0) * 64 + (v / 4096 % 64 + 128 - 0x80)) * 64
      + (v / 64 % 64 + 128 - 0x80)) * 64 + (v % 64 + 128 - 0x80) = v := by omega
  rw [run_cons _ (by omega), next_none, lead_four (by omega) (by omega)]
  dsimp only
  rw [run_cons _ (by omega), next_more (by split <;> omega) (by split <;> omega) (by decide)]
  dsimp only
  rw [run_cons _ (by omega), next_more (by omega) (by omega) (by decide)]
  dsimp only
  rw [run_cons _ (by omega), next_last (by omega) (by omega), hv]
  rfl

end

theorem run_utf8EncodeChar (c : Char) (bs : Bytes) :
    run none (String.utf8EncodeChar c ++ bs) = c :: run none bs := by
  have hvalid : c.toNat < 0xD800 ∨ 0xDFFF < c.toNat ∧ c.toNat < 0x110000 := c.valid
  have hc : Char.ofNat c.toNat = c := Char.ofNat_toNat c
  rcases utf8EncodeChar_form c with ⟨h, hform⟩ | ⟨h₁, h₂, hform⟩ | ⟨h₁, h₂, hform⟩ |
    ⟨h₁, h₂, hform⟩ <;> rw [hform]
  · exact (run_one bs (by omega)).trans (by rw [hc])
  · exact (run_two bs h₁ (by omega)).trans (by rw [hc])
  · exact (run_three bs h₁ (by omega) (by omega)).trans (by rw [hc])
  · exact (run_four bs h₁ (by omega)).trans (by rw [hc])

end Utf8

/-- A text is read back from its UTF-8 form. -/
theorem decodeLossy_encode (t : Text) : decodeLossy (encode t) = t := by
  induction t with
  | nil => rfl
  | cons c t ih =>
      rw [encode_cons]
      unfold decodeLossy at ih ⊢
      rw [Utf8.run_utf8EncodeChar, ih]

/-! ### The order of bytes -/

theorem cons_lt_cons_of_le {m n : Nat} (h : m ≤ n) (hn : n < 256) {s t : Bytes}
    (hst : m = n → s < t) : UInt8.ofNat m :: s < UInt8.ofNat n :: t := by
  rw [List.cons_lt_cons_iff]
  rcases Nat.lt_or_eq_of_le h with hlt | rfl
  · refine .inl (UInt8.lt_iff_toNat_lt.mpr ?_)
    rw [UInt8.toNat_ofNat', UInt8.toNat_ofNat']
    omega
  · exact .inr ⟨rfl, hst rfl⟩

theorem utf8EncodeChar_append_lt {c d : Char} (h : c.toNat < d.toNat) (s t : Bytes) :
    String.utf8EncodeChar c ++ s < String.utf8EncodeChar d ++ t := by
  -- longer forms have greater first bytes; within a length the bytes are the digits of the number
  rcases utf8EncodeChar_form c with ⟨h₁, hc⟩ | ⟨h₁, h₂, hc⟩ | ⟨h₁, h₂, hc⟩ | ⟨h₁, h₂, hc⟩ <;>
  rcases utf8EncodeChar_form d with ⟨h₃, hd⟩ | ⟨h₃, h₄, hd⟩ | ⟨h₃, h₄, hd⟩ | ⟨h₃, h₄, hd⟩ <;>
  first
  | omega
  | rw [hc, hd]
    clear hc hd
    generalize c.toNat = v at *
    generalize d.toNat = w at *
    simp only [List.cons_append, List.nil_append]
    repeat refine cons_lt_cons_of_le (by omega) (by omega) fun _ => ?_
    omega

theorem encode_lt_encode {s t : Text} (h : s < t) : encode s < encode t := by
  induction s generalizing t with
  | nil =>
      cases t with
      | nil => exact absurd h (List.lt_irrefl _)
      | cons d t =>
          rw [encode_cons, encode_nil]
          obtain ⟨b, bs, hb⟩ := List.exists_cons_of_ne_nil (utf8EncodeChar_ne_nil d)
          rw [hb]
          exact List.nil_lt_cons _ _
  | cons c s ih =>
      cases t with
      | nil => exact absurd h (List.not_lt_nil _)
      | cons d t =>
          rw [encode_cons, encode_cons]
          rcases List.cons_lt_cons_iff.mp h with hlt | ⟨rfl, hst⟩
          · exact utf8EncodeChar_append_lt hlt _ _
          · exact List.append_left_lt (ih hst)

/-- Texts compare as their forms do. -/
theorem encode_lt_encode_iff {s t : Text} : encode s < encode t ↔ s < t := by
  refine ⟨fun h => ?_, encode_lt_encode⟩
  by_contra hst
  by_cases hts : t < s
  · exact List.lt_asymm h (encode_lt_encode hts)
  · obtain rfl := List.le_antisymm (List.not_lt.mp hst) (List.not_lt.mp hts)
    exact List.lt_irrefl _ h

end TunnelSync.Text
