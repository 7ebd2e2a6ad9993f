import TunnelSync.Proofs.Text.Utf8
import TunnelSync.Url.Percent

/-!
# Percent coding and back

* `percentDecode_percentByte` : a triplet is read as its byte
* `mem_percentEncode` : what a coded text is written with
* `percentEncode_eq_self` : a text that needs no coding is left as it is
-/

namespace TunnelSync.Url

/-! ### Triplets -/

theorem forall_byte {p : UInt8 → Prop} (h : ∀ n < 256, p (UInt8.ofNat n)) (b : UInt8) : p b := by
  have hb := h b.toNat b.toNat_lt
  rwa [UInt8.ofNat_toNat] at hb

theorem hexByte?_hexDigit : ∀ n < 16, hexByte? (UInt8.ofNat (hexDigit n).toNat) = some n := by
  decide

theorem forall_mem_percentByte {p : Char → Bool} (hsign : p '%' = true)
    (hdigit : ∀ n < 16, p (hexDigit n) = true) {b : UInt8} {c : Char} (hc : c ∈ percentByte b) :
    p c = true := by
  have hb : b.toNat < 256 := b.toNat_lt
  simp only [percentByte, List.mem_cons, List.not_mem_nil, or_false] at hc
  obtain rfl | rfl | rfl := hc
  · exact hsign
  · exact hdigit _ (by omega)
  · exact hdigit _ (by omega)

theorem percentDecode_cons_of_ne {b : UInt8} (h : b ≠ 0x25) (bs : Bytes) :
    percentDecode (b :: bs) = b :: percentDecode bs := by
  rw [percentDecode.eq_def]
  simp only [beq_iff_eq, if_neg h]

/-- A triplet is read as its byte. -/
theorem percentDecode_percentByte (b : UInt8) (bs : Bytes) :
    percentDecode (Text.encode (percentByte b) ++ bs) = b :: percentDecode bs := by
  have hb : b.toNat < 256 := b.toNat_lt
  have hascii : ∀ c ∈ percentByte b, c.toNat < 0x80 := fun c hc => by
    have hall := forall_mem_percentByte (p := fun c => c.toNat < 0x80) (by decide) (by decide) hc
    simpa using hall
  rw [Text.encode_ascii hascii, percentByte]
  simp only [List.map_cons, List.map_nil, List.cons_append, List.nil_append]
  rw [percentDecode, if_pos (by decide), hexByte?_hexDigit _ (by omega),
    hexByte?_hexDigit _ (by omega)]
  have hvalue : 16 * (b.toNat / 16) + b.toNat % 16 = b.toNat := by omega
  simp only [hvalue, UInt8.ofNat_toNat]

/-! ### Coded texts -/

section
variable {coded : Char → Bool} {t : Text}

theorem percentEncode_cons_of_coded {c : Char} (h : c.toNat ≥ 0x80 ∨ coded c = true) (t : Text) :
    percentEncode coded (c :: t) =
      (String.utf8EncodeChar c).flatMap percentByte ++ percentEncode coded t := by
  rw [percentEncode, List.flatMap_cons, if_pos (by simpa using h)]
  rfl

theorem percentEncode_cons_of_plain {c : Char} (h : c.toNat < 0x80 ∧ coded c = false) (t : Text) :
    percentEncode coded (c :: t) = c :: percentEncode coded t := by
  rw [percentEncode, List.flatMap_cons, if_neg (by simp [h.1, h.2])]
  rfl

/-- A coded text is written with characters that need no coding and with triplets. -/
theorem mem_percentEncode {c : Char} (h : c ∈ percentEncode coded t) :
    (c ∈ t ∧ c.toNat < 0x80 ∧ coded c = false) ∨ ∃ b, c ∈ percentByte b := by
  rw [percentEncode, List.mem_flatMap] at h
  obtain ⟨d, hd, hc⟩ := h
  split at hc
  next =>
    obtain ⟨b, -, hb⟩ := List.mem_flatMap.mp hc
    exact .inr ⟨b, hb⟩
  next hplain =>
    rw [List.mem_singleton] at hc
    subst hc
    refine .inl ⟨hd, ?_⟩
    simpa using hplain

/-- A text that needs no coding is left as it is. -/
theorem percentEncode_eq_self (h : ∀ c ∈ t, c.toNat < 0x80 ∧ coded c = false) :
    percentEncode coded t = t := by
  induction t with
  | nil => rfl
  | cons c t ih =>
      rw [percentEncode_cons_of_plain (h c (by simp)), ih fun d hd => h d (by simp [hd])]

end

end TunnelSync.Url
