import TunnelSync.Proofs.Text.Cut
import TunnelSync.Url.Parse

/-!
# What a host is written with

No character of a host that has been read ends the authority of a URL: a domain name in ASCII has no
character in it that is forbidden there, and addresses are made of digits and separators.

* `Punycode.forall_mem_encode` : what a label is written with
* `Idna.isAllowed_of_toAscii?` : what a domain name is written with
* `Host.endsAuthority_of_mem_toText` : what any host is written with
-/

namespace TunnelSync.Url

theorem endsAuthority_eq_false {p : Char → Bool}
    (hends : ['/', '?', '#', '\\'].any p = false) {c : Char} (hc : p c = true) :
    endsAuthority .web c = false := by
  have hne : ∀ d ∈ ['/', '?', '#', '\\'], (c == d) = false := by
    intro d hd
    refine beq_eq_false_iff_ne.mpr fun heq => ?_
    exact List.any_eq_false.mp hends d hd (heq ▸ hc)
  simp [endsAuthority, hne '/' (by simp), hne '?' (by simp), hne '#' (by simp),
    hne '\\' (by simp)]

/-! ### Punycode -/

namespace Punycode

section
variable {p : Char → Prop} (hdigit : ∀ n < 36, p (digit n))
include hdigit

theorem forall_mem_numberDigits (bias k q : Nat) : ∀ c ∈ numberDigits bias k q, p c := by
  induction k, q using numberDigits.induct bias with
  | case1 k q t hq =>
      have ht : threshold bias k ≤ 26 := threshold_le bias k
      rw [numberDigits, if_pos hq]
      exact List.forall_mem_singleton.mpr (hdigit q (by omega))
  | case2 k q t hq ih =>
      have ht : threshold bias k ≤ 26 := threshold_le bias k
      have hmod : (q - threshold bias k) % (36 - threshold bias k) < 36 - threshold bias k :=
        Nat.mod_lt _ (by omega)
      rw [numberDigits, if_neg hq]
      exact List.forall_mem_cons.mpr ⟨hdigit _ (by omega), ih⟩

theorem Writer.forall_mem_step {w : Writer} (basic m c : Nat) (hw : ∀ d ∈ w.out, p d) :
    ∀ d ∈ (w.step basic m c).out, p d := by
  unfold Writer.step
  split_ifs
  · exact hw
  · exact List.forall_mem_append.mpr ⟨hw, forall_mem_numberDigits hdigit _ _ _⟩
  · exact hw

theorem Writer.forall_mem_run {w : Writer} (label : List Nat) (basic next : Nat) (ms : List Nat)
    (hw : ∀ d ∈ w.out, p d) : ∀ d ∈ (w.run label basic next ms).out, p d := by
  induction ms generalizing w next with
  | nil => exact hw
  | cons m ms ih =>
      have hfold (v : Writer) (hv : ∀ d ∈ v.out, p d) :
          ∀ d ∈ (label.foldl (Writer.step basic m) v).out, p d :=
        List.foldlRecOn label _ (motive := fun v : Writer => ∀ d ∈ v.out, p d) hv
          fun v hv c _ => Writer.forall_mem_step hdigit basic m c hv
      exact ih (m + 1) (hfold _ hw)

/-- A label is written with its ASCII characters, a hyphen and digits. -/
theorem forall_mem_encode {label : List Nat} (hhyphen : p '-')
    (hbasic : ∀ n ∈ label, n < 0x80 → p (Char.ofNat n)) : ∀ c ∈ encode label, p c := by
  have hstart : ∀ c ∈ (label.filter (· < 0x80)).map Char.ofNat, p c := by
    intro c hc
    obtain ⟨n, hn, rfl⟩ := List.mem_map.mp hc
    obtain ⟨hmem, hascii⟩ := List.mem_filter.mp hn
    exact hbasic n hmem (by simpa using hascii)
  refine Writer.forall_mem_run hdigit _ _ _ _ ?_
  dsimp only
  split
  · simp
  · exact List.forall_mem_append.mpr ⟨hstart, List.forall_mem_singleton.mpr hhyphen⟩

end

end Punycode

/-! ### Domain names -/

namespace Idna

/-- Whether a character may stand in a domain name in ASCII. -/
def isAllowed (c : Char) : Bool := c.toNat < 0x80 && !isForbidden c.toNat

theorem isAllowed_ofNat :
    ∀ n < 0x80, isForbidden n = false → isAllowed (Char.ofNat n) = true := by decide +kernel

theorem isAllowed_of_mem_asciiLabel {label : List Nat} (h : label.any isForbidden = false)
    {c : Char} (hc : c ∈ asciiLabel label) : isAllowed c = true := by
  have hall : ∀ n ∈ label, isForbidden n = false := by simpa using h
  unfold asciiLabel at hc
  split at hc
  next hascii =>
    obtain ⟨n, hn, rfl⟩ := List.mem_map.mp hc
    exact isAllowed_ofNat n (by simpa using List.all_eq_true.mp hascii n hn) (hall n hn)
  next =>
    rcases List.mem_append.mp hc with hc | hc
    · exact List.all_eq_true.mp
        (by decide : (acePrefix.map Char.ofNat).all isAllowed = true) c hc
    · exact Punycode.forall_mem_encode (p := (isAllowed · = true)) (by decide) (by decide)
        (fun n hn hascii => isAllowed_ofNat n hascii (hall n hn)) c hc

/-- A domain name in ASCII has no forbidden character. -/
theorem isAllowed_of_toAscii? {bytes : Bytes} {domain : Text} (h : toAscii? bytes = some domain)
    {c : Char} (hc : c ∈ domain) : isAllowed c = true := by
  simp only [toAscii?, charsToAscii?, Option.bind_eq_bind, Option.bind_eq_some_iff] at h
  obtain ⟨t, -, mapped, -, ls, -, h⟩ := h
  split at h
  next hall =>
    cases h
    rcases Text.mem_intercalate hc with hc | ⟨s, hs, hc⟩
    · rw [List.mem_singleton.mp hc]
      decide
    · obtain ⟨label, hlabel, rfl⟩ := List.mem_map.mp hs
      have hwell := List.all_eq_true.mp hall label hlabel
      simp only [Bool.and_eq_true, Bool.not_eq_true'] at hwell
      exact isAllowed_of_mem_asciiLabel hwell.1.2 hc
  next => cases h

end Idna

/-! ### Addresses -/

theorem forall_mem_toDigits {p : Char → Prop} {b : Nat} (hb : 1 < b)
    (hdigit : ∀ d < b, p (Nat.digitChar d)) (n : Nat) : ∀ c ∈ Nat.toDigits b n, p c := by
  induction n using Nat.strongRecOn with
  | ind n ih =>
      rw [Nat.toDigits_eq_if hb]
      split
      next h => exact List.forall_mem_singleton.mpr (hdigit n h)
      next h =>
        have hless : n / b < n := Nat.div_lt_self (by omega) hb
        exact List.forall_mem_append.mpr
          ⟨ih _ hless, List.forall_mem_singleton.mpr (hdigit _ (Nat.mod_lt _ (by omega)))⟩

theorem endsAuthority_of_mem_ofNat (n : Nat) :
    ∀ c ∈ Text.ofNat n, endsAuthority .web c = false :=
  forall_mem_toDigits (by decide) (by decide) n

theorem endsAuthority_of_mem_pieceText (n : Nat) :
    ∀ c ∈ Ipv6.pieceText n, endsAuthority .web c = false :=
  forall_mem_toDigits (by decide) (by decide) n

theorem endsAuthority_of_mem_ipv4 (address : Nat) :
    ∀ c ∈ Ipv4.toText address, endsAuthority .web c = false := by
  intro c hc
  rcases Text.mem_intercalate hc with hc | ⟨t, ht, hc⟩
  · rw [List.mem_singleton.mp hc]
    decide
  · obtain ⟨w, -, rfl⟩ := List.mem_map.mp ht
    exact endsAuthority_of_mem_ofNat _ c hc

theorem endsAuthority_of_mem_pieces (pieces : List Nat) :
    ∀ c ∈ List.intercalate [':'] (pieces.map Ipv6.pieceText), endsAuthority .web c = false := by
  intro c hc
  rcases Text.mem_intercalate hc with hc | ⟨t, ht, hc⟩
  · rw [List.mem_singleton.mp hc]
    decide
  · obtain ⟨n, -, rfl⟩ := List.mem_map.mp ht
    exact endsAuthority_of_mem_pieceText n c hc

theorem endsAuthority_of_mem_ipv6 (pieces : List Nat) :
    ∀ c ∈ Ipv6.toText pieces, endsAuthority .web c = false := by
  unfold Ipv6.toText
  dsimp only
  split
  next => exact endsAuthority_of_mem_pieces pieces
  next =>
    intro c hc
    rcases List.mem_append.mp hc with hc | hc
    · exact endsAuthority_of_mem_pieces _ c hc
    · rcases List.mem_cons.mp hc with rfl | hc
      · decide
      · rcases List.mem_cons.mp hc with rfl | hc
        · decide
        · exact endsAuthority_of_mem_pieces _ c hc

/-! ### Any host -/

namespace Host

/-- A name is a domain name in ASCII. -/
theorem exists_toAscii?_of_name {t name : Text} (h : readDomain t = .ok (.name name)) :
    ∃ bytes, Idna.toAscii? bytes = some name := by
  unfold readDomain at h
  split at h
  next =>
    unfold readBracketed at h
    split at h
    · split at h <;> cases h
    · cases h
  next =>
    split at h
    next => cases h
    next domain hdomain =>
      split at h
      · cases h
      · split at h
        · split at h <;> cases h
        · cases h
          exact ⟨_, hdomain⟩

/-- No character of a host that has been read ends the authority. -/
theorem endsAuthority_of_mem_toText {t : Text} {host : Host} (h : readDomain t = .ok host) :
    ∀ c ∈ host.toText, endsAuthority .web c = false := by
  cases host with
  | name name =>
      obtain ⟨bytes, hname⟩ := exists_toAscii?_of_name h
      exact fun c hc => endsAuthority_eq_false (by decide) (Idna.isAllowed_of_toAscii? hname hc)
  | ipv4 address => exact endsAuthority_of_mem_ipv4 address
  | ipv6 pieces =>
      intro c hc
      rcases List.mem_append.mp hc with hc | hc
      · rcases List.mem_cons.mp hc with rfl | hc
        · decide
        · exact endsAuthority_of_mem_ipv6 pieces c hc
      · rw [List.mem_singleton.mp hc]
        decide

end Host

end TunnelSync.Url
