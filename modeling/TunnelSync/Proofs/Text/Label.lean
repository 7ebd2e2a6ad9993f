import Mathlib.Data.List.Infix
import TunnelSync.Text.Basic

/-!
# Words that stand apart

A word that lacks a character cannot reach across it. A label has its only colon at its end; so of
two labels none goes on behind the other, and if they do not end alike they do not overlap.

* `infix_or_of_infix_append_cons` : a word before a character or behind it
* `IsLabel` : the labels
* `prefix_or_eq_of_prefix_append`, `infix_or_of_infix_append` : a label around another one
-/

namespace TunnelSync.Text

/-! ### Words without a character -/

theorem prefix_of_prefix_append_cons {c : Char} {p s t : Text} (hc : c ∉ p)
    (h : p <+: s ++ c :: t) : p <+: s := by
  rcases List.prefix_or_prefix_of_prefix h (List.prefix_append s (c :: t)) with hps | ⟨r, rfl⟩
  · exact hps
  · cases r with
    | nil => simp
    | cons d r =>
        have hr := (List.prefix_append_right_inj s).mp h
        obtain rfl := (List.cons_prefix_cons.mp hr).1
        exact absurd (by simp) hc

/-- A word without this character stands before it or behind it. -/
theorem infix_or_of_infix_append_cons {c : Char} {p s t : Text} (hc : c ∉ p)
    (h : p <:+: s ++ c :: t) : p <:+: s ∨ p <:+: t := by
  induction s with
  | nil =>
      rcases List.infix_cons_iff.mp h with hpre | hin
      · exact .inl (prefix_of_prefix_append_cons hc hpre).isInfix
      · exact .inr hin
  | cons d s ih =>
      rcases List.infix_cons_iff.mp h with hpre | hin
      · exact .inl (prefix_of_prefix_append_cons (s := d :: s) hc hpre).isInfix
      · exact (ih hin).imp_left List.infix_cons

theorem infix_of_infix_append_of_not_mem {c : Char} {p r t : Text} (hc : c ∉ r)
    (h : c :: p <:+: r ++ t) : c :: p <:+: t := by
  induction r with
  | nil => exact h
  | cons d r ih =>
      rw [List.mem_cons, not_or] at hc
      rcases List.infix_cons_iff.mp h with hpre | hin
      · exact absurd (List.cons_prefix_cons.mp hpre).1 hc.1
      · exact ih hc.2 hin

/-! ### Labels -/

/-- A text that has its only colon at its end. -/
def IsLabel (p : Text) : Prop := ∃ q, p = q ++ [':'] ∧ ':' ∉ q

theorem IsLabel.eq_of_prefix {p q : Text} (hp : IsLabel p) (hq : IsLabel q) (h : p <+: q) :
    p = q := by
  obtain ⟨p, rfl, -⟩ := hp
  obtain ⟨q, rfl, hcolon⟩ := hq
  obtain ⟨rest, hrest⟩ := h
  cases rest using List.reverseRecOn with
  | nil => simpa using hrest
  | append_singleton rest c =>
      rw [← List.append_assoc] at hrest
      obtain ⟨rfl, -⟩ := List.append_inj' hrest rfl
      simp at hcolon

theorem IsLabel.of_append {s p : Text} (h : IsLabel (s ++ p)) (hne : p ≠ []) : IsLabel p := by
  obtain ⟨q, heq, hcolon⟩ := h
  cases p using List.reverseRecOn with
  | nil => exact absurd rfl hne
  | append_singleton p c =>
      rw [← List.append_assoc] at heq
      obtain ⟨rfl, hc⟩ := List.append_inj' heq rfl
      exact ⟨p, by rw [hc], fun h => hcolon (List.mem_append_right _ h)⟩

section
variable {p q : Text} (hp : IsLabel p) (hq : IsLabel q)
include hp hq

/-- Where a label begins before another one, it ends before it, or it ends with it. -/
theorem prefix_or_eq_of_prefix_append {s t : Text} (h : p <+: s ++ (q ++ t)) :
    p <+: s ∨ p = s ++ q := by
  rcases List.prefix_or_prefix_of_prefix h (List.prefix_append s (q ++ t)) with hps | ⟨r, rfl⟩
  · exact .inl hps
  · have hr : r <+: q ++ t := (List.prefix_append_right_inj s).mp h
    cases r with
    | nil => exact .inl (by simp)
    | cons c r =>
        have hlabel := hp.of_append (List.cons_ne_nil c r)
        rcases List.prefix_or_prefix_of_prefix hr (List.prefix_append q t) with hrq | hqr
        · exact .inr (by rw [hlabel.eq_of_prefix hq hrq])
        · exact .inr (by rw [hq.eq_of_prefix hlabel hqr])

/-- Around a label, one that does not end alike stands before it or behind it. -/
theorem infix_or_of_infix_append (hqp : ¬ q <:+ p) (hpq : ¬ p <:+ q) {s t : Text}
    (h : p <:+: s ++ (q ++ t)) : p <:+: s ∨ p <:+: t := by
  obtain ⟨u, hpu, w, hw⟩ := List.infix_iff_prefix_suffix.mp h
  rcases List.append_eq_append_iff.mp hw with ⟨a, rfl, rfl⟩ | ⟨c, rfl, hqt⟩
  · -- it begins before the label
    rcases prefix_or_eq_of_prefix_append hp hq hpu with ha | rfl
    · exact .inl (ha.isInfix.trans (List.suffix_append w a).isInfix)
    · exact absurd (List.suffix_append a q) hqp
  · rcases List.append_eq_append_iff.mp hqt with ⟨a, rfl, rfl⟩ | ⟨a, rfl, rfl⟩
    · exact .inr (hpu.isInfix.trans (List.suffix_append a u).isInfix)
    · -- it begins inside the label
      cases a with
      | nil => exact .inr hpu.isInfix
      | cons d a =>
          have ha := hq.of_append (List.cons_ne_nil d a)
          rcases prefix_or_eq_of_prefix_append (s := []) hp ha hpu with hnil | rfl
          · exact .inl (List.prefix_nil.mp hnil ▸ List.nil_infix)
          · exact absurd (List.suffix_append c _) hpq

end

end TunnelSync.Text
