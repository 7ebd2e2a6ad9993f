import Mathlib.Data.List.Infix
import TunnelSync.Text.Basic

/-!
# What is left of a word after replacing

Replacing goes from left to right over occurrences that do not overlap, so between two of them, and
before the first, none is passed over. A word that has nothing in common with what is put in place
of it can therefore not stand across the border of a replacement, and stands in the result only if
it stood in the text.

* `not_infix_replace` : the word that is replaced does not occur in the result
* `infix_of_infix_replace` : no other word comes in
* `replace_eq_self` : a text without the word stays as it is
-/

namespace TunnelSync.Text

/-- Two texts without a character in common. -/
def Apart (w r : Text) : Prop := ∀ c ∈ w, c ∉ r

theorem Apart.tail {c : Char} {w r : Text} (h : Apart (c :: w) r) : Apart w r :=
  fun d hd => h d (List.mem_cons_of_mem c hd)

theorem eq_nil_of_prefix_append {w r t : Text} (h : Apart w r) (hr : r ≠ [])
    (hw : w <+: r ++ t) : w = [] := by
  cases w with
  | nil => rfl
  | cons c w =>
      cases r with
      | nil => exact absurd rfl hr
      | cons d r =>
          obtain rfl : c = d := (List.cons_prefix_cons.mp hw).1
          exact absurd List.mem_cons_self (h c List.mem_cons_self)

theorem infix_of_infix_append {w r t : Text} (h : Apart w r) (hw : w <:+: r ++ t) : w <:+: t := by
  induction r with
  | nil => exact hw
  | cons d r ih =>
      rcases List.infix_cons_iff.mp hw with hpre | hin
      · rw [eq_nil_of_prefix_append (t := t) h (List.cons_ne_nil d r) hpre]
        exact List.nil_infix
      · exact ih (fun c hc hr => h c hc (List.mem_cons_of_mem d hr)) hin

section
variable {p r w : Text} (hr : r ≠ [])
include hr

/-- What begins the result, and is apart from what has been put in, begins the text. -/
theorem prefix_of_prefix_replaceFrom {t : Text} (hw : Apart w r) (h : w <+: replaceFrom p r 0 t) :
    w <+: t := by
  induction t generalizing w with
  | nil => exact h
  | cons c t ih =>
      rw [replaceFrom] at h
      split at h
      next =>
        rw [eq_nil_of_prefix_append hw hr h]
        exact List.nil_prefix
      next =>
        cases w with
        | nil => exact List.nil_prefix
        | cons d w =>
            obtain ⟨rfl, htail⟩ := List.cons_prefix_cons.mp h
            exact List.cons_prefix_cons.mpr ⟨rfl, ih hw.tail htail⟩

theorem infix_of_infix_replaceFrom {skip : Nat} {t : Text} (hw : Apart w r)
    (h : w <:+: replaceFrom p r skip t) : w <:+: t := by
  induction t generalizing skip with
  | nil => cases skip <;> exact h
  | cons c t ih =>
      cases skip with
      | succ skip => exact List.infix_cons (ih h)
      | zero =>
          have hstart := prefix_of_prefix_replaceFrom (t := c :: t) (p := p) hr hw
          rw [replaceFrom] at h hstart
          split at h
          next => exact List.infix_cons (ih (infix_of_infix_append hw h))
          next hp =>
            rw [if_neg hp] at hstart
            rcases List.infix_cons_iff.mp h with hpre | hin
            · exact (hstart hpre).isInfix
            · exact List.infix_cons (ih hin)

theorem not_infix_replaceFrom {skip : Nat} {t : Text} (hne : p ≠ []) (hp : Apart p r) :
    ¬ p <:+: replaceFrom p r skip t := by
  induction t generalizing skip with
  | nil => cases skip <;> simpa [replaceFrom] using hne
  | cons c t ih =>
      cases skip with
      | succ skip => exact ih
      | zero =>
          have hstart := prefix_of_prefix_replaceFrom (t := c :: t) (p := p) hr hp
          rw [replaceFrom] at hstart ⊢
          split
          next => exact fun h => ih (infix_of_infix_append hp h)
          next hc =>
            rw [if_neg hc] at hstart
            intro h
            rcases List.infix_cons_iff.mp h with hpre | hin
            · exact hc (startsWith_iff.mpr (hstart hpre))
            · exact ih hin

end

/-- A word apart from what is put in its place does not occur in the result. -/
theorem not_infix_replace {p r : Text} (t : Text) (hne : p ≠ []) (hr : r ≠ []) (hp : Apart p r) :
    ¬ p <:+: replace p r t := by
  rw [replace, if_neg hne]
  exact not_infix_replaceFrom hr hne hp

/-- A word apart from what is put in occurs in the result only if it occurred in the text. -/
theorem infix_of_infix_replace {p r w t : Text} (hr : r ≠ []) (hw : Apart w r)
    (h : w <:+: replace p r t) : w <:+: t := by
  rw [replace] at h
  split at h
  next => exact h
  next => exact infix_of_infix_replaceFrom hr hw h

/-- A text without the word stays as it is. -/
theorem replace_eq_self {p r t : Text} (h : ¬ p <:+: t) : replace p r t = t := by
  rw [replace]
  split
  next => rfl
  next =>
    induction t with
    | nil => rfl
    | cons c t ih =>
        have hc : ¬ startsWith p (c :: t) = true := fun hc => h (startsWith_iff.mp hc).isInfix
        rw [replaceFrom, if_neg hc, ih fun hin => h (List.infix_cons hin)]

end TunnelSync.Text
