import Companions.Text.Casing
import Mathlib.Data.List.Basic

/-!
What upper case may bring into a text: capitals, and characters above ASCII, but no other character
of ASCII (`not_mem_uppercase`). So an underscore or a line break in an upper-case text stood there
before.
-/

namespace Companions.Text

/-- A character above ASCII becomes ASCII capitals, or stays above ASCII. -/
theorem capital_or_wide_of_mem_uppercaseWide {n m : Nat} (wide : 128 ≤ n)
    (member : m ∈ uppercaseWide n) : 65 ≤ m ∧ m ≤ 90 ∨ 128 ≤ m := by
  have expansions : ∀ e ∈ uppercaseExpansions, ∀ m ∈ e.2, 65 ≤ m ∧ m ≤ 90 ∨ 128 ≤ m := by
    decide +kernel
  have shifts : ∀ s ∈ uppercaseShifts,
      (65 : Int) ≤ s.1 + s.2.2.2 ∧ s.2.1 + s.2.2.2 ≤ 90 ∨ (128 : Int) ≤ s.1 + s.2.2.2 := by
    decide +kernel
  unfold uppercaseWide at member
  cases expanded : uppercaseExpansions.lookup n with
  | some expansion =>
      obtain ⟨before, after, table, -⟩ := List.lookup_eq_some_iff.mp expanded
      rw [expanded] at member
      exact expansions (n, expansion) (table ▸ List.mem_append_right _ List.mem_cons_self) m member
  | none =>
      rw [expanded] at member
      cases shifted : uppercaseShifts.find?
          fun s => s.1 ≤ n && n ≤ s.2.1 && (n - s.1) % s.2.2.1 == 0 with
      | none =>
          rw [shifted] at member
          rw [List.mem_singleton.mp member]
          exact Or.inr wide
      | some s =>
          rw [shifted] at member
          have apart := shifts s (List.mem_of_find?_eq_some shifted)
          have within := List.find?_some shifted
          simp only [Bool.and_eq_true, decide_eq_true_eq] at within
          have image := List.mem_singleton.mp member
          omega

/-- **Upper case brings in no mark**: no character of ASCII but capitals. -/
theorem not_mem_uppercase {c mark : Char} (other : c ≠ mark)
    (ascii : 0 < mark.toNat ∧ mark.toNat < 128) (small : mark.isUpper = false) :
    mark ∉ uppercase c := by
  unfold uppercase
  split
  · rename_i plain
    have letters : ∀ n < 128, (Char.ofNat n).toUpper = Char.ofNat n ∨
        (Char.ofNat n).toUpper.isUpper = true := by decide
    have image := letters c.toNat plain
    rw [Char.ofNat_toNat] at image
    rw [List.mem_singleton]
    rintro rfl
    rcases image with kept | capital
    · exact other kept.symm
    · exact Bool.false_ne_true (small.symm.trans capital)
  · rename_i wide
    rw [List.mem_map]
    rintro ⟨n, member, rfl⟩
    by_cases valid : n.isValidChar
    · have code : (Char.ofNat n).toNat = n := by
        rw [Char.ofNat, dif_pos valid]
        rfl
      rw [code] at ascii
      have image := capital_or_wide_of_mem_uppercaseWide (Nat.le_of_not_lt wide) member
      rcases image with capital | above
      · have capitals : ∀ n ≤ 90, 65 ≤ n → (Char.ofNat n).isUpper = true := by decide
        exact Bool.false_ne_true (small.symm.trans (capitals n capital.2 capital.1))
      · omega
    · rw [Char.ofNat, dif_neg valid] at ascii
      exact absurd ascii (by decide)

end Companions.Text
