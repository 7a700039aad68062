/-! Classes and cases of letters without an accent.
A class is told by the numbers of its characters.  So is a character in small letters, and only
letters change.
-/

namespace StoryAtlas.Text

theorem isUpper_iff {c : Char} : c.isUpper = true ↔ 65 ≤ c.toNat ∧ c.toNat ≤ 90 :=
  decide_eq_true_iff

theorem isLower_iff {c : Char} : c.isLower = true ↔ 97 ≤ c.toNat ∧ c.toNat ≤ 122 :=
  Bool.and_eq_true_iff.trans (and_congr decide_eq_true_iff decide_eq_true_iff)

theorem isDigit_iff {c : Char} : c.isDigit = true ↔ 48 ≤ c.toNat ∧ c.toNat ≤ 57 :=
  Bool.and_eq_true_iff.trans (and_congr decide_eq_true_iff decide_eq_true_iff)

theorem isAlpha_iff {c : Char}
    : c.isAlpha = true ↔ 65 ≤ c.toNat ∧ c.toNat ≤ 90 ∨ 97 ≤ c.toNat ∧ c.toNat ≤ 122 :=
  Bool.or_eq_true_iff.trans (or_congr isUpper_iff isLower_iff)

theorem isAlphanum_iff {c : Char} : c.isAlphanum = true ↔ c.isAlpha = true ∨ c.isDigit = true :=
  Bool.or_eq_true_iff

theorem toNat_toLower (c : Char)
    : c.toLower.toNat = if 65 ≤ c.toNat ∧ c.toNat ≤ 90 then c.toNat + 32 else c.toNat := by
  by_cases hupper : 65 ≤ c.toNat ∧ c.toNat ≤ 90
  · have hval : c.toLower.val = c.val + ('a'.val - 'A'.val) := congrArg Char.val (dif_pos hupper)
    have hsum : (c.val + ('a'.val - 'A'.val)).toNat = (c.toNat + 32) % 2 ^ 32 :=
      UInt32.toNat_add _ _
    rw [if_pos hupper, Char.toNat, hval, hsum]
    omega
  · have hsame : c.toLower = c := dif_neg hupper
    rw [if_neg hupper, hsame]

/-- A character is a letter if it is one in small letters. -/
theorem isAlpha_of_toLower {c : Char} (h : c.toLower.isAlpha = true) : c.isAlpha = true := by
  rw [isAlpha_iff, toNat_toLower] at h
  rw [isAlpha_iff]
  split at h <;> omega

/-- What becomes a small letter is this letter or its capital. -/
theorem toLower_eq_iff_of_isLower {c small : Char} (h : small.isLower = true)
    : c.toLower = small ↔ c.toNat = small.toNat ∨ c.toNat + 32 = small.toNat := by
  have hsmall := isLower_iff.1 h
  rw [← Char.toNat_inj, toNat_toLower]
  split <;> omega

/-- What becomes no letter is no letter. -/
theorem toLower_eq_iff_of_not_isAlpha {c other : Char} (h : other.isAlpha = false)
    : c.toLower = other ↔ c = other := by
  have hother := mt isAlpha_iff.2 (Bool.eq_false_iff.1 h)
  rw [← Char.toNat_inj, ← Char.toNat_inj, toNat_toLower]
  split <;> omega

end StoryAtlas.Text
