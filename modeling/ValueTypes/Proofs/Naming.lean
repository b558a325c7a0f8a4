import Mathlib
import ValueTypes.Naming
import ValueTypes.Proofs.Source.Words

/-! Derived names of identifiers. Their letters are ASCII, where lower case keeps apart what upper case
keeps apart. -/

namespace ValueTypes

open ValueTypes.Parser ValueTypes.Source

theorem toNat_lt_of_isWordChar {c : Char} (h : isWordChar c) : c.toNat < 0x80 := by
  simp only [isWordChar, Char.isAlphanum, Char.isAlpha, Char.isUpper, Char.isLower, Char.isDigit,
    Bool.or_eq_true, Bool.and_eq_true, decide_eq_true_eq, beq_iff_eq] at h
  rcases h with ((⟨-, hle⟩ | ⟨-, hle⟩) | ⟨-, hle⟩) | rfl
  · exact Nat.lt_of_le_of_lt (UInt32.le_iff_toNat_le.mp hle) (by decide)
  · exact Nat.lt_of_le_of_lt (UInt32.le_iff_toNat_le.mp hle) (by decide)
  · exact Nat.lt_of_le_of_lt (UInt32.le_iff_toNat_le.mp hle) (by decide)
  · decide

theorem isWordStart_eq_false_of_isDigit {c : Char} (h : c.isDigit) : isWordStart c = false := by
  by_contra hstart
  simp only [isWordStart, Char.isAlpha, Char.isUpper, Char.isLower, Char.isDigit, Bool.not_eq_false,
    Bool.or_eq_true, Bool.and_eq_true, decide_eq_true_eq, beq_iff_eq, UInt32.le_iff_toNat_le] at h hstart
  change 48 ≤ c.val.toNat ∧ c.val.toNat ≤ 57 at h
  rcases hstart with (hupper | hlower) | rfl
  · change 65 ≤ c.val.toNat ∧ c.val.toNat ≤ 90 at hupper
    omega
  · change 97 ≤ c.val.toNat ∧ c.val.toNat ≤ 122 at hlower
    omega
  · exact absurd h (by decide)

theorem isWordStart_iff_of_isWordChar {c : Char} (h : isWordChar c) :
    isWordStart c ↔ c.isDigit = false := by
  cases hc : c.isDigit with
  | true => simp [isWordStart_eq_false_of_isDigit hc]
  | false => simpa [isWordChar, Char.isAlphanum, isWordStart, hc] using h

theorem isIdentifier_iff_of_within {w : String} (hw : Within isWordChar w.toList) (hne : w ≠ "") :
    IsIdentifier w ↔ w.toList.head?.any Char.isDigit = false := by
  obtain ⟨c, cs, hcs⟩ := List.exists_cons_of_ne_nil (mt String.toList_eq_nil_iff.mp hne)
  have hall : w.toList.all isWordChar := List.all_eq_true.mpr hw
  rw [hcs, within_cons] at hw
  rw [IsIdentifier, and_iff_left hall, hcs, List.head?_cons, Option.any_some, Option.any_some]
  exact isWordStart_iff_of_isWordChar hw.1

/-! ### First letters -/

structure ChangesLetters (change : Char → Char) : Prop where
  isAlpha : ∀ c, (change c).isAlpha = c.isAlpha
  other : ∀ c, c.isAlpha = false → change c = c

theorem changesLetters_toLower : ChangesLetters Char.toLower where
  isAlpha := Char.isAlpha_toLower_eq_isAlpha
  other c hc := by
    apply Char.toLower_eq_of_not_isUpper
    simp_all [Char.isAlpha]

theorem changesLetters_toUpper : ChangesLetters Char.toUpper where
  isAlpha := Char.isAlpha_toUpper_eq_isAlpha
  other c hc := by
    apply Char.toUpper_eq_of_not_isLower
    simp_all [Char.isAlpha]

namespace ChangesLetters

variable {change : Char → Char} {f : Char → List Char} {w : String}

theorem isWordStart (h : ChangesLetters change) (c : Char) :
    isWordStart (change c) = isWordStart c := by
  unfold Source.isWordStart
  cases hc : c.isAlpha with
  | true => simp only [h.isAlpha, hc, Bool.true_or]
  | false => rw [h.other c hc, hc]

theorem isWordChar (h : ChangesLetters change) (c : Char) : isWordChar (change c) = isWordChar c := by
  unfold Source.isWordChar Char.isAlphanum
  cases hc : c.isAlpha with
  | true => simp only [h.isAlpha, hc, Bool.true_or]
  | false => rw [h.other c hc, hc]

theorem mapFirst (h : ChangesLetters change) (hf : ∀ c, Source.isWordChar c → f c = [change c])
    (hw : Within Source.isWordChar w.toList) :
    Within Source.isWordChar (mapFirst f w).toList ∧ (IsIdentifier (mapFirst f w) ↔ IsIdentifier w) := by
  cases hcs : w.toList with
  | nil =>
    have hempty : ValueTypes.mapFirst f w = w := by
      rw [ValueTypes.mapFirst, hcs, String.toList_eq_nil_iff.mp hcs]
    rw [hempty, hcs]
    exact ⟨within_nil _, Iff.rfl⟩
  | cons c cs =>
    rw [hcs, within_cons] at hw
    have hmap : (ValueTypes.mapFirst f w).toList = change c :: cs := by
      rw [ValueTypes.mapFirst, hcs]
      simp [hf c hw.1]
    rw [IsIdentifier, IsIdentifier, hmap, hcs]
    simp only [within_cons, List.head?_cons, Option.any_some, List.all_cons, h.isWordStart,
      h.isWordChar, and_true]
    exact hw

end ChangesLetters

theorem lower_of_isWordChar {c : Char} (h : isWordChar c) : Text.lower c = [c.toLower] :=
  if_pos (toNat_lt_of_isWordChar h)

theorem upper_of_isWordChar {c : Char} (h : isWordChar c) : Text.upper c = [c.toUpper] :=
  if_pos (toNat_lt_of_isWordChar h)

section

variable {w : String} (hw : Within isWordChar w.toList)

include hw

theorem within_uncapitalized : Within isWordChar (uncapitalized w).toList :=
  (changesLetters_toLower.mapFirst (fun _ => lower_of_isWordChar) hw).1

theorem within_capitalized : Within isWordChar (capitalized w).toList :=
  (changesLetters_toUpper.mapFirst (fun _ => upper_of_isWordChar) hw).1

theorem isIdentifier_uncapitalized : IsIdentifier (uncapitalized w) ↔ IsIdentifier w :=
  (changesLetters_toLower.mapFirst (fun _ => lower_of_isWordChar) hw).2

end

/-- Beyond ASCII this fails: the Kelvin sign and `K` have one lower case, but each is its own upper
case. -/
theorem capitalized_eq_of_uncapitalized_eq {v w : String} (hv : IsIdentifier v) (hw : IsIdentifier w)
    (h : uncapitalized v = uncapitalized w) : capitalized v = capitalized w := by
  obtain ⟨c, cs, hcs, hc, -⟩ := hv.exists_cons
  obtain ⟨d, ds, hds, hd, -⟩ := hw.exists_cons
  have hc' := isWordChar_of_isWordStart hc
  have hd' := isWordChar_of_isWordStart hd
  simp only [uncapitalized, mapFirst, hcs, hds, lower_of_isWordChar hc', lower_of_isWordChar hd',
    List.singleton_append, String.ofList_inj, List.cons.injEq] at h
  obtain ⟨hlower, rfl⟩ := h
  have hupper : c.toUpper = d.toUpper := by
    rw [← Char.toUpper_toLower_eq_toUpper c, hlower, Char.toUpper_toLower_eq_toUpper]
  simp only [capitalized, mapFirst, hcs, hds, upper_of_isWordChar hc', upper_of_isWordChar hd', hupper]

theorem uncapitalized_ne_empty {w : String} (hw : Within isWordChar w.toList) (hne : w ≠ "") :
    uncapitalized w ≠ "" := by
  obtain ⟨c, cs, hcs⟩ := List.exists_cons_of_ne_nil (mt String.toList_eq_nil_iff.mp hne)
  rw [hcs, within_cons] at hw
  rw [ne_eq, ← String.toList_eq_nil_iff]
  simp [uncapitalized, mapFirst, hcs, lower_of_isWordChar hw.1]

theorem uncapitalized_capitalized {w : String} (hw : Within isWordChar w.toList) :
    uncapitalized (capitalized w) = uncapitalized w := by
  cases hcs : w.toList with
  | nil => simp [capitalized, mapFirst, String.toList_eq_nil_iff.mp hcs]
  | cons c cs =>
    rw [hcs, within_cons] at hw
    have hupper : isWordChar c.toUpper := by
      rw [changesLetters_toUpper.isWordChar]
      exact hw.1
    simp [capitalized, uncapitalized, mapFirst, hcs, upper_of_isWordChar hw.1,
      lower_of_isWordChar hw.1, lower_of_isWordChar hupper]

/-! ### Joined names -/

namespace Source.IsIdentifier

variable {u v : String}

theorem append (hu : IsIdentifier u) (hv : Within isWordChar v.toList) : IsIdentifier (u ++ v) := by
  obtain ⟨c, cs, hcs, hc, -⟩ := hu.exists_cons
  refine ⟨?_, List.all_eq_true.mpr ?_⟩
  · rw [String.toList_append, hcs, List.cons_append, List.head?_cons]
    exact hc
  · rw [String.toList_append]
    exact within_append.mpr ⟨hu.within, hv⟩

theorem of_append (h : IsIdentifier (u ++ v)) (hu : u ≠ "") : IsIdentifier u := by
  have hwithin := h.within
  rw [String.toList_append, within_append] at hwithin
  obtain ⟨c, cs, hcs⟩ := List.exists_cons_of_ne_nil (mt String.toList_eq_nil_iff.mp hu)
  obtain ⟨hstart, -⟩ := h
  rw [String.toList_append, hcs, List.cons_append, List.head?_cons] at hstart
  refine ⟨?_, List.all_eq_true.mpr hwithin.1⟩
  rw [hcs, List.head?_cons]
  exact hstart

theorem withoutClassTag (h : IsIdentifier u) : IsIdentifier (withoutClassTag u) := by
  unfold ValueTypes.withoutClassTag
  rcases List.eq_nil_or_concat (u.toList.takeWhile Char.isUpper) with hnone | ⟨front, c, hrun⟩
  · rw [hnone, List.length_nil, Nat.zero_sub, List.drop_zero, String.ofList_toList]
    exact h
  · have hupper : c.isUpper := List.mem_takeWhile_imp (l := u.toList) (by simp [hrun])
    obtain ⟨rest, hsplit⟩ : ∃ rest, u.toList = front ++ c :: rest := by
      refine ⟨u.toList.dropWhile Char.isUpper, ?_⟩
      nth_rewrite 1 [← List.takeWhile_append_dropWhile (p := Char.isUpper) (l := u.toList), hrun]
      simp
    have hwithin := h.within
    rw [hsplit, within_append] at hwithin
    have hdrop : u.toList.drop ((front.concat c).length - 1) = c :: rest := by simp [hsplit]
    rw [hrun, hdrop, IsIdentifier, String.toList_ofList]
    refine ⟨?_, List.all_eq_true.mpr hwithin.2⟩
    simp [isWordStart, Char.isAlpha, hupper]

end Source.IsIdentifier

end ValueTypes
