import Mathlib.Data.List.Induction
import Mathlib.Data.List.Basic
import ValueTypes.Distinct

/-! First and second mentions. A list without repetitions holds each value as it is mentioned for the
first time, and the list of repeated values holds each of them as it is mentioned for the second time;
membership by number, order by place. -/

namespace ValueTypes

variable {α : Type} [DecidableEq α] {xs ys zs : List α} {x y : α} {n i j : Nat}

/-! ### Places of mentions -/

def MentionedAt (xs : List α) (n : Nat) (x : α) (i : Nat) : Prop :=
  xs[i]? = some x ∧ (xs.take i).count x = n

theorem MentionedAt.lt_length (h : MentionedAt xs n x i) : i < xs.length :=
  (List.getElem?_eq_some_iff.mp h.1).1

theorem MentionedAt.concat (h : MentionedAt xs n x i) (y : α) : MentionedAt (xs ++ [y]) n x i := by
  constructor
  · rw [List.getElem?_append_left h.lt_length, h.1]
  · rw [List.take_append_of_le_length (Nat.le_of_lt h.lt_length), h.2]

theorem mentionedAt_length (xs : List α) (x : α) :
    MentionedAt (xs ++ [x]) (xs.count x) x xs.length := by
  simp [MentionedAt]

theorem MentionedAt.not_lt (hi : MentionedAt xs n x i) (hj : MentionedAt xs n x j) : ¬ i < j := by
  intro hij
  have hcount : (xs.take (i + 1)).count x = n + 1 := by
    rw [List.take_add_one, hi.1, List.count_append, hi.2]
    simp
  have hle : (xs.take (i + 1)).count x ≤ (xs.take j).count x :=
    (List.take_sublist_take_left hij).count_le x
  rw [hcount, hj.2] at hle
  omega

theorem MentionedAt.eq (hi : MentionedAt xs n x i) (hj : MentionedAt xs n x j) : i = j :=
  Nat.le_antisymm (Nat.le_of_not_lt (hj.not_lt hi)) (Nat.le_of_not_lt (hi.not_lt hj))

theorem exists_mentionedAt (h : n < xs.count x) : ∃ i, MentionedAt xs n x i := by
  induction xs using List.reverseRecOn with
  | nil => simp at h
  | append_singleton xs y ih =>
    by_cases hn : n < xs.count x
    · obtain ⟨i, hi⟩ := ih hn
      exact ⟨i, hi.concat y⟩
    · -- The mention is the last one.
      obtain rfl : y = x := by
        by_contra hne
        simp [List.count_append, hne, hn] at h
      obtain rfl : xs.count y = n := by
        rw [List.count_append, List.count_singleton_self] at h
        omega
      exact ⟨xs.length, mentionedAt_length xs y⟩

theorem MentionedAt.idxOf_eq (h : MentionedAt xs 0 x i) : xs.idxOf x = i := by
  have hbefore : x ∉ xs.take i := List.count_eq_zero.mp h.2
  have hhere : xs.drop i = x :: xs.drop (i + 1) := by
    rw [List.drop_eq_getElem?_toList_append, h.1]
    rfl
  calc xs.idxOf x = (xs.take i ++ xs.drop i).idxOf x := by rw [List.take_append_drop]
    _ = (xs.take i).length + (xs.drop i).idxOf x := List.idxOf_append_of_notMem hbefore
    _ = i := by simp [hhere, Nat.min_eq_left (Nat.le_of_lt h.lt_length)]

/-! ### Lists in the order of mentions

A list is read from its end: what its last value adds depends on how often that value was mentioned
before, and changes nothing about the places in front of it. -/

/-- The values that are mentioned more than `n` times, each once, in the order of the mentions that
come after `n` others. -/
structure ListsAfter (n : Nat) (xs ys : List α) : Prop where
  mem_iff : ∀ x, x ∈ ys ↔ n < xs.count x
  nodup : ys.Nodup
  ordered : ys.Pairwise fun x y => ∃ i j, MentionedAt xs n x i ∧ MentionedAt xs n y j ∧ i < j

theorem listsAfter_nil (n : Nat) : ListsAfter n ([] : List α) [] := ⟨by simp, .nil, .nil⟩

theorem ListsAfter.concat (h : ListsAfter n xs ys) (x : α) :
    ListsAfter n (xs ++ [x]) (ys ++ if xs.count x = n then [x] else []) := by
  have hmem : ∀ y, y ∈ (if xs.count x = n then [x] else []) ↔ y = x ∧ xs.count x = n := by
    intro y
    split <;> simp_all
  have hnew : xs.count x = n → x ∉ ys := by
    intro hcount hx
    have := (h.mem_iff x).mp hx
    omega
  refine ⟨fun y => ?_, ?_, ?_⟩
  · rw [List.mem_append, hmem, h.mem_iff, List.count_append]
    by_cases hy : x = y
    · subst hy
      simp only [List.count_singleton_self, true_and]
      omega
    · simp [hy, Ne.symm hy]
  · rw [List.nodup_append]
    refine ⟨h.nodup, by split <;> simp, ?_⟩
    rintro y hy _ hx rfl
    obtain ⟨rfl, hcount⟩ := (hmem y).mp hx
    exact hnew hcount hy
  · rw [List.pairwise_append]
    refine ⟨h.ordered.imp ?_, by split <;> simp, ?_⟩
    · rintro y z ⟨i, j, hi, hj, hij⟩
      exact ⟨i, j, hi.concat x, hj.concat x, hij⟩
    · intro y hy z hz
      obtain ⟨rfl, rfl⟩ := (hmem z).mp hz
      obtain ⟨i, hi⟩ := exists_mentionedAt ((h.mem_iff y).mp hy)
      exact ⟨i, xs.length, hi.concat z, mentionedAt_length xs z, hi.lt_length⟩

theorem ListsAfter.unique (hy : ListsAfter n xs ys) (hz : ListsAfter n xs zs) : ys = zs := by
  have hperm : ys.Perm zs :=
    (List.perm_ext_iff_of_nodup hy.nodup hz.nodup).mpr fun x =>
      (hy.mem_iff x).trans (hz.mem_iff x).symm
  refine List.Perm.eq_of_pairwise ?_ hy.ordered hz.ordered hperm
  rintro x y - - ⟨i, j, hi, hj, hij⟩ ⟨j', i', hj', hi', hji⟩
  obtain rfl := hi.eq hi'
  obtain rfl := hj.eq hj'
  omega

/-! ### Each value once -/

theorem appendNew_concat (xs ys : List α) (y : α) : appendNew xs (ys ++ [y]) =
    appendNew xs ys ++ if y ∈ appendNew xs ys then [] else [y] := by
  rw [appendNew_append, appendNew_cons, appendNew_nil]
  split <;> simp

theorem isPrefix_appendNew (xs ys : List α) : xs <+: appendNew xs ys :=
  ⟨_, (appendNew_eq_append xs ys).symm⟩

theorem appendNew_of_subset (h : ∀ y ∈ ys, y ∈ xs) : appendNew xs ys = xs := by
  induction ys with
  | nil => rfl
  | cons y ys ih =>
    obtain ⟨hy, hys⟩ := List.forall_mem_cons.mp h
    rw [appendNew_cons, if_pos hy, ih hys]

theorem appendNew_appendNew (h : xs.Nodup) (ys : List α) :
    appendNew xs (appendNew xs ys) = appendNew xs ys := by
  obtain ⟨new, hnew⟩ := isPrefix_appendNew xs ys
  have hnodup : (xs ++ new).Nodup := hnew ▸ nodup_appendNew h ys
  rw [← hnew, appendNew_append, appendNew_of_subset fun _ hx => hx, appendNew_of_nodup hnodup]

theorem filter_appendNew (p : α → Bool) (xs ys : List α) :
    (appendNew xs ys).filter p = appendNew (xs.filter p) (ys.filter p) := by
  induction ys generalizing xs with
  | nil => rfl
  | cons y ys ih =>
    rw [appendNew_cons, ih]
    by_cases hp : p y
    · rw [List.filter_cons_of_pos hp, appendNew_cons]
      by_cases hy : y ∈ xs <;> simp [hy, hp]
    · rw [List.filter_cons_of_neg hp]
      by_cases hy : y ∈ xs <;> simp [hy, hp]

theorem appendNew_perm (h : xs.Perm ys) : (appendNew [] xs).Perm (appendNew [] ys) := by
  refine (List.perm_ext_iff_of_nodup (nodup_appendNew .nil xs) (nodup_appendNew .nil ys)).mpr ?_
  intro x
  simp [h.mem_iff]

theorem listsAfter_appendNew (xs : List α) : ListsAfter 0 xs (appendNew [] xs) := by
  induction xs using List.reverseRecOn with
  | nil => exact listsAfter_nil 0
  | append_singleton xs x ih =>
    have hfirst : x ∉ appendNew [] xs ↔ xs.count x = 0 := by simp [List.count_eq_zero]
    rw [appendNew_concat, ← ite_not]
    simpa only [hfirst] using ih.concat x

/-! ### Repeated values -/

theorem recurring_concat (seen xs : List α) (x : α) : recurring seen (xs ++ [x]) =
    recurring seen xs ++ if x ∈ seen ∨ x ∈ xs then [x] else [] := by
  induction xs generalizing seen with
  | nil => simp [recurring]
  | cons y xs ih =>
    rw [List.cons_append, recurring, recurring]
    by_cases hy : y ∈ seen
    · rw [if_pos hy, if_pos hy, ih]
      grind
    · rw [if_neg hy, if_neg hy, ih]
      grind

theorem repeated_concat (xs : List α) (x : α) : repeated (xs ++ [x]) =
    repeated xs ++ if x ∈ xs ∧ x ∉ repeated xs then [x] else [] := by
  by_cases hx : x ∈ xs
  · have hagain : recurring [] (xs ++ [x]) = recurring [] xs ++ [x] := by simp [recurring_concat, hx]
    rw [repeated, hagain, appendNew_concat, ← ite_not]
    simp only [hx, true_and]
    rfl
  · have hnone : recurring [] (xs ++ [x]) = recurring [] xs := by simp [recurring_concat, hx]
    rw [repeated, hnone]
    simp [hx, repeated]

theorem listsAfter_repeated (xs : List α) : ListsAfter 1 xs (repeated xs) := by
  induction xs using List.reverseRecOn with
  | nil => exact listsAfter_nil 1
  | append_singleton xs x ih =>
    have hsecond : x ∈ xs ∧ x ∉ repeated xs ↔ xs.count x = 1 := by
      rw [ih.mem_iff, ← List.count_pos_iff]
      omega
    rw [repeated_concat]
    simpa only [hsecond] using ih.concat x

example : repeated [1, 2, 3, 2, 1, 2] = [2, 1] := rfl

theorem listsAfter_one_iff : ListsAfter 1 xs ys ↔ ys = repeated xs :=
  ⟨fun h => h.unique (listsAfter_repeated xs), fun h => h ▸ listsAfter_repeated xs⟩

end ValueTypes
