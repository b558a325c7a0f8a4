/-! Lists without repetition, in the order of first mention. -/

namespace ValueTypes

variable {α : Type} [DecidableEq α]

def appendNew (xs ys : List α) : List α :=
  ys.foldl (fun seen y => if y ∈ seen then seen else seen ++ [y]) xs

@[simp] theorem appendNew_nil (xs : List α) : appendNew xs [] = xs := rfl

theorem appendNew_cons (xs ys : List α) (y : α) :
    appendNew xs (y :: ys) = appendNew (if y ∈ xs then xs else xs ++ [y]) ys := rfl

theorem appendNew_append (xs ys zs : List α) :
    appendNew xs (ys ++ zs) = appendNew (appendNew xs ys) zs := List.foldl_append

@[simp] theorem mem_appendNew {xs ys : List α} {a : α} : a ∈ appendNew xs ys ↔ a ∈ xs ∨ a ∈ ys := by
  induction ys generalizing xs with
  | nil => simp
  | cons y ys ih =>
    rw [appendNew_cons, ih]
    split <;> grind

theorem nodup_appendNew {xs : List α} (h : xs.Nodup) (ys : List α) : (appendNew xs ys).Nodup := by
  induction ys generalizing xs with
  | nil => exact h
  | cons y ys ih =>
    rw [appendNew_cons]
    apply ih
    split
    · exact h
    · rename_i hy
      simpa [List.nodup_append, h] using fun a ha (he : a = y) => hy (he ▸ ha)

theorem appendNew_eq_append (xs ys : List α) :
    appendNew xs ys = xs ++ (ys.removeAll xs).eraseDups := by
  induction ys generalizing xs with
  | nil => simp
  | cons y ys ih =>
    rw [appendNew_cons, ih]
    by_cases hy : y ∈ xs
    · rw [if_pos hy, List.cons_removeAll, if_neg (by simpa using hy)]
    · have hnew : ys.removeAll (xs ++ [y]) = (ys.removeAll xs).filter (fun b => !b == y) := by
        rw [List.removeAll, List.removeAll, List.filter_filter]
        apply List.filter_congr
        intro x _
        simp [Bool.and_comm, Bool.beq_eq_decide_eq]
      rw [if_neg hy, List.cons_removeAll, if_pos (by simpa using hy), List.eraseDups_cons, hnew,
        List.append_assoc, List.singleton_append]

theorem appendNew_of_nodup {xs ys : List α} (h : (xs ++ ys).Nodup) : appendNew xs ys = xs ++ ys := by
  induction ys generalizing xs with
  | nil => rw [appendNew_nil, List.append_nil]
  | cons y ys ih =>
    have hassoc : xs ++ [y] ++ ys = xs ++ y :: ys := by simp
    have hy : y ∉ xs := fun hmem => (List.nodup_append.mp h).2.2 y hmem y List.mem_cons_self rfl
    rw [appendNew_cons, if_neg hy, ih (by rwa [hassoc]), hassoc]

theorem appendNew_nil_left (xs : List α) : appendNew [] xs = xs.eraseDups := by
  have hall : xs.removeAll [] = xs := by simp [List.removeAll]
  rw [appendNew_eq_append, hall, List.nil_append]

def recurring (seen : List α) : List α → List α
  | [] => []
  | x :: xs => if x ∈ seen then x :: recurring seen xs else recurring (x :: seen) xs

/-- The members that occur at least twice, each once, in the order of their second occurrences. -/
def repeated (xs : List α) : List α := appendNew [] (recurring [] xs)

theorem recurring_eq_nil {seen xs : List α} :
    recurring seen xs = [] ↔ xs.Nodup ∧ ∀ x ∈ xs, x ∉ seen := by
  induction xs generalizing seen with
  | nil => simp [recurring]
  | cons x xs ih =>
    rw [recurring]
    split
    · rename_i hx
      simp [hx]
    · rename_i hx
      rw [ih]
      grind

theorem repeated_eq_nil {xs : List α} : repeated xs = [] ↔ xs.Nodup := by
  have hmem : repeated xs = [] ↔ recurring [] xs = [] := by
    simp only [List.eq_nil_iff_forall_not_mem, repeated, mem_appendNew, List.not_mem_nil, false_or]
  rw [hmem, recurring_eq_nil]
  simp

end ValueTypes
