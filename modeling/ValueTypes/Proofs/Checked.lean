import Mathlib.Data.List.Forall2
import ValueTypes.Checked

/-! Laws of results that report every fault. A list of results is taken together as two halves of it
are, and, unless a result fails without a fault, by taking each result side by side with the rest. -/

namespace ValueTypes.Checked

variable {ε α β : Type}

theorem of_both {x : Checked ε α} {y : Checked ε β} {a : α} {b : β}
    (h : both x y = .ok (a, b)) : x = .ok a ∧ y = .ok b := by
  cases x <;> cases y <;> simp_all [both]

theorem faults_both (x : Checked ε α) (y : Checked ε β) :
    (both x y).faults = x.faults ++ y.faults := by
  cases x <;> cases y <;> simp [both, faults]

theorem both_ne_error_nil {x : Checked ε α} {y : Checked ε β} (hx : x ≠ .error [])
    (hy : y ≠ .error []) : both x y ≠ .error [] := by
  cases x <;> cases y <;> simp_all [both]

theorem exists_error_iff {x : Checked ε α} (hx : x ≠ .error []) :
    (∃ es, x = .error es) ↔ x.faults ≠ [] := by
  cases x with
  | ok a => simp [faults]
  | error es =>
    have hes : es ≠ [] := fun h => hx (congrArg Except.error h)
    simpa [faults] using hes

/-! ### All results together -/

theorem all_of_faults_eq_nil {results : List (Checked ε α)} (h : results.flatMap faults = []) :
    all results = .ok (results.filterMap value?) := by
  rw [all, h]

theorem all_of_faults_ne_nil {results : List (Checked ε α)} (h : results.flatMap faults ≠ []) :
    all results = .error (results.flatMap faults) := by
  unfold all
  split
  · rename_i hnone
    exact absurd hnone h
  · rfl

theorem faults_all (results : List (Checked ε α)) :
    (all results).faults = results.flatMap faults := by
  by_cases h : results.flatMap faults = []
  · rw [all_of_faults_eq_nil h, h, faults]
  · rw [all_of_faults_ne_nil h, faults]

theorem all_ne_error_nil (results : List (Checked ε α)) : all results ≠ .error [] := by
  by_cases h : results.flatMap faults = []
  · simp [all_of_faults_eq_nil h]
  · simpa [all_of_faults_ne_nil h] using h

theorem mem_of_all {results : List (Checked ε α)} {as : List α} {a : α}
    (h : all results = .ok as) (ha : a ∈ as) : .ok a ∈ results := by
  by_cases hfaults : results.flatMap faults = []
  · rw [all_of_faults_eq_nil hfaults] at h
    obtain rfl := Except.ok.inj h
    obtain ⟨result, hresult, hvalue⟩ := List.mem_filterMap.mp ha
    cases result with
    | ok b =>
      obtain rfl := Option.some.inj hvalue
      exact hresult
    | error es => cases hvalue
  · rw [all_of_faults_ne_nil hfaults] at h
    cases h

theorem all_append (xs ys : List (Checked ε α)) :
    all (xs ++ ys) = (both (all xs) (all ys)).map fun p => p.1 ++ p.2 := by
  have hfaults : (xs ++ ys).flatMap faults = xs.flatMap faults ++ ys.flatMap faults :=
    List.flatMap_append
  by_cases hx : xs.flatMap faults = []
  · rw [all_of_faults_eq_nil hx]
    by_cases hy : ys.flatMap faults = []
    · rw [all_of_faults_eq_nil hy, all_of_faults_eq_nil (by rw [hfaults, hx, hy, List.append_nil]),
        List.filterMap_append]
      rfl
    · rw [all_of_faults_ne_nil hy, all_of_faults_ne_nil (by rwa [hfaults, hx]), hfaults, hx]
      rfl
  · rw [all_of_faults_ne_nil hx, all_of_faults_ne_nil (by simp [hfaults, hx]), hfaults]
    by_cases hy : ys.flatMap faults = []
    · rw [all_of_faults_eq_nil hy, hy, List.append_nil]
      rfl
    · rw [all_of_faults_ne_nil hy]
      rfl

/-- A result that fails without a fault is passed over, but not if it is taken side by side with the
rest. The two agree only where another fault is reported anyway. -/
theorem all_cons_iff {r : Checked ε α} {rs : List (Checked ε α)} :
    all (r :: rs) = (both r (all rs)).map (fun p => p.1 :: p.2) ↔
      r ≠ .error [] ∨ ∃ es, all rs = .error es := by
  rw [← List.singleton_append, all_append]
  match r with
  | .ok a => cases all rs <;> simp [all, faults, value?, both, Except.map]
  | .error (e :: es) => cases all rs <;> simp [all, faults, both, Except.map]
  | .error [] => cases all rs <;> simp [all, faults, value?, both, Except.map]

theorem all_cons {r : Checked ε α} {rs : List (Checked ε α)} (hfaulty : .error [] ∉ r :: rs) :
    all (r :: rs) = (both r (all rs)).map fun p => p.1 :: p.2 :=
  all_cons_iff.mpr (.inl fun hr => hfaulty (hr ▸ List.mem_cons_self))

theorem all_eq_ok {results : List (Checked ε α)} {as : List α} (hfaulty : .error [] ∉ results) :
    all results = .ok as ↔ results = as.map .ok := by
  induction results generalizing as with
  | nil => cases as <;> simp [all]
  | cons r rs ih =>
    have hrest : .error [] ∉ rs := fun hmem => hfaulty (List.mem_cons_of_mem r hmem)
    rw [all_cons hfaulty]
    cases as with
    | nil => cases r <;> cases all rs <;> simp [both, Except.map]
    | cons b bs =>
      rw [List.map_cons, List.cons.injEq, ← ih hrest]
      cases r <;> cases all rs <;> simp [both, Except.map]

theorem flatMap_faults_map {f : α → Checked ε β} {faulty : α → Bool} {fault : ε}
    (hf : ∀ a, (f a).faults = if faulty a then [fault] else []) (as : List α) :
    (as.map f).flatMap faults = (as.filter faulty).map fun _ => fault := by
  induction as with
  | nil => rfl
  | cons a as ih =>
    rw [List.map_cons, List.flatMap_cons, ih, hf]
    cases ha : faulty a with
    | false => simp [ha]
    | true => simp [ha]

theorem forall₂_of_all {f : α → Checked ε β} {as : List α} {bs : List β}
    (hf : ∀ a ∈ as, f a ≠ .error []) (h : all (as.map f) = .ok bs) :
    List.Forall₂ (fun a b => f a = .ok b) as bs := by
  have hfaulty : .error [] ∉ as.map f := by
    intro hmem
    obtain ⟨a, ha, heq⟩ := List.mem_map.mp hmem
    exact hf a ha heq
  have hmap : List.Forall₂ Eq (as.map f) (bs.map .ok) := by
    rw [List.forall₂_eq_eq_eq]
    exact (all_eq_ok hfaulty).mp h
  rwa [List.forall₂_map_left_iff, List.forall₂_map_right_iff] at hmap

/-! ### One result after the other -/

def faultLists : List (Checked ε α) → List (List ε)
  | [] => []
  | .ok _ :: results => faultLists results
  | .error es :: results => es :: faultLists results

theorem flatten_faultLists (results : List (Checked ε α)) :
    (faultLists results).flatten = results.flatMap faults := by
  fun_induction faultLists results with
  | case1 => rfl
  | case2 a results ih => rw [ih, List.flatMap_cons, faults, List.nil_append]
  | case3 es results ih => rw [List.flatten_cons, ih, List.flatMap_cons, faults]

/-- To take all results together is to take each of them side by side with the rest: every value or
every fault is there, in order, and a list of results can be cut anywhere. -/
structure IteratesBoth (results : List (Checked ε α)) : Prop where
  fold : all results =
    results.foldr (fun r rest => (both r rest).map fun p => p.1 :: p.2) (.ok [])
  cons : ∀ r rs, results = r :: rs → all (r :: rs) = (both r (all rs)).map fun p => p.1 :: p.2
  ok_iff : ∀ as, all results = .ok as ↔ results = as.map .ok
  error_iff : ∀ es, all results = .error es ↔
    (∃ fs, .error fs ∈ results) ∧ es = (faultLists results).flatten
  append : ∀ xs ys, results = xs ++ ys →
    all (xs ++ ys) = (both (all xs) (all ys)).map fun p => p.1 ++ p.2

theorem all_eq_foldr {results : List (Checked ε α)} (hfaulty : .error [] ∉ results) :
    all results = results.foldr (fun r rest => (both r rest).map fun p => p.1 :: p.2) (.ok []) := by
  induction results with
  | nil => rfl
  | cons r rs ih =>
    have hrest : .error [] ∉ rs := fun hmem => hfaulty (List.mem_cons_of_mem r hmem)
    rw [all_cons hfaulty, List.foldr_cons, ih hrest]

theorem flatMap_faults_ne_nil_iff {results : List (Checked ε α)} (hfaulty : .error [] ∉ results) :
    results.flatMap faults ≠ [] ↔ ∃ fs, .error fs ∈ results := by
  constructor
  · intro hne
    obtain ⟨e, he⟩ := List.exists_mem_of_ne_nil _ hne
    obtain ⟨r, hr, her⟩ := List.mem_flatMap.mp he
    cases r with
    | ok a => cases her
    | error fs => exact ⟨fs, hr⟩
  · rintro ⟨fs, hfs⟩ hnone
    obtain rfl : fs = [] := List.flatMap_eq_nil_iff.mp hnone _ hfs
    exact hfaulty hfs

theorem all_eq_error {results : List (Checked ε α)} {es : List ε} (hfaulty : .error [] ∉ results) :
    all results = .error es ↔
      (∃ fs, .error fs ∈ results) ∧ es = (faultLists results).flatten := by
  rw [flatten_faultLists, ← flatMap_faults_ne_nil_iff hfaulty]
  constructor
  · intro h
    have hne : es ≠ [] := fun hnil => all_ne_error_nil results (hnil ▸ h)
    have hes := congrArg faults h
    rw [faults_all] at hes
    exact ⟨hes ▸ hne, hes.symm⟩
  · rintro ⟨hne, rfl⟩
    exact all_of_faults_ne_nil hne

end ValueTypes.Checked
