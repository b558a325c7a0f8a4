import ValueTypes.Proofs.Distinct
import ValueTypes.Proofs.Feature.Sum

/-! Declarations that are refused. Generation fails for missing and for repeated names and for nothing
else, whatever tags are in force, and it says so once for each missing name and once for each name that
is repeated. -/

namespace ValueTypes

open Objc

structure Judges (result : Checked Problem (List File)) (valid : Prop)
    (reported : List Problem → Prop) : Prop where
  succeeds_iff : (∃ files, result = .ok files) ↔ valid
  fails_iff : ∀ problems, result = .error problems ↔ ¬ valid ∧ reported problems

theorem judges_of_found {result : Checked Problem (List File)} {found : List Problem} {valid : Prop}
    {reported : List Problem → Prop}
    (hresult : ∀ problems, result = .error problems ↔ found = problems ∧ problems ≠ [])
    (hvalid : found = [] ↔ valid) (hreported : ∀ problems, reported problems ↔ problems = found) :
    Judges result valid reported where
  succeeds_iff := by
    rw [← hvalid]
    cases result with
    | ok files =>
      have hnone : found = [] := by
        by_contra hsome
        cases (hresult found).mpr ⟨rfl, hsome⟩
      simp [hnone]
    | error problems =>
      obtain ⟨rfl, hsome⟩ := (hresult problems).mp rfl
      simp [hsome]
  fails_iff problems := by
    rw [hresult, ← hvalid, hreported]
    constructor
    · rintro ⟨rfl, hsome⟩
      exact ⟨hsome, rfl⟩
    · rintro ⟨hsome, rfl⟩
      exact ⟨rfl, hsome⟩

theorem AlgebraicType.missingNameProblems_eq (d : AlgebraicType) : d.missingNameProblems =
    List.replicate ((d.members.map Case.name).count "") .unnamedCase := by
  have hempty : ∀ c : Case, c.name.isEmpty = (c.name == "") := by
    intro c
    apply Bool.eq_iff_iff.mpr
    simp
  simp only [missingNameProblems, hempty, List.map_const', ← List.countP_eq_length_filter,
    List.count_eq_countP, List.countP_map]
  rfl

/-- Generation refuses exactly the declarations with a missing or a repeated name. The missing names
are reported first, one by one, and then each repeated name once, in the order in which the repetitions
begin. -/
theorem generate_judges_names :
    (∀ (settings : Settings) (d : AlgebraicType),
      Judges (AlgebraicType.generate settings d)
        ((∀ c ∈ d.members, c.name ≠ "") ∧ (d.members.map Case.name).Nodup)
        fun problems => ∃ again, ListsAfter 1 (d.members.map Case.name) again ∧
          problems = List.replicate ((d.members.map Case.name).count "") .unnamedCase ++
            again.map .repeatedCase) ∧
    (∀ (settings : Settings) (d : ValueObject),
      Judges (ValueObject.generate settings d) (d.members.map (·.name)).Nodup
        fun problems => ∃ again, ListsAfter 1 (d.members.map (·.name)) again ∧
          problems = again.map .repeatedAttribute) := by
  constructor
  · intro settings d
    refine judges_of_found (fun _ => AlgebraicType.generate_eq_error rfl)
      AlgebraicType.nameProblems_eq_nil fun problems => ?_
    simp only [listsAfter_one_iff, exists_eq_left, ← AlgebraicType.missingNameProblems_eq]
    rfl
  · intro settings d
    refine judges_of_found (fun _ => ValueObject.generate_eq_error rfl)
      ValueObject.nameProblems_eq_nil fun problems => ?_
    simp only [listsAfter_one_iff, exists_eq_left]
    rfl

end ValueTypes
