import ValueTypes.Proofs.Source.AttributeText

/-! The reference of a type is itself a text of the type, apart from the underlying types, which a
reference does not spell. -/

namespace ValueTypes.Source

open ValueTypes.Parser

namespace TypeExpr

mutual

def withoutUnderlying : TypeExpr → TypeExpr
  | ⟨name, reference, _, protocol, generics, isPointer⟩ =>
    ⟨name, reference, none, protocol, withoutUnderlyings generics, isPointer⟩

def withoutUnderlyings : List TypeExpr → List TypeExpr
  | [] => []
  | t :: ts => t.withoutUnderlying :: withoutUnderlyings ts

end

theorem withoutUnderlyings_eq_map (ts : List TypeExpr) :
    withoutUnderlyings ts = ts.map withoutUnderlying := by
  induction ts with
  | nil => rw [withoutUnderlyings, List.map_nil]
  | cons t ts ih => rw [withoutUnderlyings, ih, List.map_cons]

theorem withoutUnderlying_eq (t : TypeExpr) : t.withoutUnderlying =
    { t with underlying := none, generics := t.generics.map withoutUnderlying } := by
  cases t with
  | mk => rw [withoutUnderlying, withoutUnderlyings_eq_map]

@[simp] theorem reference_withoutUnderlying (t : TypeExpr) :
    t.withoutUnderlying.reference = t.reference := by
  rw [withoutUnderlying_eq]

@[simp] theorem isPointer_withoutUnderlying (t : TypeExpr) :
    t.withoutUnderlying.isPointer = t.isPointer := by
  rw [withoutUnderlying_eq]

end TypeExpr

theorem BracketText.eq_writeBrackets {type : TypeExpr → List Char → Prop} {protocol : Option String}
    {types : List TypeExpr} {brackets : String} {a : List Char}
    (h : BracketText type protocol types brackets a) :
    brackets = writeBrackets protocol (types.map (·.reference)) := by
  cases h with
  | none | protocol => rfl
  | generics hb hw htypes =>
    cases types with
    | nil => cases htypes
    | cons t ts => rfl

theorem StarText.sign (star : Bool) : StarText star (if star then "*" else "").toList := by
  cases star with
  | true => exact .some (within_nil _)
  | false => exact .none

theorem TypeText.reference {t : TypeExpr} {u : List Char} (h : TypeText t u) :
    TypeText t.withoutUnderlying t.reference.toList := by
  -- References are put together from those of the types inside, whose texts are shorter.
  induction hn : u.length using Nat.strong_induction_on generalizing t u with
  | _ n ih =>
    subst hn
    cases h with
    | @intro _ brackets star n a u e hname hbrackets hunderlying hstar hreference hpointer =>
      have hinside := bracketText_respelled hbrackets TypeExpr.withoutUnderlying (·.reference)
        TypeExpr.reference_withoutUnderlying TypeExpr.isPointer_withoutUnderlying
        fun t' u' hlt h => ih _ (by simp; omega) h rfl
      rw [← hbrackets.eq_writeBrackets] at hinside
      have htext : t.reference.toList = t.name.toList ++ brackets.toList ++ [] ++
          (if star then "*" else "").toList := by
        rw [hreference, String.toList_append, String.toList_append, List.append_nil]
      rw [htext, TypeExpr.withoutUnderlying_eq]
      exact .intro hname.self hinside .none (StarText.sign star) hreference hpointer

/-- The reference of a type that was read is read as the same type without its underlying types, and
has the same reference again. -/
theorem parse_reference_eq_ok {source : String} {t : TypeExpr} (h : TypeExpr.parse source = .ok t) :
    TypeExpr.parse t.reference = .ok t.withoutUnderlying ∧
      t.withoutUnderlying.reference = t.reference ∧ t.withoutUnderlying.name = t.name ∧
      t.withoutUnderlying.protocol = t.protocol ∧ t.withoutUnderlying.isPointer = t.isPointer ∧
      t.withoutUnderlying.generics.map (·.reference) = t.generics.map (·.reference) ∧
      t.withoutUnderlying.underlying = none := by
  obtain ⟨r, hread⟩ := parse_eq_ok.mp h
  obtain ⟨before, text, after, -, -, htext, -⟩ := wholeTypeExpr_eq_done.mp hread
  have hreference : wholeTypeExpr t.reference.toList = .done t.withoutUnderlying [] :=
    wholeTypeExpr_eq_done.mpr
      ⟨[], _, [], by simp, within_nil _, htext.reference, within_nil _, rfl⟩
  refine ⟨parse_eq_ok.mpr ⟨[], hreference⟩, ?_⟩
  simp [TypeExpr.withoutUnderlying_eq t, Function.comp_def]

def pagesType : String :=
  "Pages < id<Sized> (View),\n Leaf\t<unsigned  long\tlong (Count) * , id>* > (Store)  *"

theorem parse_reference_pagesType : ∃ t, TypeExpr.parse pagesType = .ok t ∧
    t.reference = "Pages<id<Sized>, Leaf<unsigned long long*, id>*>*" ∧ t.underlying = some "Store" ∧
    TypeExpr.parse "Pages<id<Sized>, Leaf<unsigned long long*, id>*>*" = .ok t.withoutUnderlying := by
  have hview : (TypeExpr.parse pagesType).toOption.map (fun t => (t.reference, t.underlying)) =
      some ("Pages<id<Sized>, Leaf<unsigned long long*, id>*>*", some "Store") := by decide +kernel
  cases ht : TypeExpr.parse pagesType with
  | error why => simp [ht, Except.toOption] at hview
  | ok t =>
    obtain ⟨hreference, hunderlying⟩ :
        t.reference = "Pages<id<Sized>, Leaf<unsigned long long*, id>*>*" ∧
          t.underlying = some "Store" := by
      simpa [ht, Except.toOption] using hview
    exact ⟨t, rfl, hreference, hunderlying, hreference ▸ (parse_reference_eq_ok ht).1⟩

end ValueTypes.Source
