import ValueTypes.Proofs.Feature.Arguments
import ValueTypes.Proofs.Feature.Names

/-! Variables that the generated bodies declare, and names from the declaration that meet them. For
each kind of method there is an exact condition under which none of its names is captured. -/

namespace ValueTypes

namespace Objc

def Statement.declared? : Statement → Option String
  | declare _ var _ => some var
  | declarePointer _ var _ => some var
  | _ => none

/-- The variables that the body declares outside of its blocks. -/
def Method.locals (m : Method) : List String := m.body.filterMap Statement.declared?

def Method.ArgumentsApart (m : Method) : Prop := ∀ x ∈ m.arguments, x.name ∉ m.locals

def Method.ParametersApart (m : Method) : Prop := ∀ p ∈ m.parameters, p.name ∉ m.locals

def Method.FirstApart (m : Method) : Prop :=
  ∀ x ∈ m.arguments.head?, x.name ∉ m.arguments.tail.map (·.name)

instance (m : Method) : Decidable m.ArgumentsApart := inferInstanceAs (Decidable (∀ x ∈ _, _))

instance (m : Method) : Decidable m.ParametersApart := inferInstanceAs (Decidable (∀ x ∈ _, _))

instance (m : Method) : Decidable m.FirstApart := inferInstanceAs (Decidable (∀ x ∈ _, _))

end Objc

open Objc

theorem filterMap_declared? {as : List Attribute} {f : Attribute → Statement}
    (h : ∀ a, (f a).declared? = none) : (as.map f).filterMap Statement.declared? = [] := by
  rw [List.filterMap_map, List.filterMap_eq_nil_iff]
  exact fun a _ => h a

namespace Case

theorem locals_factory (c : Case) (typeName : String) : (c.factory typeName).locals = ["object"] := by
  rw [Method.locals, factory, factoryBody, List.filterMap_append, List.filterMap_append,
    filterMap_declared? (by intro; rfl)]
  rfl

theorem locals_testMethod (c : Case) (typeName : String) (qualified assumed : Bool) :
    (c.testMethod typeName qualified assumed).locals = [] := by
  unfold Method.locals testMethod testBody
  cases c.attributes with
  | nil => rfl
  | cons a others =>
    rw [List.filterMap_append, List.filterMap_append, filterMap_declared? (by intro; rfl)]
    rfl

theorem handler_ne_result (c : Case) : c.handler ≠ "result" := by
  intro h
  have hlast := congrArg (·.toList.getLast?) h
  simp [handler] at hlast

end Case

namespace AlgebraicType

variable {d : AlgebraicType}

theorem locals_matcherMethod (d : AlgebraicType) : d.matcherMethod.locals = ["result"] := rfl

theorem locals_instanceMethods (d : AlgebraicType) : ∀ m ∈ d.total.instanceMethods,
    m.locals = if m.begins "match" && m.returnType.type.isSome then ["result"] else [] := by
  intro m hm
  obtain ⟨r, hr, rfl⟩ | ⟨c, -, -, rfl⟩ := mem_total_instanceMethods.mp hm
  · rw [(begins_matchMethod (members_ne_nil_of_mem_matchResults hr)).1]
    cases r <;> rfl
  · rw [c.locals_testMethod, (c.begins_testMethod ..).2]
    rfl

theorem locals_classMethods (d : AlgebraicType) : ∀ m ∈ d.total.classMethods, m.locals = ["object"] := by
  rw [total_classMethods]
  exact List.forall_mem_map.mpr fun c _ => c.locals_factory d.name

theorem forall_mem_attributes {P : Attribute → Prop} :
    (∀ a ∈ d.attributes, P a) ↔ ∀ c ∈ d.members, ∀ a ∈ c.attributes, P a :=
  List.forall_mem_flatMap

theorem factories_argumentsApart (d : AlgebraicType) :
    (∀ m ∈ d.total.classMethods, m.ArgumentsApart) ↔ ∀ a ∈ d.attributes, a.name ≠ "object" := by
  simp only [total_classMethods, forall_mem_attributes, List.forall_mem_map, Method.ArgumentsApart,
    Case.arguments_factory, Case.locals_factory, List.mem_singleton, Attribute.argument, ne_eq]

theorem instanceMethods_apart : ∀ m ∈ d.total.instanceMethods, m.ArgumentsApart := by
  intro m hm x hx
  rw [locals_instanceMethods d m hm]
  obtain ⟨r, -, rfl⟩ | ⟨c, -, -, rfl⟩ := mem_total_instanceMethods.mp hm
  · rw [arguments_matchMethod] at hx
    obtain ⟨c, -, rfl⟩ := List.mem_map.mp hx
    split
    · exact fun hmem => c.handler_ne_result (List.mem_singleton.mp hmem)
    · exact List.not_mem_nil
  · rw [(c.begins_testMethod ..).2]
    exact List.not_mem_nil

theorem matcher_argumentsApart (d : AlgebraicType) :
    d.matcherMethod.ArgumentsApart ↔ matchSubject d.name ≠ "result" := by
  simp only [Method.ArgumentsApart, arguments_matcherMethod, locals_matcherMethod,
    List.forall_mem_cons, List.forall_mem_map, List.mem_singleton, Case.handlerArgument,
    Case.handler_ne_result, not_false_eq_true, implies_true, and_true, ne_eq]

theorem matcher_parametersApart (d : AlgebraicType) :
    d.matcherMethod.ParametersApart ↔ ∀ a ∈ d.attributes, a.name ≠ "result" := by
  rw [Method.ParametersApart, parameters_matcherMethod, locals_matcherMethod]
  simp only [List.forall_mem_flatMap, forall_mem_attributes, Case.handlerParameters,
    List.forall_mem_map, List.mem_singleton, ne_eq]

theorem matcher_firstApart (d : AlgebraicType) :
    d.matcherMethod.FirstApart ↔ ∀ c ∈ d.members, matchSubject d.name ≠ c.handler := by
  simp only [Method.FirstApart, arguments_matcherMethod, List.head?_cons, Option.mem_some_iff,
    forall_eq', List.tail_cons, List.map_map, List.mem_map, Function.comp_apply,
    Case.handlerArgument, not_exists, not_and]
  exact forall₂_congr fun c _ => ne_comm

/-- Match methods and case tests never capture a name. A factory does if an attribute is called like
its object; the matcher does if the matched object or an attribute is called like its result, or the
matched object like a handler. -/
theorem apart_iff {settings : Settings} {source : String} {files : List File}
    (h : ValueTypes.generate .algebraicType settings source = .ok files) :
    ∃ d main extra cls, AlgebraicType.read source = .ok d ∧ files = main :: extra ∧
      main.classes = [cls] ∧
      ((∀ m ∈ cls.classMethods, m.locals = ["object"]) ∧
        ((∀ m ∈ cls.classMethods, m.ArgumentsApart) ↔ ∀ a ∈ d.attributes, a.name ≠ "object")) ∧
      (∀ m ∈ cls.instanceMethods, m.ArgumentsApart ∧
        m.locals = if m.begins "match" && m.returnType.type.isSome then ["result"] else []) ∧
      ∀ matcher ∈ extra, ∃ forward, matcher.classes.map (·.classMethods) = [[forward]] ∧
        forward.locals = ["result"] ∧
        (forward.ArgumentsApart ↔ matchSubject d.name ≠ "result") ∧
        (forward.ParametersApart ↔ ∀ a ∈ d.attributes, a.name ≠ "result") ∧
        (forward.FirstApart ↔ ∀ c ∈ d.members, matchSubject d.name ≠ c.handler) := by
  obtain ⟨d, hread, hgenerate⟩ := exists_of_generate_source h
  obtain ⟨-, rfl⟩ := (generate_eq_ok rfl).mp hgenerate
  refine ⟨d, _, _, _, hread, rfl, rfl, ⟨locals_classMethods _, factories_argumentsApart _⟩,
    fun m hm => ⟨instanceMethods_apart m hm, locals_instanceMethods _ m hm⟩,
    fun matcher hmatcher => ?_⟩
  obtain rfl := eq_matcherFile_of_mem hmatcher
  exact ⟨_, rfl, rfl, matcher_argumentsApart _, matcher_parametersApart _, matcher_firstApart _⟩

def apart? (source : String) : Option (List (List (List (Bool × Bool × Bool)))) :=
  (ValueTypes.generate .algebraicType {} source).toOption.map fun files => files.map fun file =>
    file.classes.map fun cls => cls.classMethods.map fun m =>
      (decide m.ArgumentsApart, decide m.ParametersApart, decide m.FirstApart)

theorem exists_of_apart? {source : String} {b b' b'' p p' p'' : Bool}
    (h : apart? source = some [[[(b, b', b'')]], [[(p, p', p'')]]]) :
    ∃ main matcher cls factory forward,
      ValueTypes.generate .algebraicType {} source = .ok [main, matcher] ∧ main.classes = [cls] ∧
      cls.classMethods = [factory] ∧ matcher.classes.map (·.classMethods) = [[forward]] ∧
      (factory.ArgumentsApart ↔ b) ∧ (forward.ArgumentsApart ↔ p) ∧ (forward.ParametersApart ↔ p') ∧
      (forward.FirstApart ↔ p'') := by
  obtain ⟨files, hfiles, hview⟩ := Checked.exists_of_map_toOption h
  obtain ⟨main, rest, rfl, hmain, hrest⟩ := List.map_eq_cons_iff.mp hview
  obtain ⟨matcher, rfl, hmatcher⟩ := List.map_eq_singleton_iff.mp hrest
  obtain ⟨cls, hcls, hfactories⟩ := List.map_eq_singleton_iff.mp hmain
  obtain ⟨factory, hfactory, hapart⟩ := List.map_eq_singleton_iff.mp hfactories
  obtain ⟨other, hother, hforwards⟩ := List.map_eq_singleton_iff.mp hmatcher
  obtain ⟨forward, hforward, hapart'⟩ := List.map_eq_singleton_iff.mp hforwards
  cases hapart
  cases hapart'
  exact ⟨main, matcher, cls, factory, forward, hfiles, hcls, hfactory, by simp [hother, hforward],
    by simp, by simp, by simp, by simp⟩

def plainSource : String := "Event includes(RMGenericMatching) \x7b Move \x7b BOOL fast; \x7d \x7d"

theorem apart_iff_plainSource : ∃ d files,
    ValueTypes.generate .algebraicType {} plainSource = .ok files ∧
      AlgebraicType.read plainSource = .ok d ∧ files.length = 2 ∧
      (∀ a ∈ d.attributes, a.name ≠ "object" ∧ a.name ≠ "result") ∧
      matchSubject d.name ≠ "result" ∧ ∀ c ∈ d.members, matchSubject d.name ≠ c.handler := by
  have hview : apart? plainSource = some [[[(true, true, true)]], [[(true, true, true)]]] := by
    decide +kernel
  obtain ⟨main, matcher, cls, factory, forward, hfiles, hcls, hfactory, hforward, hobject, hresult,
    hparameters, hfirst⟩ := exists_of_apart? hview
  obtain ⟨d, main', extra, cls', hread, hmain, hcls', ⟨-, hfactories⟩, -, hmatcher⟩ := apart_iff hfiles
  obtain ⟨rfl, rfl⟩ := List.cons.inj hmain
  obtain rfl : cls = cls' := List.singleton_inj.mp (hcls.symm.trans hcls')
  obtain ⟨forward', hforward', -, harguments, hblocks, hsubject⟩ := hmatcher matcher (by simp)
  obtain rfl : forward = forward' := by simpa using hforward.symm.trans hforward'
  have hobjects := hfactories.mp (by simpa [hfactory] using hobject)
  have hresults := hblocks.mp (hparameters.mpr rfl)
  exact ⟨d, _, hfiles, hread, rfl, fun a ha => ⟨hobjects a ha, hresults a ha⟩,
    harguments.mp (hresult.mpr rfl), hsubject.mp (hfirst.mpr rfl)⟩

theorem not_apart_result :
    (∃ main matcher cls factory forward, ValueTypes.generate .algebraicType {}
        "Result includes(RMGenericMatching) \x7b Box \x7b id object; id result; \x7d \x7d" =
          .ok [main, matcher] ∧ main.classes = [cls] ∧ cls.classMethods = [factory] ∧
        matcher.classes.map (·.classMethods) = [[forward]] ∧ ¬ factory.ArgumentsApart ∧
        ¬ forward.ArgumentsApart ∧ ¬ forward.ParametersApart) ∧
    ∃ main matcher forward, ValueTypes.generate .algebraicType {}
        "BoxMatchHandler includes(RMGenericMatching) \x7b Box \x7d" = .ok [main, matcher] ∧
      matcher.classes.map (·.classMethods) = [[forward]] ∧ ¬ forward.FirstApart := by
  constructor
  · have hview : apart?
        "Result includes(RMGenericMatching) \x7b Box \x7b id object; id result; \x7d \x7d" =
          some [[[(false, true, true)]], [[(false, false, true)]]] := by decide +kernel
    obtain ⟨main, matcher, cls, factory, forward, hfiles, hcls, hfactory, hforward, hobject, hresult,
      hparameters, -⟩ := exists_of_apart? hview
    exact ⟨main, matcher, cls, factory, forward, hfiles, hcls, hfactory, hforward, by simp [hobject],
      by simp [hresult], by simp [hparameters]⟩
  · have hview : apart? "BoxMatchHandler includes(RMGenericMatching) \x7b Box \x7d" =
        some [[[(true, true, true)]], [[(true, true, false)]]] := by decide +kernel
    obtain ⟨main, matcher, cls, factory, forward, hfiles, -, -, hforward, -, -, -, hfirst⟩ :=
      exists_of_apart? hview
    exact ⟨main, matcher, forward, hfiles, hforward, by simp [hfirst]⟩

end AlgebraicType

end ValueTypes
