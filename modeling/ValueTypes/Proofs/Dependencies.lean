import Mathlib.Logic.Relation
import ValueTypes.Dependencies
import ValueTypes.Proofs.Distinct

/-! What a file depends on, as rules. A type that is mentioned at any depth asks for headers and
forward declarations by its protocol and by its name; with what every file needs, that is all that is
imported or declared ahead. Further types only add to that, behind what was there. -/

namespace ValueTypes

open Objc

/-! ### Rules -/

inductive Scope.Hints (scope : Scope) (name : String) : Option TypeHint → Prop where
  | none (h : ∀ hint ∈ scope.typeHints, hint.name ≠ name) : Hints scope name none
  | first {hint : TypeHint} {before after : List TypeHint}
      (h : scope.typeHints = before ++ hint :: after) (hname : hint.name = name)
      (hbefore : ∀ other ∈ before, other.name ≠ name) : Hints scope name (some hint)

def firstGiven {α : Type} : List (Option α) → Option α
  | [] => none
  | some a :: _ => some a
  | none :: places => firstGiven places

namespace AttributeType

def Mentions : AttributeType → AttributeType → Prop :=
  Relation.ReflTransGen fun t g => g ∈ t.generics

structure IsForeign (scope : Scope) (n : AttributeType) : Prop where
  notBuiltin : builtin? n.name = none
  notOwn : n.name ≠ scope.typeName

/-- An object is declared ahead on request, unless its hint forbids it. -/
structure GoesAhead (scope : Scope) (n : AttributeType) (hint : Option TypeHint) : Prop where
  requested : scope.prefersForward = true
  isObject : n.isObject = true
  allowed : ∀ h ∈ hint, h.allowsForward = true

def foreignHeader (scope : Scope) (n : AttributeType) (hint : Option TypeHint) (isPublic : Bool) :
    Import where
  file := (firstGiven [n.file, hint.bind (·.file)]).getD (n.name ++ ".h")
  library := firstGiven [n.library, hint.bind (·.library), scope.libraryName]
  isPublic := isPublic

/-- What a type asks for by itself, without its generic arguments. -/
inductive AsksFor (scope : Scope) (n : AttributeType) : Need → Prop where
  | protocolAhead {p : String} (hp : n.protocol = some p) (hforward : scope.prefersForward = true) :
      AsksFor scope n (.forward (.protocolNamed p))
  | protocolHeader {p : String} {hint : Option TypeHint} (hp : n.protocol = some p)
      (hforward : scope.prefersForward = false) (hhint : scope.Hints p hint) :
      AsksFor scope n (.header
        { file := (hint.bind (·.file)).getD (p ++ ".h")
          library := firstGiven [hint.bind (·.library), scope.libraryName]
          isPublic := true })
  | builtin {b : Builtin} (hb : builtin? n.name = some b) :
      AsksFor scope n (.header b.framework.umbrella)
  | own (hb : builtin? n.name = none) (hname : n.name = scope.typeName) :
      AsksFor scope n (.forward (.classNamed scope.typeName))
  | classAhead {hint : Option TypeHint} (hforeign : n.IsForeign scope)
      (hhint : scope.Hints n.name hint) (hahead : n.GoesAhead scope hint) :
      AsksFor scope n (.forward (.classNamed n.name))
  | privateHeader {hint : Option TypeHint} (hforeign : n.IsForeign scope)
      (hhint : scope.Hints n.name hint) (hahead : n.GoesAhead scope hint) :
      AsksFor scope n (.header (n.foreignHeader scope hint false))
  | publicHeader {hint : Option TypeHint} (hforeign : n.IsForeign scope)
      (hhint : scope.Hints n.name hint) (hahead : ¬ n.GoesAhead scope hint) :
      AsksFor scope n (.header (n.foreignHeader scope hint true))

end AttributeType

/-- What a file with these types needs. -/
inductive Scope.Requires (scope : Scope) (types : List AttributeType) : Need → Prop where
  | foundation : Requires scope types (.header ⟨"Foundation.h", some "Foundation", true⟩)
  | ownHeader : Requires scope types (.header ⟨scope.typeName ++ ".h", none, false⟩)
  | hinted {hint : TypeHint} (h : hint ∈ scope.typeHints) (hname : hint.name = scope.typeName) :
      Requires scope types (.forward (.classNamed scope.typeName))
  | mentioned {t n : AttributeType} {need : Need} (ht : t ∈ types) (hn : t.Mentions n)
      (h : n.AsksFor scope need) : Requires scope types need

/-! ### Needs of one type -/

theorem Scope.hints_iff {scope : Scope} {name : String} {hint : Option TypeHint} :
    scope.Hints name hint ↔ scope.hint? name = hint := by
  unfold Scope.hint?
  constructor
  · intro h
    cases h with
    | none h => simpa using h
    | first h hname hbefore =>
      rw [List.find?_eq_some_iff_append]
      exact ⟨by simpa using hname, _, _, h, by simpa using hbefore⟩
  · rintro rfl
    cases hfind : scope.typeHints.find? (·.name == name) with
    | none => exact .none (by simpa using hfind)
    | some hint =>
      obtain ⟨hname, before, after, hsplit, hbefore⟩ := List.find?_eq_some_iff_append.mp hfind
      exact .first hsplit (by simpa using hname) (by simpa using hbefore)

namespace AttributeType

variable {scope : Scope} {t n : AttributeType} {x : Need}

def localNeeds (scope : Scope) (n : AttributeType) : List Need :=
  (n.protocol.map scope.protocolNeed).toList ++ n.nameNeeds scope

theorem firstGiven_cons {α : Type} (o : Option α) (places : List (Option α)) :
    firstGiven (o :: places) = (o <|> firstGiven places) := by
  cases o <;> rfl

theorem header_eq_foreignHeader (isPublic : Bool) :
    n.header scope isPublic = n.foreignHeader scope (scope.hint? n.name) isPublic := by
  simp [header, foreignHeader, firstGiven_cons, firstGiven]

theorem isDeclaredAhead_iff :
    n.isDeclaredAhead scope = true ↔ n.GoesAhead scope (scope.hint? n.name) := by
  have hallowed : ((scope.hint? n.name).map (·.allowsForward)).getD true = true ↔
      ∀ h ∈ scope.hint? n.name, h.allowsForward = true := by
    cases scope.hint? n.name <;> simp
  rw [isDeclaredAhead, Bool.and_eq_true, Bool.and_eq_true, hallowed]
  exact ⟨fun ⟨⟨hrequested, hallow⟩, hobject⟩ => ⟨hrequested, hobject, hallow⟩,
    fun h => ⟨⟨h.requested, h.allowed⟩, h.isObject⟩⟩

theorem nameNeeds_of_builtin {b : Builtin} (hb : builtin? n.name = some b) :
    n.nameNeeds scope = [.header b.framework.umbrella] := by
  simp [nameNeeds, builtinHeader?, hb]

theorem nameNeeds_of_own (hb : builtin? n.name = none) (hname : n.name = scope.typeName) :
    n.nameNeeds scope = [.forward (.classNamed scope.typeName)] := by
  rw [nameNeeds, builtinHeader?, hb, Option.map_none, if_pos hname, hname]

theorem nameNeeds_of_ahead (hforeign : n.IsForeign scope)
    (hahead : n.GoesAhead scope (scope.hint? n.name)) :
    n.nameNeeds scope = [.forward (.classNamed n.name),
      .header (n.foreignHeader scope (scope.hint? n.name) false)] := by
  simp [nameNeeds, builtinHeader?, hforeign.notBuiltin, hforeign.notOwn, header_eq_foreignHeader,
    isDeclaredAhead_iff.mpr hahead]

theorem nameNeeds_of_not_ahead (hforeign : n.IsForeign scope)
    (hahead : ¬ n.GoesAhead scope (scope.hint? n.name)) :
    n.nameNeeds scope = [.header (n.foreignHeader scope (scope.hint? n.name) true)] := by
  simp [nameNeeds, builtinHeader?, hforeign.notBuiltin, hforeign.notOwn, header_eq_foreignHeader,
    mt isDeclaredAhead_iff.mp hahead]

theorem asksFor_of_mem_nameNeeds (hx : x ∈ n.nameNeeds scope) : n.AsksFor scope x := by
  have hhint : scope.Hints n.name (scope.hint? n.name) := Scope.hints_iff.mpr rfl
  cases hb : builtin? n.name with
  | some b =>
    rw [nameNeeds_of_builtin hb, List.mem_singleton] at hx
    exact hx ▸ .builtin hb
  | none =>
    by_cases hname : n.name = scope.typeName
    · rw [nameNeeds_of_own hb hname, List.mem_singleton] at hx
      exact hx ▸ .own hb hname
    · have hforeign : n.IsForeign scope := ⟨hb, hname⟩
      by_cases hahead : n.GoesAhead scope (scope.hint? n.name)
      · rw [nameNeeds_of_ahead hforeign hahead, List.mem_cons, List.mem_singleton] at hx
        rcases hx with rfl | rfl
        · exact .classAhead hforeign hhint hahead
        · exact .privateHeader hforeign hhint hahead
      · rw [nameNeeds_of_not_ahead hforeign hahead, List.mem_singleton] at hx
        exact hx ▸ .publicHeader hforeign hhint hahead

theorem asksFor_protocolNeed {p : String} (hp : n.protocol = some p) :
    n.AsksFor scope (scope.protocolNeed p) := by
  unfold Scope.protocolNeed
  cases hforward : scope.prefersForward with
  | true => exact .protocolAhead hp hforward
  | false =>
    have h := AsksFor.protocolHeader hp hforward (Scope.hints_iff.mpr rfl)
    simpa [firstGiven_cons, firstGiven] using h

theorem mem_localNeeds : x ∈ n.localNeeds scope ↔ n.AsksFor scope x := by
  unfold localNeeds
  rw [List.mem_append, Option.mem_toList, Option.map_eq_some_iff]
  constructor
  · rintro (⟨p, hp, rfl⟩ | hx)
    · exact asksFor_protocolNeed hp
    · exact asksFor_of_mem_nameNeeds hx
  · intro h
    cases h with
    | @protocolAhead p hp hforward =>
      exact .inl ⟨p, hp, by rw [Scope.protocolNeed, if_pos hforward]⟩
    | @protocolHeader p hint hp hforward hhint =>
      obtain rfl := Scope.hints_iff.mp hhint
      exact .inl ⟨p, hp, by simp [Scope.protocolNeed, hforward, firstGiven_cons, firstGiven]⟩
    | builtin hb => exact .inr (by simp [nameNeeds_of_builtin hb])
    | own hb hname => exact .inr (by simp [nameNeeds_of_own hb hname])
    | classAhead hforeign hhint hahead =>
      obtain rfl := Scope.hints_iff.mp hhint
      exact .inr (by simp [nameNeeds_of_ahead hforeign hahead])
    | privateHeader hforeign hhint hahead =>
      obtain rfl := Scope.hints_iff.mp hhint
      exact .inr (by simp [nameNeeds_of_ahead hforeign hahead])
    | publicHeader hforeign hhint hahead =>
      obtain rfl := Scope.hints_iff.mp hhint
      exact .inr (by simp [nameNeeds_of_not_ahead hforeign hahead])

/-! ### Needs at any depth -/

theorem induct_generics {P : AttributeType → Prop} (h : ∀ t, (∀ g ∈ t.generics, P g) → P t)
    (t : AttributeType) : P t :=
  h t fun g _ => induct_generics h g
termination_by sizeOf t
decreasing_by
  cases t
  rename_i hg
  have := List.sizeOf_lt_of_mem hg
  simp only [mk.sizeOf_spec] at *
  omega

theorem listNeeds_eq_flatMap (ts : List AttributeType) :
    listNeeds scope ts = ts.flatMap (needs scope) := by
  induction ts with
  | nil => rw [listNeeds, List.flatMap_nil]
  | cons t ts ih => rw [listNeeds, ih, List.flatMap_cons]

theorem mem_needs_iff_local : x ∈ needs scope t ↔
    x ∈ t.localNeeds scope ∨ ∃ g ∈ t.generics, x ∈ needs scope g := by
  cases t with
  | mk =>
    rw [needs, listNeeds_eq_flatMap, localNeeds]
    simp only [List.mem_append, List.mem_flatMap]
    exact or_right_comm

theorem mem_needs : x ∈ needs scope t ↔ ∃ n, t.Mentions n ∧ n.AsksFor scope x := by
  induction t using induct_generics with
  | h t ih =>
    rw [mem_needs_iff_local, mem_localNeeds]
    constructor
    · rintro (h | ⟨g, hg, hx⟩)
      · exact ⟨t, .refl, h⟩
      · obtain ⟨n, hn, h⟩ := (ih g hg).mp hx
        exact ⟨n, hn.head hg, h⟩
    · rintro ⟨n, hn, h⟩
      rcases hn.cases_head with rfl | ⟨g, hg, hgn⟩
      · exact .inl h
      · exact .inr ⟨g, hg, (ih g hg).mpr ⟨n, hgn, h⟩⟩

end AttributeType

/-! ### The whole file -/

namespace Need

variable {needs : List Need}

theorem mem_headers {i : Import} : i ∈ needs.filterMap header? ↔ .header i ∈ needs := by
  have hheader : ∀ x : Need, x.header? = some i ↔ x = .header i := by
    intro x
    cases x <;> simp [header?]
  simp [hheader]

theorem mem_forwards {f : ForwardDeclaration} : f ∈ needs.filterMap forward? ↔ .forward f ∈ needs := by
  have hforward : ∀ x : Need, x.forward? = some f ↔ x = .forward f := by
    intro x
    cases x <;> simp [forward?]
  simp [hforward]

end Need

namespace Dependencies

variable {needs more : List Need}

theorem mem_imports {i : Import} : i ∈ (ofNeeds needs).imports ↔ .header i ∈ needs := by
  simp [ofNeeds, ← Need.mem_headers]

theorem mem_forwardDeclarations {f : ForwardDeclaration} :
    f ∈ (ofNeeds needs).forwardDeclarations ↔ .forward f ∈ needs := by
  simp [ofNeeds, ← Need.mem_forwards]

theorem ofNeeds_append (needs more : List Need) : ofNeeds (needs ++ more) =
    { imports := appendNew (ofNeeds needs).imports (more.filterMap Need.header?)
      forwardDeclarations :=
        appendNew (ofNeeds needs).forwardDeclarations (more.filterMap Need.forward?) } := by
  simp only [ofNeeds, List.filterMap_append, appendNew_append]

theorem ofNeeds_append_of_subset (h : ∀ x ∈ more, x ∈ needs) :
    ofNeeds (needs ++ more) = ofNeeds needs := by
  rw [ofNeeds_append, appendNew_of_subset, appendNew_of_subset]
  · intro f hf
    exact mem_forwardDeclarations.mpr (h _ (Need.mem_forwards.mp hf))
  · intro i hi
    exact mem_imports.mpr (h _ (Need.mem_headers.mp hi))

theorem ofNeeds_perm (h : needs.Perm more) :
    (ofNeeds needs).imports.Perm (ofNeeds more).imports ∧
      (ofNeeds needs).forwardDeclarations.Perm (ofNeeds more).forwardDeclarations :=
  ⟨appendNew_perm (h.filterMap _), appendNew_perm (h.filterMap _)⟩

end Dependencies

namespace Scope

variable {scope : Scope} {types : List AttributeType}

theorem mem_ownNeeds {x : Need} : x ∈ scope.ownNeeds ↔
    x = .header Framework.foundation.umbrella ∨ x = .header ⟨scope.typeName ++ ".h", none, false⟩ ∨
      (x = .forward (.classNamed scope.typeName) ∧
        ∃ hint ∈ scope.typeHints, hint.name = scope.typeName) := by
  have hhint : (scope.hint? scope.typeName).isSome ↔
      ∃ hint ∈ scope.typeHints, hint.name = scope.typeName := by
    simp [hint?]
  rw [← hhint, ownNeeds]
  split
  · rename_i hsome
    simp [hsome]
  · rename_i hnone
    simp [hnone]

theorem mem_needs_iff_requires {x : Need} :
    x ∈ scope.ownNeeds ++ AttributeType.listNeeds scope types ↔ scope.Requires types x := by
  rw [List.mem_append, mem_ownNeeds, AttributeType.listNeeds_eq_flatMap, List.mem_flatMap]
  constructor
  · rintro ((rfl | rfl | ⟨rfl, hint, h, hname⟩) | ⟨t, ht, hx⟩)
    · exact .foundation
    · exact .ownHeader
    · exact .hinted h hname
    · obtain ⟨n, hn, h⟩ := AttributeType.mem_needs.mp hx
      exact .mentioned ht hn h
  · intro h
    cases h with
    | foundation => exact .inl (.inl rfl)
    | ownHeader => exact .inl (.inr (.inl rfl))
    | hinted h hname => exact .inl (.inr (.inr ⟨rfl, _, h, hname⟩))
    | mentioned ht hn h => exact .inr ⟨_, ht, AttributeType.mem_needs.mpr ⟨_, hn, h⟩⟩

theorem mem_imports {i : Import} :
    i ∈ (scope.dependencies types).imports ↔ scope.Requires types (.header i) := by
  rw [dependencies, Dependencies.mem_imports, mem_needs_iff_requires]

theorem mem_forwardDeclarations {f : ForwardDeclaration} :
    f ∈ (scope.dependencies types).forwardDeclarations ↔ scope.Requires types (.forward f) := by
  rw [dependencies, Dependencies.mem_forwardDeclarations, mem_needs_iff_requires]

/-- A file imports and declares ahead exactly what the rules ask for. -/
theorem mem_dependencies_iff_requires (scope : Scope) (types : List AttributeType) :
    (∀ i, i ∈ (scope.dependencies types).imports ↔ scope.Requires types (.header i)) ∧
    (∀ f, f ∈ (scope.dependencies types).forwardDeclarations ↔
      scope.Requires types (.forward f)) := by
  constructor
  · intro i
    exact mem_imports
  · intro f
    exact mem_forwardDeclarations

/-! ### Further types -/

structure Continues {α : Type} (asked : α → Prop) (before after : List α) : Prop where
  begins : before <+: after
  mem_iff : ∀ a, a ∈ after ↔ a ∈ before ∨ asked a

variable {ts us : List AttributeType}

theorem requires_append {x : Need} :
    scope.Requires (ts ++ us) x ↔ scope.Requires ts x ∨ scope.Requires us x := by
  simp only [← mem_needs_iff_requires, AttributeType.listNeeds_eq_flatMap, List.flatMap_append,
    List.mem_append]
  tauto

theorem dependencies_append (ts us : List AttributeType) : scope.dependencies (ts ++ us) =
    .ofNeeds (scope.ownNeeds ++ AttributeType.listNeeds scope ts ++
      AttributeType.listNeeds scope us) := by
  simp only [dependencies, AttributeType.listNeeds_eq_flatMap, List.flatMap_append, List.append_assoc]

theorem continues_imports (ts us : List AttributeType) :
    Continues (fun i => scope.Requires us (.header i)) (scope.dependencies ts).imports
      (scope.dependencies (ts ++ us)).imports where
  begins := by
    rw [dependencies_append, Dependencies.ofNeeds_append]
    exact isPrefix_appendNew _ _
  mem_iff i := by simp only [mem_imports, requires_append]

theorem continues_forwardDeclarations (ts us : List AttributeType) :
    Continues (fun f => scope.Requires us (.forward f)) (scope.dependencies ts).forwardDeclarations
      (scope.dependencies (ts ++ us)).forwardDeclarations where
  begins := by
    rw [dependencies_append, Dependencies.ofNeeds_append]
    exact isPrefix_appendNew _ _
  mem_iff f := by simp only [mem_forwardDeclarations, requires_append]

theorem mem_listNeeds_of_mentioned (h : ∀ u ∈ us, ∀ n, u.Mentions n → ∃ t ∈ ts, t.Mentions n)
    {x : Need} (hx : x ∈ AttributeType.listNeeds scope us) :
    x ∈ AttributeType.listNeeds scope ts := by
  rw [AttributeType.listNeeds_eq_flatMap] at hx ⊢
  obtain ⟨u, hu, hxu⟩ := List.mem_flatMap.mp hx
  obtain ⟨n, hn, hasks⟩ := AttributeType.mem_needs.mp hxu
  obtain ⟨t, ht, htn⟩ := h u hu n hn
  exact List.mem_flatMap.mpr ⟨t, ht, AttributeType.mem_needs.mpr ⟨n, htn, hasks⟩⟩

/-- Further types add what they ask for behind what is there, and nothing if they are mentioned
already. The order of the types decides on nothing but the order of what they need. -/
theorem dependencies_stable (scope : Scope) (ts us : List AttributeType) :
    (Continues (fun i => scope.Requires us (.header i)) (scope.dependencies ts).imports
        (scope.dependencies (ts ++ us)).imports ∧
      Continues (fun f => scope.Requires us (.forward f)) (scope.dependencies ts).forwardDeclarations
        (scope.dependencies (ts ++ us)).forwardDeclarations) ∧
    ((∀ u ∈ us, ∀ n, u.Mentions n → ∃ t ∈ ts, t.Mentions n) →
      scope.dependencies (ts ++ us) = scope.dependencies ts) ∧
    (∀ ts' : List AttributeType, ts'.Perm ts →
      (scope.dependencies ts').imports.Perm (scope.dependencies ts).imports ∧
      (scope.dependencies ts').forwardDeclarations.Perm
        (scope.dependencies ts).forwardDeclarations) := by
  refine ⟨⟨continues_imports ts us, continues_forwardDeclarations ts us⟩, fun hmentioned => ?_,
    fun ts' hperm => ?_⟩
  · have hneeds : ∀ x ∈ AttributeType.listNeeds scope us,
        x ∈ scope.ownNeeds ++ AttributeType.listNeeds scope ts := fun x hx =>
      List.mem_append_right _ (mem_listNeeds_of_mentioned hmentioned hx)
    rw [dependencies_append, Dependencies.ofNeeds_append_of_subset hneeds, dependencies]
  · simp only [dependencies, AttributeType.listNeeds_eq_flatMap]
    exact Dependencies.ofNeeds_perm ((hperm.flatMap_right _).append_left _)

def imageType : AttributeType := ⟨"Image", "Image*", none, none, none, none, []⟩

def imageSetType : AttributeType :=
  ⟨"NSSet", "NSSet<Image*>*", none, none, none, none, [imageType]⟩

def albumTypes : List AttributeType :=
  [⟨"NSArray", "NSArray<NSSet<Image*>*>*", none, none, none, none, [imageSetType]⟩,
    ⟨"id", "id<Cover>", none, none, none, some "Cover", []⟩]

def albumScope : Scope := ⟨"Album", some "Kit", [⟨"Image", none, some "Images.h", true⟩], true⟩

theorem dependencies_stable_album :
    (∀ u ∈ [imageType, imageSetType], ∀ n, u.Mentions n → ∃ t ∈ albumTypes, t.Mentions n) ∧
    albumScope.dependencies (albumTypes ++ [imageType, imageSetType]) =
      albumScope.dependencies albumTypes ∧
    (albumScope.dependencies albumTypes).imports = [⟨"Foundation.h", some "Foundation", true⟩,
      ⟨"Album.h", none, false⟩, ⟨"Images.h", some "Kit", false⟩] ∧
    (albumScope.dependencies albumTypes).forwardDeclarations =
      [.classNamed "Image", .protocolNamed "Cover"] ∧
    (albumScope.dependencies albumTypes.reverse).forwardDeclarations =
      [.protocolNamed "Cover", .classNamed "Image"] ∧
    (albumScope.dependencies albumTypes.reverse).forwardDeclarations.Perm
      (albumScope.dependencies albumTypes).forwardDeclarations := by
  have hmentioned : ∀ u ∈ [imageType, imageSetType], ∀ n, u.Mentions n →
      ∃ t ∈ albumTypes, t.Mentions n := by
    intro u hu n hn
    refine ⟨_, List.mem_cons_self, ?_⟩
    rcases List.mem_pair.mp hu with rfl | rfl
    · exact .head (b := imageSetType) List.mem_cons_self (.head (b := imageType) List.mem_cons_self hn)
    · exact .head (b := imageSetType) List.mem_cons_self hn
  obtain ⟨-, habsorbs, hperm⟩ := dependencies_stable albumScope albumTypes [imageType, imageSetType]
  exact ⟨hmentioned, habsorbs hmentioned, by decide +kernel, by decide +kernel, by decide +kernel,
    (hperm _ albumTypes.reverse_perm).2⟩

end Scope
end ValueTypes
