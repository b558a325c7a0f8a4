import ValueTypes.Proofs.Dependencies
import ValueTypes.Proofs.Feature.ClosedForm
import ValueTypes.Proofs.Model.OfSource

/-! A generated file imports its own header once, in the implementation. Types that mention the declared
type are never a reason to import it again, but a protocol of its name is: protocols are imported from
a header of their name without a look at the declared type. So the own header is imported by itself
exactly if protocols are imported and one of them has the name of the declared type. -/

namespace ValueTypes

open Objc

/-! ### Declarations of either kind -/

def AlgebraicType.outline (d : AlgebraicType) : Declaration Attribute := { d with members := d.attributes }

def Dialect.outline (kind : Dialect) (source : String) : Checked Problem (Declaration Attribute) :=
  match kind with
  | .algebraicType => (AlgebraicType.read source).map AlgebraicType.outline
  | .valueObject => ValueObject.read source

def Dialect.defaultTags : Dialect → List Tag
  | .algebraicType => AlgebraicType.defaultTags
  | .valueObject => ValueObject.defaultTags

/-- No directive of the declaration or of an attribute tells the file of a type. An import directive
is left out even if it tells only a library. -/
def Declaration.NamesNoFile (d : Declaration Attribute) : Prop :=
  (∀ a ∈ d.members, a.directives.contains "import" = false) ∧
    ∀ properties ∈ d.directives.occurrences "type", properties.get? "file" = none

instance (d : Declaration Attribute) : Decidable d.NamesNoFile := inferInstanceAs (Decidable (_ ∧ _))

structure Declaration.IsOutline (d : Declaration Attribute) : Prop where
  members : ∀ a ∈ d.members, ∃ w : Source.Attribute, a = .ofSource w
  typeHints : ∀ hint ∈ d.typeHints, ∃ properties ∈ d.directives.occurrences "type",
    TypeHint.ofProperties properties = .ok hint

theorem Declaration.typeHints_of_ofSource {Written Member : Type}
    {member : Written → Checked Problem Member} {t : Source.Declaration Written}
    {d : Declaration Member} (h : Declaration.ofSource member t = .ok d) :
    ∀ hint ∈ d.typeHints, ∃ properties ∈ d.directives.occurrences "type",
      TypeHint.ofProperties properties = .ok hint := by
  obtain ⟨-, hdirectives, hhints, -⟩ := Declaration.of_ofSource h
  intro hint hmem
  rw [hdirectives]
  exact List.mem_map.mp (Checked.mem_of_all hhints hmem)

theorem Dialect.isOutline {kind : Dialect} {source : String} {d : Declaration Attribute}
    (h : kind.outline source = .ok d) : d.IsOutline := by
  cases kind with
  | algebraicType =>
    cases hread : AlgebraicType.read source with
    | error problems =>
      rw [outline, hread] at h
      cases h
    | ok e =>
      rw [outline, hread] at h
      obtain rfl := Except.ok.inj h
      obtain ⟨t, r, -, hmodel⟩ := exists_of_readWith hread
      have hhints := Declaration.typeHints_of_ofSource hmodel
      refine ⟨fun a ha => ?_, hhints⟩
      rw [AlgebraicType.outline, AlgebraicType.attributes_of_ofSource hmodel] at ha
      obtain ⟨w, -, rfl⟩ := List.mem_map.mp ha
      exact ⟨w, rfl⟩
  | valueObject =>
    obtain ⟨t, r, -, hmodel⟩ := exists_of_readWith h
    refine ⟨fun a ha => ?_, Declaration.typeHints_of_ofSource hmodel⟩
    rw [ValueObject.members_of_ofSource hmodel] at ha
    obtain ⟨w, -, rfl⟩ := List.mem_map.mp ha
    exact ⟨w, rfl⟩

/-! ### Imports of the main file -/

theorem Scope.nodup_imports (scope : Scope) (types : List AttributeType) :
    (scope.dependencies types).imports.Nodup := nodup_appendNew .nil _

theorem Scope.eraseDups_imports (scope : Scope) (types : List AttributeType) :
    (scope.dependencies types).imports.eraseDups = (scope.dependencies types).imports := by
  have hnodup := scope.nodup_imports types
  rw [← List.nil_append (scope.dependencies types).imports] at hnodup
  rw [← appendNew_nil_left, appendNew_of_nodup hnodup, List.nil_append]

theorem AlgebraicType.total_imports (d : AlgebraicType) : d.total.imports = d.dependencies.imports := by
  have hcollected : collected (features.filter (·.takesPart d.includes)) d (·.imports) =
      d.dependencies.imports :=
    flatMap_eq_of_unique (fun f => (f.contribution d).imports) [] rfl
      (by simp [factoryFeature, matchingFeature, caseTestFeature, matcherFeature])
  rw [total, contributions_eq_eraseDups (·.imports) rfl fun _ _ => rfl, hcollected]
  exact Scope.eraseDups_imports _ _

theorem ValueObject.total_imports (d : ValueObject) : d.total.imports = d.dependencies.imports := by
  have hcollected : collected features d (·.imports) = d.dependencies.imports := by
    simp [collected, features, propertiesFeature, initializerFeature]
  rw [total, contributions_eq_eraseDups (·.imports) rfl fun _ _ => rfl, hcollected]
  exact Scope.eraseDups_imports _ _

def Declaration.scopeInForce (d : Declaration Attribute) (kind : Dialect) (settings : Settings) :
    Scope :=
  .ofDeclaration (d.withTagsInForce kind.defaultTags settings)

theorem imports_of_generate {kind : Dialect} {settings : Settings} {source : String}
    {d : Declaration Attribute} {files : List File} (hread : kind.outline source = .ok d)
    (h : generate kind settings source = .ok files) :
    ∃ main extra, files = main :: extra ∧ main.imports =
      ((d.scopeInForce kind settings).dependencies (d.members.map (·.type))).imports := by
  cases kind with
  | algebraicType =>
    cases hmodel : AlgebraicType.read source with
    | error problems =>
      rw [generate, hmodel] at h
      cases h
    | ok e =>
      rw [generate, hmodel] at h
      rw [Dialect.outline, hmodel] at hread
      obtain rfl := Except.ok.inj hread
      obtain ⟨-, rfl⟩ := (AlgebraicType.generate_eq_ok rfl).mp h
      exact ⟨_, _, rfl, AlgebraicType.total_imports _⟩
  | valueObject =>
    rw [Dialect.outline] at hread
    rw [generate, hread] at h
    obtain ⟨-, rfl⟩ := (ValueObject.generate_eq_ok rfl).mp h
    exact ⟨_, _, rfl, ValueObject.total_imports _⟩

/-! ### Headers of the declared name -/

theorem filter_eq_singleton_iff {α : Type} {l : List α} {p : α → Bool} {a : α} (hnodup : l.Nodup)
    (ha : a ∈ l) (hp : p a) : l.filter p = [a] ↔ ∀ x ∈ l, p x → x = a := by
  constructor
  · intro h x hx hpx
    have hmem : x ∈ l.filter p := List.mem_filter.mpr ⟨hx, hpx⟩
    rwa [h, List.mem_singleton] at hmem
  · intro h
    obtain ⟨before, after, rfl⟩ := List.append_of_mem ha
    obtain ⟨-, hafter, hbefore⟩ := List.nodup_append.mp hnodup
    have hnone : ∀ xs : List α, (∀ x ∈ xs, x ≠ a ∧ x ∈ before ++ a :: after) → xs.filter p = [] := by
      intro xs hxs
      rw [List.filter_eq_nil_iff]
      intro x hx hpx
      exact (hxs x hx).1 (h x (hxs x hx).2 hpx)
    have hleft : before.filter p = [] := hnone before fun x hx =>
      ⟨hbefore x hx a List.mem_cons_self, by simp [hx]⟩
    have hright : after.filter p = [] := hnone after fun x hx =>
      ⟨fun hxa => (List.nodup_cons.mp hafter).1 (hxa ▸ hx), by simp [hx]⟩
    rw [List.filter_append, List.filter_cons_of_pos hp, hleft, hright, List.nil_append]

theorem AttributeType.file_of_mentions {library : Option String} {t : Source.TypeExpr}
    {n : AttributeType} (h : (ofSource none library t).Mentions n) : n.file = none := by
  have hsource : ∃ library e, n = ofSource none library e := by
    induction h with
    | refl => exact ⟨library, t, rfl⟩
    | tail hreach hg ih =>
      obtain ⟨library, e, rfl⟩ := ih
      rw [generics_ofSource] at hg
      obtain ⟨g, -, rfl⟩ := List.mem_map.mp hg
      exact ⟨none, g, rfl⟩
  obtain ⟨library, e, rfl⟩ := hsource
  exact file_ofSource

/-- Nothing but its name tells in which file a type is declared. -/
structure Scope.Unlocated (scope : Scope) (types : List AttributeType) : Prop where
  types : ∀ t ∈ types, ∀ n, t.Mentions n → n.file = none
  typeHints : ∀ hint ∈ scope.typeHints, hint.file = none

structure Scope.ImportsOwnProtocol (scope : Scope) (types : List AttributeType) : Prop where
  imported : scope.prefersForward = false
  named : ∃ t ∈ types, ∃ n, t.Mentions n ∧ n.protocol = some scope.typeName

namespace Scope

variable {scope : Scope} {types : List AttributeType}

theorem Unlocated.file_of_hints (h : scope.Unlocated types) {name : String} {hint : Option TypeHint}
    (hhint : scope.Hints name hint) : hint.bind (·.file) = none := by
  cases hhint with
  | none => rfl
  | @first hint before after hsplit =>
    exact h.typeHints hint (by simp [hsplit])

theorem Unlocated.file_foreignHeader (h : scope.Unlocated types) {t n : AttributeType}
    (ht : t ∈ types) (hn : t.Mentions n) {hint : Option TypeHint} (hhint : scope.Hints n.name hint)
    (isPublic : Bool) : (n.foreignHeader scope hint isPublic).file = n.name ++ ".h" := by
  rw [AttributeType.foreignHeader, h.types t ht n hn, h.file_of_hints hhint]
  rfl

theorem Unlocated.eq_own (h : scope.Unlocated types) (hname : ∀ f : Framework, f.name ≠ scope.typeName)
    {i : Import} (hi : scope.Requires types (.header i)) (hfile : i.file = scope.typeName ++ ".h") :
    i = ⟨scope.typeName ++ ".h", none, false⟩ ∨ scope.ImportsOwnProtocol types := by
  have hinj : ∀ {name : String}, name ++ ".h" = scope.typeName ++ ".h" → name = scope.typeName :=
    (String.append_left_inj ".h").mp
  cases hi with
  | foundation =>
    have hfoundation : Framework.foundation.name ++ ".h" = scope.typeName ++ ".h" := hfile
    exact absurd (hinj hfoundation) (hname .foundation)
  | ownHeader => exact .inl rfl
  | @mentioned t n _ ht hn hasks =>
    cases hasks with
    | @protocolHeader p hint hp hforward hhint =>
      rw [h.file_of_hints hhint] at hfile
      obtain rfl := hinj hfile
      exact .inr ⟨hforward, t, ht, n, hn, hp⟩
    | @builtin b hb => exact absurd (hinj hfile) (hname b.framework)
    | privateHeader hforeign hhint | publicHeader hforeign hhint =>
      rw [h.file_foreignHeader ht hn hhint] at hfile
      exact absurd (hinj hfile) hforeign.notOwn

theorem Unlocated.exists_public (h : scope.Unlocated types) (hown : scope.ImportsOwnProtocol types) :
    ∃ i, scope.Requires types (.header i) ∧ i.file = scope.typeName ++ ".h" ∧ i.isPublic = true := by
  obtain ⟨hforward, t, ht, n, hn, hp⟩ := hown
  have hhint : scope.Hints scope.typeName (scope.hint? scope.typeName) := hints_iff.mpr rfl
  refine ⟨_, .mentioned ht hn (.protocolHeader hp hforward hhint), ?_, rfl⟩
  rw [h.file_of_hints hhint]
  rfl

theorem Unlocated.filter_imports (h : scope.Unlocated types)
    (hname : ∀ f : Framework, f.name ≠ scope.typeName) :
    (scope.dependencies types).imports.filter (fun i => i.file = scope.typeName ++ ".h") =
      [⟨scope.typeName ++ ".h", none, false⟩] ↔ ¬ scope.ImportsOwnProtocol types := by
  have hown : ⟨scope.typeName ++ ".h", none, false⟩ ∈ (scope.dependencies types).imports :=
    mem_imports.mpr .ownHeader
  rw [filter_eq_singleton_iff (nodup_imports scope types) hown (by simp)]
  constructor
  · intro honly hprotocol
    obtain ⟨i, hi, hfile, hpublic⟩ := h.exists_public hprotocol
    rw [honly i (mem_imports.mpr hi) (by simpa using hfile)] at hpublic
    cases hpublic
  · intro hprotocol i hi hfile
    exact (h.eq_own hname (mem_imports.mp hi) (by simpa using hfile)).resolve_right hprotocol

end Scope

/-! ### Sources -/

theorem Attribute.file_of_mentions {w : Source.Attribute} {n : AttributeType}
    (himport : w.directives.contains "import" = false)
    (hn : (Attribute.ofSource w).type.Mentions n) : n.file = none := by
  have hlast : w.directives.last? "import" = none := by
    simp_all [Directives.last?, Directives.occurrences, Dict.contains]
  rw [Attribute.ofSource, hlast] at hn
  exact AttributeType.file_of_mentions hn

theorem TypeHint.file_of_ofProperties {properties : Properties} {hint : TypeHint}
    (h : TypeHint.ofProperties properties = .ok hint) : hint.file = properties.get? "file" := by
  unfold TypeHint.ofProperties at h
  split at h
  · cases h
  · rw [← Except.ok.inj h]

theorem Declaration.IsOutline.unlocated {d : Declaration Attribute} (h : d.IsOutline)
    (hfiles : d.NamesNoFile) (kind : Dialect) (settings : Settings) :
    (d.scopeInForce kind settings).Unlocated (d.members.map (·.type)) where
  types := by
    intro t ht n hn
    obtain ⟨a, ha, rfl⟩ := List.mem_map.mp ht
    obtain ⟨w, rfl⟩ := h.members a ha
    exact Attribute.file_of_mentions (hfiles.1 _ ha) hn
  typeHints := by
    intro hint hmem
    obtain ⟨properties, hproperties, hhint⟩ := h.typeHints hint hmem
    rw [TypeHint.file_of_ofProperties hhint]
    exact hfiles.2 properties hproperties

theorem Declaration.not_importsOwnProtocol_iff {d : Declaration Attribute} {kind : Dialect}
    {settings : Settings} :
    ¬ (d.scopeInForce kind settings).ImportsOwnProtocol (d.members.map (·.type)) ↔
      forwardTag ∈ tagsInForce kind.defaultTags settings d.includes d.excludes ∨
        ∀ a ∈ d.members, ∀ n, a.type.Mentions n → n.protocol ≠ some d.name := by
  have hforward : (d.scopeInForce kind settings).prefersForward = true ↔
      forwardTag ∈ tagsInForce kind.defaultTags settings d.includes d.excludes := List.contains_iff_mem
  rw [← hforward]
  constructor
  · intro h
    by_contra hnot
    push Not at hnot
    obtain ⟨hahead, a, ha, n, hn, hp⟩ := hnot
    exact h ⟨by simpa using hahead, a.type, List.mem_map_of_mem ha, n, hn, hp⟩
  · rintro (hahead | hnone) ⟨himported, t, ht, n, hn, hp⟩
    · rw [hahead] at himported
      cases himported
    · obtain ⟨a, ha, rfl⟩ := List.mem_map.mp ht
      exact hnone a ha n hn hp

/-- Where no directive names a file, the own header is imported once and privately exactly if
protocols are declared ahead or none has the declared name. -/
theorem filter_ownHeader_iff {kind : Dialect} {settings : Settings} {source : String}
    {d : Declaration Attribute} {files : List File} (hread : kind.outline source = .ok d)
    (h : generate kind settings source = .ok files) (hfiles : d.NamesNoFile)
    (hname : d.name ≠ "Foundation" ∧ d.name ≠ "CoreGraphics") :
    ∃ main extra, files = main :: extra ∧
      (main.imports.filter (fun i => i.file = d.name ++ ".h") = [⟨d.name ++ ".h", none, false⟩] ↔
        forwardTag ∈ tagsInForce kind.defaultTags settings d.includes d.excludes ∨
          ∀ a ∈ d.members, ∀ n, a.type.Mentions n → n.protocol ≠ some d.name) := by
  obtain ⟨main, extra, hsplit, himports⟩ := imports_of_generate hread h
  have hunlocated := (Dialect.isOutline hread).unlocated hfiles kind settings
  have hframework : ∀ f : Framework, f.name ≠ (d.scopeInForce kind settings).typeName := by
    intro f
    cases f with
    | foundation => exact hname.1.symm
    | coreGraphics => exact hname.2.symm
  refine ⟨main, extra, hsplit, ?_⟩
  rw [himports, ← Declaration.not_importsOwnProtocol_iff]
  exact hunlocated.filter_imports hframework

def nodeSource : String :=
  "%type name=Node library=Kit\nNode includes(UseForwardDeclarations) \x7b Leaf \x7b Node *next;\n" ++
  "NSArray<NSSet<Node *> *> *others; id<Node> end \x7d \x7d"

theorem filter_ownHeader_iff_node : ∃ d main extra,
    Dialect.outline .algebraicType nodeSource = .ok d ∧ d.NamesNoFile ∧ d.name = "Node" ∧
    generate .algebraicType {} nodeSource = .ok (main :: extra) ∧
    main.imports.filter (fun i => i.file = "Node.h") = [⟨"Node.h", none, false⟩] := by
  have houtline : (Dialect.outline .algebraicType nodeSource).toOption.map (fun d =>
      (d.name, decide d.NamesNoFile, decide (forwardTag ∈ tagsInForce
        (Dialect.defaultTags .algebraicType) {} d.includes d.excludes))) =
      some ("Node", true, true) := by decide +kernel
  have hfiles : (generate .algebraicType {} nodeSource).toOption.isSome = true := by decide +kernel
  cases hread : Dialect.outline .algebraicType nodeSource with
  | error problems => simp [hread, Except.toOption] at houtline
  | ok d =>
    cases hgenerate : generate .algebraicType {} nodeSource with
    | error problems => simp [hgenerate, Except.toOption] at hfiles
    | ok files =>
      simp only [hread, Except.toOption, Option.map_some, Option.some.injEq, Prod.mk.injEq,
        decide_eq_true_eq] at houtline
      obtain ⟨hname, hnone, hforward⟩ := houtline
      obtain ⟨main, extra, rfl, hiff⟩ := filter_ownHeader_iff hread hgenerate hnone (by simp [hname])
      have hfilter := hiff.mpr (.inl hforward)
      rw [hname] at hfilter
      exact ⟨d, main, extra, rfl, hnone, hname, rfl, hfilter⟩

def protocolSource : String := "Node \x7b Leaf \x7b id<Node> next; \x7d \x7d"

theorem ownHeader_imported_by_itself : ∃ d main,
    Dialect.outline .algebraicType protocolSource = .ok d ∧ d.NamesNoFile ∧ d.name = "Node" ∧
    generate .algebraicType {} protocolSource = .ok [main] ∧
    main.imports.filter (fun i => i.file = "Node.h") =
      [⟨"Node.h", none, false⟩, ⟨"Node.h", none, true⟩] := by
  have houtline : (Dialect.outline .algebraicType protocolSource).toOption.map (fun d =>
      (d.name, decide d.NamesNoFile)) = some ("Node", true) := by decide +kernel
  have hfiles : (generate .algebraicType {} protocolSource).toOption.map (List.map fun file =>
      file.imports.filter (fun i => i.file = "Node.h")) =
      some [[⟨"Node.h", none, false⟩, ⟨"Node.h", none, true⟩]] := by decide +kernel
  cases hread : Dialect.outline .algebraicType protocolSource with
  | error problems => simp [hread, Except.toOption] at houtline
  | ok d =>
    cases hgenerate : generate .algebraicType {} protocolSource with
    | error problems => simp [hgenerate, Except.toOption] at hfiles
    | ok files =>
      simp only [hread, Except.toOption, Option.map_some, Option.some.injEq, Prod.mk.injEq,
        decide_eq_true_eq] at houtline
      rw [hgenerate] at hfiles
      obtain ⟨main, rfl, himports⟩ := List.map_eq_singleton_iff.mp (Option.some.inj hfiles)
      exact ⟨d, main, rfl, houtline.2, houtline.1, rfl, himports⟩

end ValueTypes
