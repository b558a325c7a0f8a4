import ValueTypes.Proofs.Model.OfSource

/-! Faulty directives. All of them are reported, in the order of the source; where there are none, the
model has one hint for each type directive and one member for each member of the source. -/

namespace ValueTypes

/-! ### Type hints -/

namespace TypeHint

def lacksName (properties : Properties) : Bool := (properties.get? "name").isNone

structure IsOf (properties : Properties) (hint : TypeHint) : Prop where
  name : properties.get? "name" = some hint.name
  library : hint.library = properties.get? "library"
  file : hint.file = properties.get? "file"
  allowsForward : hint.allowsForward = true ↔ properties.get? "canForwardDeclare" ≠ some "false"

theorem faults_ofProperties (properties : Properties) :
    (ofProperties properties).faults =
      if lacksName properties then [.unnamedTypeHint] else [] := by
  unfold ofProperties lacksName
  cases properties.get? "name" with
  | none => rfl
  | some name => rfl

theorem ofProperties_ne_error_nil (properties : Properties) :
    ofProperties properties ≠ .error [] := by
  unfold ofProperties
  split <;> simp

theorem isOf_of_ofProperties {properties : Properties} {hint : TypeHint}
    (h : ofProperties properties = .ok hint) : IsOf properties hint := by
  unfold ofProperties at h
  cases hname : properties.get? "name" with
  | none => simp [hname] at h
  | some name =>
    rw [hname] at h
    obtain rfl := Except.ok.inj h
    exact ⟨hname, rfl, rfl, by simp⟩

end TypeHint

/-! ### Members -/

def Source.Case.lacksType (c : Source.Case) : Bool :=
  c.directives.contains payloadDirective && c.payload.isNone

inductive Case.IsOf (c : Source.Case) : Case → Prop where
  | single {payload : Source.Attribute} (h : c.payload = some payload) :
      IsOf c (.single (.ofSource payload))
  | collection (h : c.payload = none)
      (hdirective : c.directives.contains Source.payloadDirective = false) :
      IsOf c (.collection c.name c.comments (c.attributes.map .ofSource))

theorem Case.faults_ofSource (c : Source.Case) :
    (Case.ofSource c).faults = if c.lacksType then [.untypedPayload] else [] := by
  unfold Case.ofSource Source.Case.lacksType
  cases c.payload with
  | some payload => simp [Checked.faults]
  | none => cases c.directives.contains Source.payloadDirective <;> simp [Checked.faults]

theorem Case.isOf_of_ofSource {c : Source.Case} {m : Case} (h : Case.ofSource c = .ok m) :
    Case.IsOf c m := by
  unfold Case.ofSource at h
  cases hpayload : c.payload with
  | some payload =>
    rw [hpayload] at h
    obtain rfl := Except.ok.inj h
    exact .single hpayload
  | none =>
    simp only [hpayload] at h
    split at h
    · cases h
    · rename_i hdirective
      obtain rfl := Except.ok.inj h
      exact .collection hpayload (by simpa using hdirective)

/-- A case has a payload exactly if its last payload directive gives a type, and that is the type of
the payload. -/
structure Source.Case.PayloadDeclared (c : Source.Case) : Prop where
  isSome_iff : c.payload.isSome = true ↔ c.directives.contains payloadDirective = true ∧
    ∃ last text, c.directives.last? payloadDirective = some last ∧
      last.get? "attributeType" = some text
  type : ∀ payload, c.payload = some payload → ∃ last text,
    c.directives.last? payloadDirective = some last ∧ last.get? "attributeType" = some text ∧
      TypeExpr.parse text = .ok payload.type

theorem Source.Case.Readable.payloadDeclared {c : Source.Case} (h : c.Readable) :
    c.PayloadDeclared := by
  cases h with
  | @payload p name payload hp hdirective hname hpayload =>
    have htype : ∀ text, p.payloadType? = some text ↔ ∃ last,
        p.directives.last? payloadDirective = some last ∧ last.get? "attributeType" = some text :=
      fun text => Option.bind_eq_some_iff
    unfold Preamble.HasPayload at hpayload
    split at hpayload
    · rename_i hnone
      subst hpayload
      have hno : ¬ ∃ last text, p.directives.last? payloadDirective = some last ∧
          last.get? "attributeType" = some text := by
        rintro ⟨last, text, hlast, htext⟩
        have hsome := (htype text).mpr ⟨last, hlast, htext⟩
        rw [hnone] at hsome
        cases hsome
      exact ⟨⟨fun h => by simp at h, fun h => absurd h.2 hno⟩, by simp⟩
    · rename_i text hsome
      obtain ⟨last, hlast, htext⟩ := (htype text).mp hsome
      obtain ⟨type, hparse, rfl⟩ := hpayload
      refine ⟨?_, ?_⟩
      · simpa [hdirective] using ⟨last, hlast, text, htext⟩
      · intro payload hpayload
        obtain rfl := Option.some.inj hpayload
        exact ⟨last, text, hlast, htext, hparse⟩
  | block hp hdirective hname htags hempty hattributes =>
    exact ⟨by simp [hdirective], by simp⟩

/-! ### Declarations -/

variable {Written Member : Type}

structure Declaration.IsOf (memberIsOf : Written → Member → Prop) (t : Source.Declaration Written)
    (d : Declaration Member) : Prop where
  name : d.name = t.name
  comments : d.comments = t.comments
  directives : d.directives = t.directives
  includes : d.includes = t.includes
  excludes : d.excludes = t.excludes
  libraryName : d.libraryName = (t.directives.last? "library").bind (·.get? "name")
  typeHints : List.Forall₂ TypeHint.IsOf (t.directives.occurrences "type") d.typeHints
  members : List.Forall₂ memberIsOf t.members d.members

/-- A declaration is refused exactly for a type directive without a name or a member without a type,
with one message for each of them, and otherwise nothing of it is lost. -/
structure ReportsFaults (ofSource : Source.Declaration Written → Checked Problem (Declaration Member))
    (lacksType : Written → Bool) (memberIsOf : Written → Member → Prop) : Prop where
  fails_iff : ∀ t, (∃ problems, ofSource t = .error problems) ↔
    (∃ p ∈ t.directives.occurrences "type", p.get? "name" = none) ∨ ∃ m ∈ t.members, lacksType m
  messages : ∀ t problems, ofSource t = .error problems → problems.map Problem.message =
    ((t.directives.occurrences "type").filter TypeHint.lacksName).map
      (fun _ => "Invalid type annotation") ++
    (t.members.filter lacksType).map (fun _ => "Invalid singleAttributeSubtype annotation")
  keeps : ∀ t d, ofSource t = .ok d → Declaration.IsOf memberIsOf t d

theorem Declaration.faults_ofSource {member : Written → Checked Problem Member}
    {lacksType : Written → Bool}
    (hmember : ∀ m, (member m).faults = if lacksType m then [.untypedPayload] else [])
    (t : Source.Declaration Written) : (Declaration.ofSource member t).faults =
      ((t.directives.occurrences "type").filter TypeHint.lacksName).map (fun _ => .unnamedTypeHint) ++
        (t.members.filter lacksType).map fun _ => .untypedPayload := by
  have hboth := Checked.faults_both (TypeHint.ofDirectives t.directives) (.all (t.members.map member))
  rw [TypeHint.ofDirectives, Checked.faults_all, Checked.faults_all,
    Checked.flatMap_faults_map TypeHint.faults_ofProperties, Checked.flatMap_faults_map hmember] at hboth
  rw [← hboth]
  unfold Declaration.ofSource TypeHint.ofDirectives
  split
  · rename_i hread
    rw [hread]
    rfl
  · rename_i hread
    rw [hread]
    rfl

theorem Declaration.ofSource_ne_error_nil (member : Written → Checked Problem Member)
    (t : Source.Declaration Written) : Declaration.ofSource member t ≠ .error [] := by
  have hboth : Checked.both (TypeHint.ofDirectives t.directives) (.all (t.members.map member)) ≠
      .error [] :=
    Checked.both_ne_error_nil (Checked.all_ne_error_nil _) (Checked.all_ne_error_nil _)
  unfold Declaration.ofSource
  split
  · rename_i hread
    intro h
    exact hboth (hread.trans (congrArg Except.error (Except.error.inj h)))
  · simp

theorem Declaration.isOf_of_ofSource {member : Written → Checked Problem Member}
    {memberIsOf : Written → Member → Prop} (hfaulty : ∀ m, member m ≠ .error [])
    (hmember : ∀ w m, member w = .ok m → memberIsOf w m) {t : Source.Declaration Written}
    {d : Declaration Member} (h : Declaration.ofSource member t = .ok d) :
    Declaration.IsOf memberIsOf t d := by
  obtain ⟨-, -, hhints, hmembers⟩ := Declaration.of_ofSource h
  have htypeHints := Checked.forall₂_of_all (fun p _ => TypeHint.ofProperties_ne_error_nil p) hhints
  have hall := Checked.forall₂_of_all (fun m _ => hfaulty m) hmembers
  unfold Declaration.ofSource at h
  split at h
  · cases h
  · obtain rfl := Except.ok.inj h
    exact ⟨rfl, rfl, rfl, rfl, rfl, rfl, htypeHints.imp fun _ _ => TypeHint.isOf_of_ofProperties,
      hall.imp fun w m => hmember w m⟩

theorem Declaration.reportsFaults {member : Written → Checked Problem Member}
    {lacksType : Written → Bool} {memberIsOf : Written → Member → Prop}
    (hfaults : ∀ m, (member m).faults = if lacksType m then [.untypedPayload] else [])
    (hfaulty : ∀ m, member m ≠ .error []) (hmember : ∀ w m, member w = .ok m → memberIsOf w m) :
    ReportsFaults (Declaration.ofSource member) lacksType memberIsOf where
  fails_iff t := by
    have hhints : ((t.directives.occurrences "type").filter TypeHint.lacksName).map
        (fun _ => Problem.unnamedTypeHint) ≠ [] ↔
          ∃ p ∈ t.directives.occurrences "type", p.get? "name" = none := by
      simp [TypeHint.lacksName]
    have hmembers : (t.members.filter lacksType).map (fun _ => Problem.untypedPayload) ≠ [] ↔
        ∃ m ∈ t.members, lacksType m := by simp
    rw [Checked.exists_error_iff (Declaration.ofSource_ne_error_nil member t),
      Declaration.faults_ofSource hfaults, ← hhints, ← hmembers, ← not_and_or,
      ← List.append_eq_nil_iff]
  messages t problems h := by
    have hproblems := congrArg Checked.faults h
    rw [Declaration.faults_ofSource hfaults] at hproblems
    have hlist : problems = _ := hproblems.symm
    rw [hlist, List.map_append, List.map_map, List.map_map]
    rfl
  keeps t d h := Declaration.isOf_of_ofSource hfaulty hmember h

/-- Every faulty directive is reported, and of a source without any nothing is lost. Whether a case
has a payload is decided by the grammar and by the model alike, so none with a payload directive
becomes a collection. -/
theorem reportsFaults_ofSource :
    ReportsFaults AlgebraicType.ofSource Source.Case.lacksType Case.IsOf ∧
    (∀ source t, Source.algebraicType.parse source = .ok t → ∀ c ∈ t.members, c.PayloadDeclared ∧
      ∀ m, Case.ofSource c = .ok m → ((∃ a, m = .single a) ↔
        c.directives.contains Source.payloadDirective = true)) ∧
    ReportsFaults ValueObject.ofSource (fun _ => false) (fun w a => a = .ofSource w) := by
  refine ⟨?_, ?_, ?_⟩
  · exact Declaration.reportsFaults Case.faults_ofSource Case.ofSource_ne_error_nil
      fun w m => Case.isOf_of_ofSource
  · intro source t hparse c hc
    obtain ⟨r, hread⟩ := Parser.parse_eq_ok.mp hparse
    have hreadable := Source.declaration_readable (fun _ _ _ => Source.readable_of_caseBlock) hread
    have hdeclared := (hreadable.members c hc).payloadDeclared
    refine ⟨hdeclared, fun m hm => ?_⟩
    cases Case.isOf_of_ofSource hm with
    | single hpayload =>
      have hsome := hdeclared.isSome_iff.mp (by simp [hpayload])
      simp [hsome.1]
    | collection hpayload hdirective => simp [hdirective]
  · exact Declaration.reportsFaults (fun _ => rfl) (by simp)
      fun w a h => (Except.ok.inj h).symm

def faultySource : String :=
  "%type library=A\n%type name=Box\n%type file=B.h\nShape \x7b %singleAttributeSubtype\nsize\n" ++
  "%singleAttributeSubtype\n%singleAttributeSubtype attributeType=\"Box *\"\nbox \x7d"

theorem reportsFaults_faultySource : ∃ t problems,
    Source.algebraicType.parse faultySource = .ok t ∧
    t.members.map (fun c => c.payload.map (·.type.reference)) = [none, some "Box*"] ∧
    (∀ c ∈ t.members, c.PayloadDeclared) ∧ AlgebraicType.ofSource t = .error problems ∧
    problems.map Problem.message = ["Invalid type annotation", "Invalid type annotation",
      "Invalid singleAttributeSubtype annotation"] := by
  have hview : (Source.algebraicType.parse faultySource).toOption.map (fun t =>
      (t.members.map (fun c => c.payload.map (·.type.reference)),
        ((t.directives.occurrences "type").filter TypeHint.lacksName).length,
        (t.members.filter Source.Case.lacksType).length)) = some ([none, some "Box*"], 2, 1) := by
    decide +kernel
  obtain ⟨hreports, hdeclared, -⟩ := reportsFaults_ofSource
  obtain ⟨t, ht, hparts⟩ := Parser.exists_of_map_toOption hview
  simp only [Prod.mk.injEq] at hparts
  obtain ⟨hpayloads, hhints, hmembers⟩ := hparts
  have huntyped : ∃ c ∈ t.members, c.lacksType := by
    obtain ⟨c, hc⟩ := List.exists_mem_of_length_pos (hmembers ▸ Nat.one_pos)
    exact ⟨c, List.mem_filter.mp hc⟩
  obtain ⟨problems, hproblems⟩ := (hreports.fails_iff t).mpr (.inr huntyped)
  have hmessages := hreports.messages t problems hproblems
  rw [List.map_const', List.map_const', hhints, hmembers] at hmessages
  exact ⟨t, problems, ht, hpayloads, fun c hc => (hdeclared _ t ht c hc).1, hproblems, hmessages⟩

/-! ### Results one after the other -/

/-- Unless a result fails without a fault, taking all results together is taking them side by side
one after the other. No type directive and no case fails without a fault. -/
theorem all_iteratesBoth :
    (∀ {ε α : Type} (results : List (Checked ε α)), .error [] ∉ results →
      Checked.IteratesBoth results) ∧
    (∀ ds : Directives, .error [] ∉ (ds.occurrences "type").map TypeHint.ofProperties) ∧
    ∀ cases : List Source.Case, .error [] ∉ cases.map Case.ofSource := by
  refine ⟨fun results hfaulty => ?_, fun ds hmem => ?_, fun cases hmem => ?_⟩
  · refine ⟨Checked.all_eq_foldr hfaulty, ?_, fun as => Checked.all_eq_ok hfaulty,
      fun es => Checked.all_eq_error hfaulty, fun xs ys _ => Checked.all_append xs ys⟩
    rintro r rs rfl
    exact Checked.all_cons hfaulty
  · obtain ⟨properties, -, hfails⟩ := List.mem_map.mp hmem
    exact TypeHint.ofProperties_ne_error_nil properties hfails
  · obtain ⟨c, -, hfails⟩ := List.mem_map.mp hmem
    exact Case.ofSource_ne_error_nil c hfails

def mixedResults : List (Checked String Nat) :=
  [.error ["first"], .ok 1, .error ["second", "third"], .ok 2]

theorem all_iteratesBoth_mixedResults :
    .error [] ∉ mixedResults ∧ Checked.IteratesBoth mixedResults ∧
    Checked.all mixedResults = .error ["first", "second", "third"] ∧
    Checked.all (mixedResults.take 2) = .error ["first"] ∧
    Checked.all (mixedResults.drop 3) = .ok [2] := by
  have hfaulty : .error [] ∉ mixedResults := by simp [mixedResults]
  exact ⟨hfaulty, all_iteratesBoth.1 mixedResults hfaulty, rfl, rfl, rfl⟩

end ValueTypes
