import ValueTypes.Model.OfSource
import ValueTypes.Proofs.Checked
import ValueTypes.Proofs.Source.RoundTrip

/-! The model of a source: its members come from the members that were read. -/

namespace ValueTypes

variable {ε α β : Type}

theorem Checked.exists_of_map_toOption {x : Checked ε α} {f : α → β} {b : β}
    (h : x.toOption.map f = some b) : ∃ a, x = .ok a ∧ f a = b :=
  Parser.exists_of_map_toOption h

variable {Written Member : Type}

theorem Declaration.of_ofSource {member : Written → Checked Problem Member}
    {t : Source.Declaration Written} {d : Declaration Member}
    (h : Declaration.ofSource member t = .ok d) : d.name = t.name ∧ d.directives = t.directives ∧
      TypeHint.ofDirectives t.directives = .ok d.typeHints ∧
      Checked.all (t.members.map member) = .ok d.members := by
  unfold Declaration.ofSource at h
  cases hboth : Checked.both (TypeHint.ofDirectives t.directives) (.all (t.members.map member)) with
  | error problems =>
    rw [hboth] at h
    cases h
  | ok parts =>
    rw [hboth] at h
    obtain rfl := Except.ok.inj h
    exact ⟨rfl, rfl, Checked.of_both hboth⟩

theorem Declaration.exists_of_mem_members {member : Written → Checked Problem Member}
    {t : Source.Declaration Written} {d : Declaration Member} {m : Member}
    (h : Declaration.ofSource member t = .ok d) (hm : m ∈ d.members) :
    ∃ w ∈ t.members, member w = .ok m :=
  List.mem_map.mp (Checked.mem_of_all (Declaration.of_ofSource h).2.2.2 hm)

theorem exists_of_readWith {parser : Parser (Source.Declaration Written)}
    {ofSource : Source.Declaration Written → Checked Problem (Declaration Member)} {source : String}
    {d : Declaration Member} (h : readWith parser ofSource source = .ok d) :
    ∃ t r, parser source.toList = .done t r ∧ ofSource t = .ok d := by
  unfold readWith at h
  cases hparse : parser.parse source with
  | error e =>
    rw [hparse] at h
    cases h
  | ok t =>
    rw [hparse] at h
    obtain ⟨r, hread⟩ := Parser.parse_eq_ok.mp hparse
    exact ⟨t, r, hread, h⟩

/-! ### Types -/

namespace AttributeType

variable {file library : Option String} {t : Source.TypeExpr}

theorem ofSources_eq_map (ts : List Source.TypeExpr) : ofSources ts = ts.map (ofSource none none) := by
  induction ts with
  | nil => rw [ofSources, List.map_nil]
  | cons t ts ih => rw [ofSources, ih, List.map_cons]

theorem generics_ofSource : (ofSource file library t).generics = t.generics.map (ofSource none none) := by
  cases t with
  | mk => rw [ofSource, ofSources_eq_map]

theorem file_ofSource : (ofSource file library t).file = file := by
  cases t with
  | mk => rw [ofSource]

theorem library_ofSource : (ofSource file library t).library = library := by
  cases t with
  | mk => rw [ofSource]

end AttributeType

/-! ### Attributes -/

def Source.Case.written (c : Source.Case) : List Source.Attribute :=
  match c.payload with
  | some payload => [payload]
  | none => c.attributes

theorem Case.attributes_of_ofSource {c : Source.Case} {m : Case} (h : Case.ofSource c = .ok m) :
    m.attributes = c.written.map .ofSource := by
  unfold Case.ofSource at h
  unfold Source.Case.written
  cases hpayload : c.payload with
  | some payload =>
    rw [hpayload] at h
    rw [← Except.ok.inj h]
    rfl
  | none =>
    simp only [hpayload] at h
    split at h
    · cases h
    · rw [← Except.ok.inj h]
      rfl

theorem Case.name_of_ofSource {c : Source.Case} {name : String} {comments : List String}
    {as : List Attribute} (h : Case.ofSource c = .ok (.collection name comments as)) :
    c.name = name := by
  unfold Case.ofSource at h
  split at h
  · cases h
  · split at h
    · cases h
    · cases h
      rfl

theorem Case.ofSource_ne_error_nil (c : Source.Case) : Case.ofSource c ≠ .error [] := by
  unfold Case.ofSource
  split
  · simp
  · split <;> simp

theorem AlgebraicType.attributes_of_ofSource {t : Source.Declaration Source.Case}
    {d : AlgebraicType} (h : AlgebraicType.ofSource t = .ok d) :
    d.attributes = (t.members.flatMap Source.Case.written).map .ofSource := by
  have hcases : ∀ (cs : List Source.Case) (ms : List Case), cs.map Case.ofSource = ms.map .ok →
      ms.flatMap Case.attributes = (cs.flatMap Source.Case.written).map .ofSource := by
    intro cs
    induction cs with
    | nil =>
      intro ms hmap
      rw [List.map_eq_nil_iff.mp hmap.symm]
      rfl
    | cons c cs ih =>
      intro ms hmap
      obtain ⟨m, ms, rfl, hm, hms⟩ := List.map_eq_cons_iff.mp hmap.symm
      rw [List.flatMap_cons, List.flatMap_cons, List.map_append, ih ms hms.symm,
        Case.attributes_of_ofSource hm.symm]
  have hfaulty : .error [] ∉ t.members.map Case.ofSource := by
    intro hmem
    obtain ⟨c, -, hc⟩ := List.mem_map.mp hmem
    exact Case.ofSource_ne_error_nil c hc
  exact hcases _ _ ((Checked.all_eq_ok hfaulty).mp (Declaration.of_ofSource h).2.2.2)

theorem ValueObject.members_of_ofSource {t : Source.Declaration Source.Attribute} {d : ValueObject}
    (h : ValueObject.ofSource t = .ok d) : d.members = t.members.map .ofSource := by
  have hmap : t.members.map (fun a => (.ok (.ofSource a) : Checked Problem Attribute)) =
      d.members.map .ok := (Checked.all_eq_ok (by simp)).mp (Declaration.of_ofSource h).2.2.2
  have hsplit : (t.members.map Attribute.ofSource).map (.ok : Attribute → Checked Problem Attribute) =
      d.members.map .ok := by
    rw [List.map_map]
    exact hmap
  exact ((List.map_inj_right fun _ _ => Except.ok.inj).mp hsplit).symm

theorem Source.Case.Readable.exists_typeText {c : Source.Case} (h : c.Readable)
    {a : Source.Attribute} (ha : a ∈ c.written) : ∃ u, Source.TypeText a.type u := by
  cases h with
  | @payload p name payload hp hdirective hname hpayload =>
    unfold Source.Preamble.HasPayload at hpayload
    split at hpayload
    · subst hpayload
      cases ha
    · obtain ⟨type, hparse, rfl⟩ := hpayload
      obtain rfl := List.mem_singleton.mp ha
      obtain ⟨r, hread⟩ := Parser.parse_eq_ok.mp hparse
      obtain ⟨before, text, after, -, -, htext, -⟩ := Source.wholeTypeExpr_eq_done.mp hread
      exact ⟨text, htext⟩
  | block hp hdirective hname htags hempty hattributes => exact (hattributes a ha).type

theorem Source.Case.Readable.isIdentifier {c : Source.Case} (h : c.Readable) {a : Source.Attribute}
    (ha : a ∈ c.written) : Source.IsIdentifier a.name := by
  cases h with
  | @payload p name payload hp hdirective hname hpayload =>
    unfold Source.Preamble.HasPayload at hpayload
    split at hpayload
    · subst hpayload
      cases ha
    · obtain ⟨type, -, rfl⟩ := hpayload
      obtain rfl := List.mem_singleton.mp ha
      exact hname
  | block hp hdirective hname htags hempty hattributes => exact (hattributes a ha).name

theorem Source.Case.Readable.within {c : Source.Case} (h : c.Readable) :
    Parser.Within Source.isWordChar c.name.toList := by
  cases h with
  | payload hp hdirective hname hpayload => exact hname.within
  | block hp hdirective hname htags hempty hattributes => exact hname

namespace AlgebraicType

variable {source : String} {d : AlgebraicType}

theorem exists_readable_of_read (h : AlgebraicType.read source = .ok d) :
    Source.IsIdentifier d.name ∧
      ∀ m ∈ d.members, ∃ c : Source.Case, c.Readable ∧ Case.ofSource c = .ok m := by
  obtain ⟨t, r, hread, hmodel⟩ := exists_of_readWith h
  have hreadable := Source.declaration_readable (fun _ _ _ => Source.readable_of_caseBlock) hread
  refine ⟨?_, fun m hm => ?_⟩
  · rw [(Declaration.of_ofSource hmodel).1]
    exact hreadable.name
  · obtain ⟨c, hc, hcase⟩ := Declaration.exists_of_mem_members hmodel hm
    exact ⟨c, hreadable.members c hc, hcase⟩

theorem isIdentifier_of_read (h : AlgebraicType.read source = .ok d) {c : Case} (hc : c ∈ d.members)
    {a : Attribute} (ha : a ∈ c.attributes) : Source.IsIdentifier a.name := by
  obtain ⟨w, hw, hcase⟩ := (exists_readable_of_read h).2 c hc
  rw [Case.attributes_of_ofSource hcase] at ha
  obtain ⟨b, hb, rfl⟩ := List.mem_map.mp ha
  exact hw.isIdentifier hb

theorem isIdentifier_of_single (h : AlgebraicType.read source = .ok d) {a : Attribute}
    (ha : .single a ∈ d.members) : Source.IsIdentifier a.name :=
  isIdentifier_of_read h ha List.mem_cons_self

end AlgebraicType

end ValueTypes
