import ValueTypes.Proofs.Parser.Extension
import ValueTypes.Proofs.Source.Gaps
import ValueTypes.Proofs.Source.Reports

/-! Headings and bodies of attributes are read alike whatever follows the body: as long as the closing
brace is ahead, no rule notices that the text goes on. -/

namespace ValueTypes.Source

open ValueTypes.Parser

variable {sign : Char} {s t r : List Char}

/-! ### Words -/

theorem extends_identifier : Extends sign identifier where
  suffix h := (reports_identifier.done h).1
  reads h hsign r := by
    obtain ⟨hname, rfl, ht⟩ := identifier_eq_done.mp h
    rw [List.append_assoc]
    exact identifier_append hname (ht.append (List.ne_nil_of_mem hsign) r)

theorem missesOn_identifier : MissesOn sign identifier := by
  intro s h hsign r
  exact misses_identifier.mpr ((misses_identifier.mp h).append (List.ne_nil_of_mem hsign) r)

theorem spares_identifier (hsign : isWordChar sign = false) : Spares sign identifier := by
  intro s w t h hmem
  obtain ⟨hname, rfl, -⟩ := identifier_eq_done.mp h
  exact mem_of_within_append hsign hname.within hmem

theorem extends_comment : Extends sign comment :=
  (extends_word _).bind fun _ => (extends_run _).bind fun _ => extends_pure _

theorem missesOn_comment : MissesOn sign comment :=
  (missesOn_word "#" rfl).bind_of_not_misses fun _ _ =>
    ((reports_run _).bind fun _ => reports_pure _).not_misses

/-! ### Directives -/

theorem extends_directiveValue : Extends sign directiveValue := by
  have hquoted : MissesOn sign (do
      word "\""
      commit do
        let text ← run (fun c => c ≠ '"' && c ≠ '\n')
        word "\""
        return String.ofList text) :=
    (missesOn_word "\"" rfl).bind_of_not_misses fun _ _ => not_misses_commit _
  refine Extends.expecting (Extends.orElse ?_ hquoted ?_) _
  · exact (extends_word _).bind fun _ => ((extends_run _).bind fun _ =>
      (extends_word _).bind fun _ => extends_pure _).commit
  · exact ((extends_run _).ensuring _ _).bind fun _ => extends_pure _

theorem extends_directiveProperty : Extends sign directiveProperty :=
  extends_identifier.bind fun _ => (extends_word _).bind fun _ =>
    extends_directiveValue.commit.bind fun _ => extends_pure _

theorem missesOn_directiveProperty (hsign : isWordChar sign = false) :
    MissesOn sign directiveProperty :=
  .bind extends_identifier (spares_identifier hsign) missesOn_identifier fun _ =>
    (missesOn_word "=" rfl).bind_of_not_misses fun _ _ =>
      (reports_directiveValue.commit.bind fun _ => reports_pure _).not_misses

theorem extends_directive (hword : isWordChar sign = false) (hblank : isInlineBlank sign = false) :
    Extends sign directive := by
  have hproperties : Extends sign (many do skipSome isInlineBlank; directiveProperty) :=
    ((extends_skipSome _).bind fun _ => extends_directiveProperty).many
      (.bind (extends_skipSome _) (spares_skipSome hblank) (missesOn_skipSome _) fun _ =>
        missesOn_directiveProperty hword)
  exact (extends_word _).bind fun _ => extends_identifier.commit.bind fun _ =>
    hproperties.bind fun _ => (extends_skip _).bind fun _ => extends_pure _

theorem missesOn_directive : MissesOn sign directive :=
  (missesOn_word "%" rfl).bind_of_not_misses fun _ _ =>
    (reports_identifier.commit.bind fun _ =>
      ((reports_skipSome isInlineBlank).bind fun _ => reports_directiveProperty).many.bind fun _ =>
        (reports_skip isInlineBlank).bind fun _ => reports_pure _).not_misses

/-! ### Preambles -/

theorem missesOn_commentLine : MissesOn sign (do return Preamble.Line.comment (← comment)) :=
  missesOn_comment.bind_of_not_misses fun _ _ => (reports_pure _).not_misses

theorem extends_preambleLine (hword : isWordChar sign = false) (hblank : isInlineBlank sign = false) :
    Extends sign preambleLine := by
  have hline := Extends.orElse
    (extends_comment.bind fun text => extends_pure (Preamble.Line.comment text))
    missesOn_commentLine
    ((extends_directive hword hblank).bind fun d => extends_pure (Preamble.Line.directive d.1 d.2))
  exact hline.bind fun _ => (extends_skip _).bind fun _ => extends_pure _

theorem missesOn_preambleLine : MissesOn sign preambleLine := by
  have hdirective : MissesOn sign (do let d ← directive; return Preamble.Line.directive d.1 d.2) :=
    missesOn_directive.bind_of_not_misses fun _ _ => (reports_pure _).not_misses
  have hline := missesOn_commentLine.orElse hdirective
  exact hline.bind_of_not_misses fun _ _ =>
    ((reports_skip isLayout).bind fun _ => reports_pure _).not_misses

theorem extends_preamble (hword : isWordChar sign = false) (hblank : isInlineBlank sign = false) :
    Extends sign preamble :=
  ((extends_preambleLine hword hblank).many missesOn_preambleLine).bind fun _ => extends_pure _

/-! ### Tags -/

theorem extends_comma : Extends sign comma :=
  (extends_skip _).bind fun _ => (extends_word _).bind fun _ => extends_skip _

theorem spares_comma (hlayout : isLayout sign = false) (hsign : sign ≠ ',') : Spares sign comma :=
  (spares_skip hlayout).bind fun _ => (spares_word "," (by simpa using hsign)).bind fun _ =>
    spares_skip hlayout

theorem missesOn_comma (hlayout : isLayout sign = false) : MissesOn sign comma :=
  .bind (extends_skip _) (spares_skip hlayout) (.of_not_misses fun _ => not_misses_skip _) fun _ =>
    (missesOn_word "," rfl).bind_of_not_misses fun _ _ => not_misses_skip _

theorem extends_tags (hlayout : isLayout sign = false) (hsign : sign ≠ ',') :
    Extends sign (sepBy comma identifier) := by
  have hround : MissesOn sign (do comma; identifier) :=
    .bind extends_comma (spares_comma hlayout hsign) (missesOn_comma hlayout) fun _ =>
      missesOn_identifier
  have hlist : MissesOn sign (sepBy1 comma identifier) :=
    missesOn_identifier.bind_of_not_misses fun _ _ =>
      ((reports_comma.bind fun _ => reports_identifier).many.bind fun _ => reports_pure _).not_misses
  exact extends_comma.sepBy extends_identifier hround hlist

theorem extends_tagList (keyword : String) (hlayout : isLayout sign = false) (hsign : sign ≠ ',') :
    Extends sign (tagList keyword) := by
  have htags : Extends sign (do
      skip isLayout
      let tags ← sepBy comma identifier
      skip isLayout
      word ")"
      return tags) :=
    (extends_skip _).bind fun _ => (extends_tags hlayout hsign).bind fun _ =>
      (extends_skip _).bind fun _ => (extends_word _).bind fun _ => extends_pure _
  exact (extends_word _).bind fun _ => (extends_skip _).bind fun _ => (extends_word _).bind fun _ =>
    htags.commit

theorem missesOn_tagList (keyword : String) (hlayout : isLayout sign = false)
    (hsign : sign ∉ keyword.toList) : MissesOn sign (tagList keyword) :=
  .bind (extends_word _) (spares_word _ hsign) (missesOn_keyword _ hsign) fun _ =>
    .bind (extends_skip _) (spares_skip hlayout) (.of_not_misses fun _ => not_misses_skip _) fun _ =>
      (missesOn_word "(" rfl).bind_of_not_misses fun _ _ => not_misses_commit _

theorem extends_tagLists : Extends '\x7d' tagLists := by
  have hincludes : MissesOn '\x7d' (do return (⟨← tagList "includes", []⟩ : TagLists)) :=
    (missesOn_tagList _ rfl (by decide)).bind_of_not_misses fun _ _ => (reports_pure _).not_misses
  have hexcludes : MissesOn '\x7d' (do return (⟨[], ← tagList "excludes"⟩ : TagLists)) :=
    (missesOn_tagList _ rfl (by decide)).bind_of_not_misses fun _ _ => (reports_pure _).not_misses
  have hgroup : Extends '\x7d' tagGroup :=
    (extends_skip _).bind fun _ => Extends.orElse
      ((extends_tagList _ rfl (by decide)).bind fun _ => extends_pure _) hincludes
      ((extends_tagList _ rfl (by decide)).bind fun _ => extends_pure _)
  have hmiss : MissesOn '\x7d' tagGroup :=
    .bind (extends_skip _) (spares_skip rfl) (.of_not_misses fun _ => not_misses_skip _) fun _ =>
      hincludes.orElse hexcludes
  exact (hgroup.many hmiss).bind fun _ => extends_pure _

/-! ### Attributes -/

theorem extends_semicolon (hblank : isInlineBlank sign = false) :
    Extends sign (optional (inline (word ";"))) :=
  ((extends_skip _).bind fun _ => extends_word _).optional
    (.bind (extends_skip _) (spares_skip hblank) (fun _ h => absurd h (not_misses_skip _))
      fun _ => missesOn_word ";" rfl)

theorem extends_attributeEntry (hword : isWordChar sign = false)
    (hblank : isInlineBlank sign = false) : Extends sign attributeEntry where
  suffix h := (reports_attributeEntry.done h).1
  reads {s a t} h hsign r := by
    have hreadable := readable_of_attributeEntry h
    obtain ⟨x, x', x'', o, hpreamble, htype, hinline, hend⟩ := attributeEntry_eq_done.mp h
    have hsemicolon : Extends sign (optional (inline (word ";"))) := extends_semicolon hblank
    have hahead : sign ∈ x'' := (hsemicolon.suffix hend).subset hsign
    obtain ⟨u, rfl, htext, hends⟩ := typeText_of_typeExpr htype
    obtain ⟨b, y, rfl, hb, hy, hname⟩ := inline_eq_done.mp hinline
    obtain ⟨-, rfl, hx⟩ := identifier_eq_done.mp hname
    have hx' : Stops isWordChar (x'' ++ r) := hx.append (List.ne_nil_of_mem hahead) r
    have htouch : a.type.reference = a.type.name → a.type.underlying = none → b ≠ [] := by
      rintro hreference hunderlying rfl
      obtain ⟨c, cs, hcs, hc, -⟩ := hreadable.name.exists_cons
      simpa [hcs, isWordChar_of_isWordStart hc] using (hends hreference hunderlying).1
    have hpreamble' := (extends_preamble hword hblank).reads hpreamble (by simp [hahead]) r
    simp only [List.append_assoc] at hpreamble'
    refine attributeEntry_eq_done.mpr ⟨_, _, x'' ++ r, o, hpreamble',
      typeExpr_append htext (hreadable.typeEnds hb hx' htouch), ?_, hsemicolon.reads hend hsign r⟩
    rw [inline_append hb (stops_isInlineBlank (hreadable.name.stops_layout _)),
      identifier_append hreadable.name hx']

/-! ### Bodies -/

/-- What is read has a closing brace in it, and is read alike whatever follows. -/
def EndsAtBrace {α : Type} (p : Parser α) : Prop :=
  ∀ ⦃s a t⦄, p s = .done a t → '\x7d' ∈ s ∧ ∀ r, p (s ++ r) = .done a (t ++ r)

theorem EndsAtBrace.commit {α : Type} {p : Parser α} (h : EndsAtBrace p) : EndsAtBrace (commit p) := by
  intro s a t hread
  obtain ⟨hsign, hmore⟩ := h (commit_eq_done.mp hread)
  exact ⟨hsign, fun r => commit_eq_done.mpr (hmore r)⟩

theorem EndsAtBrace.braced {α : Type} {p : Parser α} (h : EndsAtBrace p) :
    EndsAtBrace (do word "\x7b"; p) := by
  intro s a t hread
  obtain ⟨_, x, hword, hrest⟩ := bind_eq_done.mp hread
  obtain rfl : s = '\x7b' :: x := word_eq_done.mp hword
  obtain ⟨hsign, hmore⟩ := h hrest
  refine ⟨List.mem_cons_of_mem _ hsign, fun r => ?_⟩
  rw [List.cons_append, bind_of_done (word_singleton rfl _), hmore]

theorem endsAtBrace_manyUntil {α : Type} {item : Parser α} {blanks : Parser Unit}
    {P : List Piece → Prop} (hitem : Extends '\x7d' item)
    (hpieces : ∀ {s u t}, blanks s = .done u ('\x7d' :: t) → ∃ ps, P ps ∧ s = spelled ps ++ '\x7d' :: t)
    (hblanks : ∀ ps, P ps → ∀ t, blanks (spelled ps ++ '\x7d' :: t) = .done () ('\x7d' :: t))
    (hmiss : ∀ ps, P ps → ∀ t, Misses item (spelled ps ++ '\x7d' :: t)) :
    EndsAtBrace (manyUntil item (do blanks; word "\x7d")) := by
  intro s as t h
  obtain ⟨x, _, hrounds, hclose⟩ := manyUntil_eq_done.mp h
  obtain ⟨_, y, hread, hword⟩ := bind_eq_done.mp hclose
  obtain rfl : y = '\x7d' :: t := word_eq_done.mp hword
  obtain ⟨ps, hps, rfl⟩ := hpieces hread
  have hsign : '\x7d' ∈ spelled ps ++ '\x7d' :: t := by simp
  refine ⟨(hrounds.suffix hitem).subset hsign, fun r => ?_⟩
  have hmiss' : Misses item (spelled ps ++ '\x7d' :: t ++ r) := by
    simpa using hmiss ps hps (t ++ r)
  have hclose' : (do blanks; word "\x7d") (spelled ps ++ '\x7d' :: t ++ r) = .done () (t ++ r) := by
    rw [List.append_assoc, List.cons_append, bind_of_done (hblanks ps hps _), word_singleton rfl]
  exact manyUntil_eq_done.mpr ⟨_, (), hrounds.extend hitem hsign hmiss', hclose'⟩

theorem misses_attribute_spelled {ps : List Piece} (hps : ∀ p ∈ ps, p.isComma = false)
    (r : List Char) :
    Misses (do skip isLayout; attributeEntry) (spelled ps ++ '\x7d' :: r) := by
  obtain ⟨z, hskip, hpreamble⟩ :=
    exists_preamble_spelled hps (content_close r).layout (by simp) (by simp)
  exact .after hskip (.after hpreamble ((misses_typeExpr (by simp [isWordStart])).bind _))

theorem endsAtBrace_attributeBlock : EndsAtBrace attributeBlock := by
  have hitem : Extends '\x7d' (do skip isLayout; attributeEntry) :=
    (extends_skip _).bind fun _ => extends_attributeEntry rfl rfl
  have hpieces : ∀ {s u t}, gap s = .done u ('\x7d' :: t) →
      ∃ ps : List Piece, (∀ p ∈ ps, p.isComma = false) ∧ s = spelled ps ++ '\x7d' :: t := by
    intro s u t hgap
    obtain ⟨ps, y, hps, rfl, hends⟩ := exists_spelled_of_gap hgap
    exact ⟨ps, hps, by rw [hends.resolve_right (by simp)]⟩
  have hbody := endsAtBrace_manyUntil hitem hpieces
    (fun ps hps t => gap_spelled hps (content_close t))
    (fun ps hps t => misses_attribute_spelled hps t)
  exact hbody.commit.braced

end ValueTypes.Source
