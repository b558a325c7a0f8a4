import ValueTypes.Proofs.Source.Separators

/-! Layout in front of a declaration, and layout and comments behind it, do not change what is read. -/

namespace ValueTypes.Source

open ValueTypes.Parser

variable {s t : List Char} {ps : List Piece}

/-! ### Cases -/

theorem extends_caseSeparators : Extends '\x7d' caseSeparators := by
  have hround : Extends '\x7d' (orElse (skipSome isLayout) (word ",")) :=
    (extends_skipSome _).orElse (missesOn_skipSome _) (extends_word _)
  have hmiss : MissesOn '\x7d' (orElse (skipSome isLayout) (word ",")) :=
    (missesOn_skipSome _).orElse (missesOn_word "," rfl)
  exact (hround.many hmiss).bind fun _ => extends_pure _

theorem extends_payloadCase (p : Preamble) : Extends '\x7d' (payloadCase p) where
  suffix h := ((reports_payloadCase p).done h).1
  reads h hsign r := by
    have hsemicolon : Extends '\x7d' (optional (inline (word ";"))) := extends_semicolon rfl
    obtain ⟨name, payload, x, o, hname, hend, hpayload, rfl⟩ := payloadCase_eq_done.mp h
    have hahead : '\x7d' ∈ x := (hsemicolon.suffix hend).subset hsign
    have hname' := extends_identifier.reads hname hahead r
    have hend' := hsemicolon.reads hend hsign r
    exact payloadCase_eq_done.mpr ⟨name, payload, x ++ r, o, hname', hend', hpayload, rfl⟩

theorem extends_attributeBlock : Extends '\x7d' attributeBlock where
  suffix h := (reports_attributeBlock.done h).1
  reads h _ r := (endsAtBrace_attributeBlock h).2 r

theorem extends_braceCase (p : Preamble) : Extends '\x7d' (braceCase p) :=
  (extends_run _).bind fun _ => extends_tagLists.bind fun _ => (extends_skip _).bind fun _ =>
    extends_attributeBlock.bind fun _ => extends_pure _

theorem extends_bareCase (p : Preamble) : Extends '\x7d' (bareCase p) :=
  extends_identifier.bind fun _ => extends_tagLists.bind fun _ => extends_pure _

theorem misses_braceCase {p : Preamble} {name : String} {tags : TagLists} {x : List Char}
    (hname : identifier s = .done name x) (htags : tagLists x = .done tags t) :
    Misses (braceCase p) s ↔ Misses (do skip isLayout; word "\x7b") t := by
  have hrun : run isWordChar s = .done name.toList x := by
    obtain ⟨hword, rfl, hx⟩ := identifier_eq_done.mp hname
    exact run_append hword.within hx
  have hblock : ∀ y, Misses attributeBlock y ↔ Misses (word "\x7b") y := by
    intro y
    simp [attributeBlock, misses_bind, not_misses_commit]
  have hcase : ∀ f : List Attribute → Case,
      Misses (do skip isLayout; let as ← attributeBlock; return f as) t ↔
        Misses (do skip isLayout; word "\x7b") t := by
    intro f
    have hpure : ∀ as y, ¬ Misses (pure (f as)) y := fun as y => (reports_pure _).not_misses
    simp [misses_bind, hblock, hpure]
  unfold Misses
  rw [braceCase, bind_of_done hrun, bind_of_done htags]
  exact hcase _

/-- A bare name stays one: the brace ahead keeps the text behind it from being its body. -/
theorem extends_case (p : Preamble) : Extends '\x7d' (orElse (braceCase p) (bareCase p)) where
  suffix h := (((reports_braceCase p).orElse (reports_bareCase p)).done h).1
  reads {s c t} h hsign r := by
    rcases orElse_eq_done.mp h with hbrace | ⟨hmiss, hbare⟩
    · exact orElse_of_done ((extends_braceCase p).reads hbrace hsign r)
    · apply orElse_of_misses _ ((extends_bareCase p).reads hbare hsign r)
      obtain ⟨name, x, hname, hrest⟩ := bind_eq_done.mp hbare
      obtain ⟨tags, x', htags, hpure⟩ := bind_eq_done.mp hrest
      obtain ⟨-, rfl⟩ := pure_eq_done.mp hpure
      have hahead : '\x7d' ∈ x := (extends_tagLists.suffix htags).subset hsign
      have hname' := extends_identifier.reads hname hahead r
      have htags' := extends_tagLists.reads htags hsign r
      have hbrace : MissesOn '\x7d' (do skip isLayout; word "\x7b") :=
        .bind (extends_skip _) (spares_skip rfl) (.of_not_misses fun _ => not_misses_skip _)
          fun _ => missesOn_word "\x7b" rfl
      rw [misses_braceCase hname htags] at hmiss
      rw [misses_braceCase hname' htags']
      exact hbrace hmiss hsign r

theorem extends_caseEntry : Extends '\x7d' caseEntry := by
  refine (extends_preamble rfl rfl).bind fun p => ?_
  split
  · exact extends_payloadCase p
  · exact extends_case p

theorem endsAtBrace_caseBlock : EndsAtBrace caseBlock := by
  have hitem : Extends '\x7d' (do caseSeparators; caseEntry) :=
    extends_caseSeparators.bind fun _ => extends_caseEntry
  have hpieces : ∀ {s u t}, commaGap s = .done u ('\x7d' :: t) →
      ∃ ps : List Piece, True ∧ s = spelled ps ++ '\x7d' :: t := by
    intro s u t hgap
    obtain ⟨ps, y, rfl, hends⟩ := exists_spelled_of_commaGap hgap
    exact ⟨ps, trivial, by rw [hends.resolve_right (by simp)]⟩
  have hbody := endsAtBrace_manyUntil hitem hpieces
    (fun ps _ t => commaGap_spelled ps (content_close t)) (fun ps _ t => misses_caseItem_close ps t)
  exact hbody.braced

/-! ### Gaps -/

theorem exists_spelled_behind_comment {line : List Char} (hline : '\n' ∉ line)
    (hps : ∀ p ∈ ps, p.isComma = false) :
    ∃ qs y, (∀ p ∈ qs, p.isComma = false) ∧ '#' :: (line ++ spelled ps) = spelled qs ++ y ∧
      GapEnds y [] := by
  -- The open comment grows with each blank, until a line feed or another comment ends its line.
  induction ps generalizing line with
  | nil => exact ⟨[], '#' :: line, by simp, by simp, .inr ⟨rfl, line, hline, rfl⟩⟩
  | cons p ps ih =>
    obtain ⟨hp, hmore⟩ := List.forall_mem_cons.mp hps
    cases p with
    | blank c hc =>
      by_cases hfeed : c = '\n'
      · subst hfeed
        have hqs : ∀ q ∈ Piece.comment line hline :: ps, q.isComma = false :=
          List.forall_mem_cons.mpr ⟨rfl, hmore⟩
        exact ⟨_, [], hqs, by simp [Piece.text], .inl rfl⟩
      · have hlonger : '\n' ∉ line ++ [c] := by simp [hline, Ne.symm hfeed]
        simpa [Piece.text] using ih hlonger hmore
    | comma => cases hp
    | comment line' hline' =>
      have hlonger : '\n' ∉ line ++ '#' :: line' := by simp [hline, hline']
      have hqs : ∀ q ∈ Piece.comment (line ++ '#' :: line') hlonger :: ps, q.isComma = false :=
        List.forall_mem_cons.mpr ⟨rfl, hmore⟩
      exact ⟨_, [], hqs, by simp [Piece.text], .inl rfl⟩

theorem gap_spelled_end {y : List Char} (hps : ∀ p ∈ ps, p.isComma = false) (hy : GapEnds y []) :
    gap (spelled ps ++ y) = .done () [] := by
  have hnil : Content [] := ⟨by simp, by simp, by simp⟩
  rcases hy with rfl | ⟨-, line, hline, rfl⟩
  · exact gap_spelled hps hnil
  · -- Here the last round reads a comment that is ended by the text and not by a line feed.
    have hsign : Stops isLayout ('#' :: line) := by simp [isLayout]
    have hcomment : (do let _ ← comment : Parser Unit) ('#' :: line) = .done () [] := by
      have hread : comment ('#' :: line) = .done (String.ofList (Text.trim line)) [] :=
        comment_eq_done.mpr ⟨line, by simp, hline, by simp, rfl⟩
      rw [bind_of_done hread, pure_apply]
    have hend : Misses (orElse (skipSome isLayout) (do let _ ← comment)) [] :=
      misses_orElse.mpr ⟨misses_skipSome.mpr hnil.layout, (misses_comment hnil).bind _⟩
    have hlast := orElse_of_misses (misses_skipSome.mpr hsign) hcomment
    obtain ⟨us, hrounds⟩ := rounds_spelled (fun p hp => readBy_comment (hps p hp)) hsign
      (.next hlast (by simp) (.stop hend)) (within_nil _)
    rw [List.nil_append] at hrounds
    rw [gap, bind_of_done (many_eq_done.mpr hrounds), pure_apply]

theorem gap_append_spelled {u : Unit} (h : gap s = .done u []) (hps : ∀ p ∈ ps, p.isComma = false) :
    gap (s ++ spelled ps) = .done () [] := by
  obtain ⟨qs, y, hqs, rfl, hends⟩ := exists_spelled_of_gap h
  rcases hends with rfl | ⟨-, line, hline, rfl⟩
  · have hall : ∀ p ∈ qs ++ ps, p.isComma = false := List.forall_mem_append.mpr ⟨hqs, hps⟩
    have hread := gap_spelled_end hall (.inl rfl)
    simpa using hread
  · obtain ⟨qs', y, hqs', heq, hends⟩ := exists_spelled_behind_comment hline hps
    have hall : ∀ p ∈ qs ++ qs', p.isComma = false := List.forall_mem_append.mpr ⟨hqs, hqs'⟩
    have hread := gap_spelled_end hall hends
    rwa [spelled_append, List.append_assoc, ← heq, ← List.cons_append, ← List.append_assoc] at hread

/-! ### Declarations -/

theorem extends_heading : Extends '\x7d' heading :=
  (extends_skip _).bind fun _ => (extends_preamble rfl rfl).bind fun _ =>
    extends_identifier.bind fun _ => extends_tagLists.bind fun _ => (extends_skip _).bind fun _ =>
      extends_pure _

theorem heading_layout {w : List Char} (hw : Within isLayout w) (s : List Char) :
    heading (w ++ s) = heading s := by
  have hskip : skip isLayout (w ++ s) = skip isLayout s := by
    rw [skip, skip, List.dropWhile_append_of_pos hw]
  rw [heading, bind_apply, bind_apply, hskip]

theorem declaration_surrounded {Member : Type} {body : Parser (List Member)}
    (hbody : EndsAtBrace body) {w : List Char} (hw : Within isLayout w) (hps : ∀ p ∈ ps, p.isComma = false)
    {d : Declaration Member} (h : declaration body s = .done d t) :
    declaration body (w ++ s ++ spelled ps) = .done d [] := by
  rw [declaration_eq] at h ⊢
  obtain ⟨head, x, hhead, hrest⟩ := bind_eq_done.mp h
  obtain ⟨members, y, hmembers, hrest⟩ := bind_eq_done.mp hrest
  obtain ⟨u, z, hgap, hrest⟩ := bind_eq_done.mp hrest
  obtain ⟨_, z', hend, hpure⟩ := bind_eq_done.mp hrest
  obtain ⟨hsign, hextend⟩ := hbody hmembers
  have hhead' : heading (w ++ s ++ spelled ps) = .done head (x ++ spelled ps) := by
    rw [List.append_assoc, heading_layout hw, extends_heading.reads hhead hsign]
  have hgap' : gap (y ++ spelled ps) = .done () [] := by
    obtain ⟨rfl, -⟩ := endOfInput_eq_done.mp hend
    exact gap_append_spelled hgap hps
  obtain ⟨rfl, -⟩ := pure_eq_done.mp hpure
  rw [bind_of_done hhead', bind_of_done (hextend _), bind_of_done hgap',
    bind_of_done (endOfInput_eq_done (u := ()).mpr ⟨rfl, rfl⟩), pure_apply]

/-- Layout in front of a source and pieces behind it leave what is read of it as it is, also where the
source ends in a comment that the pieces then belong to. -/
theorem parse_surrounded {w : List Char} (hw : Within isLayout w) {ps : List Piece}
    (hps : ∀ p ∈ ps, p.isComma = false) (source : String) :
    (∀ t, algebraicType.parse source = .ok t →
      algebraicType.parse (String.ofList w ++ source ++ String.ofList (spelled ps)) = .ok t) ∧
    ∀ t, valueObject.parse source = .ok t →
      valueObject.parse (String.ofList w ++ source ++ String.ofList (spelled ps)) = .ok t := by
  have htext : (String.ofList w ++ source ++ String.ofList (spelled ps)).toList =
      w ++ source.toList ++ spelled ps := by simp
  simp only [parse_eq_ok, htext]
  constructor
  · rintro t ⟨r, h⟩
    exact ⟨[], declaration_surrounded endsAtBrace_caseBlock hw hps h⟩
  · rintro t ⟨r, h⟩
    exact ⟨[], declaration_surrounded endsAtBrace_attributeBlock hw hps h⟩

def unendedShape : String :=
  "# A shape\nShape includes(Plane) \x7b Dot \x7b # at\nint x \x7d, # round\nDisc \x7d # end"

def unendedPage : String := "Page \x7b int number; NSString *title \x7d # end"

theorem parse_surrounded_unended : ∃ t v,
    algebraicType.parse unendedShape = .ok t ∧ t.members.map (·.name) = ["Dot", "Disc"] ∧
    algebraicType.parse ("\r\n" ++ unendedShape ++ " # still\n\t#\n") = .ok t ∧
    valueObject.parse unendedPage = .ok v ∧ v.members.map (·.name) = ["number", "title"] ∧
    valueObject.parse ("\r\n" ++ unendedPage ++ " # still\n\t#\n") = .ok v := by
  have hcases : (algebraicType.parse unendedShape).toOption.map (·.members.map (·.name)) =
      some ["Dot", "Disc"] := by decide +kernel
  have hattributes : (valueObject.parse unendedPage).toOption.map (·.members.map (·.name)) =
      some ["number", "title"] := by decide +kernel
  obtain ⟨w, hw, hfront⟩ : ∃ w, Within isLayout w ∧ String.ofList w = "\r\n" :=
    ⟨['\r', '\n'], by simp [isLayout], rfl⟩
  obtain ⟨ps, hps, hback⟩ : ∃ ps : List Piece, (∀ p ∈ ps, p.isComma = false) ∧
      String.ofList (spelled ps) = " # still\n\t#\n" :=
    ⟨[.blank ' ' rfl, .comment " still".toList (by decide), .blank '\t' rfl,
      .comment [] List.not_mem_nil], by decide, by decide⟩
  obtain ⟨t, ht, hdots⟩ := exists_of_map_toOption hcases
  obtain ⟨v, hv, hnumbers⟩ := exists_of_map_toOption hattributes
  rw [← hfront, ← hback]
  exact ⟨t, v, ht, hdots, (parse_surrounded hw hps unendedShape).1 t ht, hv, hnumbers,
    (parse_surrounded hw hps unendedPage).2 v hv⟩

end ValueTypes.Source
