import ValueTypes.Proofs.Parser.Reports
import ValueTypes.Source.Declaration

/-! What each rule of the grammar can report, from identifiers up to declarations. -/

namespace ValueTypes.Source

open ValueTypes.Parser

variable {α : Type} {progress : Bool} {missed halted : List Expected}

/-! ### Words and blanks -/

theorem reports_identifier : Reports true [.identifier] [] identifier := by
  intro s
  cases s with
  | nil => simp [identifier, Reading.Fits]
  | cons c s =>
    cases hc : isWordStart c with
    | false => simp [identifier, hc, Reading.Fits]
    | true =>
      rw [identifier, if_pos hc]
      exact fits_dropWhile isWordChar c s

theorem Reports.inline {p : Parser α} (h : Reports progress missed halted p) :
    Reports progress missed halted (inline p) :=
  (reports_skip isInlineBlank).bind fun _ => h

theorem reports_comment : Reports true [.word "#"] [] comment :=
  (reports_word _ (by decide)).bind fun _ => (reports_run _).bind fun _ => reports_pure _

theorem reports_gap : Reports false [] [] gap :=
  ((reports_skipSome isLayout).orElse (reports_comment.bind fun _ => reports_pure ())).many.bind
    fun _ => reports_pure ()

theorem reports_commaGap : Reports false [] [] commaGap :=
  ((reports_skipSome isLayout).orElse ((reports_word _ (by decide)).orElse
    (reports_comment.bind fun _ => reports_pure ()))).many.bind fun _ => reports_pure ()

theorem reports_comma : Reports true [.word ","] [] comma :=
  (reports_skip isLayout).bind fun _ => (reports_word _ (by decide)).bind fun _ => reports_skip isLayout

theorem reports_semicolon : Reports false [] [] (optional (inline (word ";"))) :=
  (Reports.inline (reports_word _ (by decide))).optional

/-! ### Preambles -/

theorem reports_directiveValue :
    Reports false [.directiveValue] [.directiveValue] directiveValue := by
  have hclosed := (reports_run fun c => c ≠ '"' && c ≠ '\n').bind fun text =>
    (reports_word "\"" (by decide)).bind fun _ => reports_pure (String.ofList text)
  have hquoted := (reports_word "\"" (by decide)).bind fun _ => hclosed.commit
  have hbare := ((reports_run (! Text.isBlank ·)).ensuring .directiveValue (! ·.isEmpty)).bind
    fun text => reports_pure (String.ofList text)
  exact (hquoted.orElse hbare).expecting .directiveValue

theorem reports_directiveProperty :
    Reports true [.identifier, .word "="] [.directiveValue] directiveProperty :=
  (reports_identifier.bind fun _ => (reports_word _ (by decide)).bind fun _ =>
    reports_directiveValue.commit.bind fun _ => reports_pure _).mono (by simp) (by simp)

theorem reports_directive : Reports true [.word "%"] [.identifier, .directiveValue] directive := by
  have hproperties := ((reports_skipSome isInlineBlank).bind fun _ => reports_directiveProperty).many
  exact (reports_word _ (by decide)).bind fun _ => reports_identifier.commit.bind fun _ =>
    hproperties.bind fun _ => (reports_skip isInlineBlank).bind fun _ => reports_pure _

theorem reports_preamble : Reports false [] [.identifier, .directiveValue] preamble := by
  have hline : Reports true [.word "#", .word "%"] [.identifier, .directiveValue] preambleLine :=
    ((reports_comment.bind fun _ => reports_pure _).orElse
      (reports_directive.bind fun _ => reports_pure _)).bind fun _ =>
        (reports_skip isLayout).bind fun _ => reports_pure _
  exact hline.many.bind fun _ => reports_pure _

/-! ### Tags -/

theorem reports_tagList (keyword : String) (hkeyword : keyword ≠ "") :
    Reports true [.word keyword, .word "("] [.word ")"] (tagList keyword) := by
  have htags := reports_comma.sepBy reports_identifier
  have hclose := (reports_skip isLayout).bind fun _ => htags.bind fun tags =>
    (reports_skip isLayout).bind fun _ => (reports_word ")" (by decide)).bind fun _ =>
      reports_pure tags
  exact (reports_word keyword hkeyword).bind fun _ => (reports_skip isLayout).bind fun _ =>
    (reports_word _ (by decide)).bind fun _ => hclose.commit

theorem reports_tagLists : Reports false [] [.word ")"] tagLists := by
  have hincludes := (reports_tagList "includes" (by decide)).bind fun tags =>
    reports_pure (⟨tags, []⟩ : TagLists)
  have hexcludes := (reports_tagList "excludes" (by decide)).bind fun tags =>
    reports_pure (⟨[], tags⟩ : TagLists)
  have hgroup := (reports_skip isLayout).bind fun _ => hincludes.orElse hexcludes
  exact (hgroup.many.bind fun _ => reports_pure _).mono (by simp) (by simp)

/-! ### Types -/

theorem reports_phrase (w : String) (ws : List String) :
    Reports true [.identifier, .blank] [] (phrase (w :: ws)) := by
  have hword := reports_identifier.ensuring .identifier (· == w)
  induction ws generalizing w with
  | nil => exact (hword.bind fun _ => reports_pure ()).mono (by simp) (by simp)
  | cons w' ws ih =>
    have hnext := (reports_skipSome isInlineBlank).bind fun _ =>
      ih w' (reports_identifier.ensuring .identifier (· == w'))
    rw [phrase.eq_3 _ _ (by simp)]
    exact (hword.bind fun _ => hnext).mono (by simp) (by simp)

theorem reports_scalarName {words : List String} (h : words ≠ []) :
    Reports true [.identifier] [.identifier] (scalarName words) := by
  cases words with
  | nil => exact absurd rfl h
  | cons w ws => exact ((reports_phrase w ws).expecting .identifier).bind fun _ => reports_pure _

theorem reports_typeName : Reports true [.identifier] [.identifier] typeName := by
  -- A phrase without words would read nothing, so the table must not have one.
  have hphrases : ∀ phrases : List (List String), (∀ words ∈ phrases, words ≠ []) →
      Reports true [.identifier] [.identifier]
        (phrases.foldr (fun words others => orElse (scalarName words) others) identifier) := by
    intro phrases hne
    induction phrases with
    | nil => exact reports_identifier.mono (by simp) (by simp)
    | cons words phrases ih =>
      obtain ⟨hwords, hothers⟩ := List.forall_mem_cons.mp hne
      exact ((reports_scalarName hwords).orElse (ih hothers)).mono (by simp) (by simp)
  exact hphrases scalarPhrases (by decide)

theorem reports_argumentList {type : Parser TypeExpr} (h : Reports true missed halted type) :
    Reports true [.pointerType, .identifier] [.pointerType] (argumentList type) := by
  have hpointer : Reports true [.pointerType] [.pointerType] (pointerArgument type) :=
    (h.ensuring .pointerType TypeExpr.isPointer).expecting .pointerType
  have hgenerics := (reports_comma.sepBy1 hpointer).bind fun types =>
    reports_pure (Arguments.generics types)
  have hprotocol := reports_identifier.bind fun name => reports_pure (Arguments.protocol name)
  exact hgenerics.orElse hprotocol

theorem reports_typeArguments {type : Parser TypeExpr} (h : Reports true missed halted type) :
    Reports true [.word "<"] [.pointerType, .identifier, .word ">"] (typeArguments type) := by
  have hclose := (reports_skip isLayout).bind fun _ => reports_word ">" (by decide)
  exact ((reports_word _ (by decide)).bind fun _ => (reports_skip isLayout).bind fun _ =>
    (reports_argumentList h).commit.bind fun _ => hclose.commit.bind fun _ =>
      reports_pure _).mono (by simp) (by simp)

theorem reports_underlyingType : Reports true [.word "("] [.identifier, .word ")"] underlyingType :=
  (reports_word _ (by decide)).bind fun _ => (Reports.inline reports_identifier).commit.bind fun _ =>
    (Reports.inline (reports_word _ (by decide))).commit.bind fun _ => reports_pure _

theorem reports_typeExpr :
    Reports true [.identifier] [.identifier, .pointerType, .word ")", .word ">"] typeExpr := by
  refine Reports.nested fun type htype => ?_
  have harguments := (Reports.inline (reports_typeArguments htype)).optional
  have hunderlying := (Reports.inline reports_underlyingType).optional
  have hstar := (Reports.inline (reports_word "*" (by decide))).optional
  exact (reports_typeName.bind fun _ => harguments.bind fun _ => hunderlying.bind fun _ =>
    hstar.bind fun _ => reports_pure _).mono (by simp) (by simp)

theorem reports_wholeTypeExpr : Reports true [.identifier, .endOfInput]
    [.identifier, .pointerType, .word ")", .word ">"] wholeTypeExpr :=
  (reports_skip isLayout).bind fun _ => reports_typeExpr.bind fun _ =>
    (reports_skip isLayout).bind fun _ => reports_endOfInput.bind fun _ => reports_pure _

/-! ### Attributes -/

theorem reports_attributeEntry : Reports true [.identifier]
    [.identifier, .directiveValue, .pointerType, .word ")", .word ">"] attributeEntry := by
  have hname := (Reports.inline reports_identifier).commit
  exact (reports_preamble.bind fun _ => reports_typeExpr.bind fun _ => hname.bind fun _ =>
    reports_semicolon.bind fun _ => reports_pure _).mono (by simp) (by simp)

def blockAttributes : Parser (List Attribute) :=
  manyUntil (do skip isLayout; attributeEntry) (do gap; word "\x7d")

theorem reports_blockAttributes : Reports true [.identifier, .word "\x7d"] [.identifier,
    .directiveValue, .pointerType, .word ")", .word ">"] blockAttributes := by
  have hitem := (reports_skip isLayout).bind fun _ => reports_attributeEntry
  have hclose := reports_gap.bind fun _ => reports_word "\x7d" (by decide)
  exact (hitem.manyUntil hclose).mono (by simp) (by simp)

theorem reports_attributeBlock : Reports true [.word "\x7b"] [.identifier, .directiveValue,
    .pointerType, .word ")", .word ">", .word "\x7d"] attributeBlock :=
  ((reports_word _ (by decide)).bind fun _ => reports_blockAttributes.commit).mono
    (by simp) (by simp)

/-! ### Cases -/

/-- A payload type that cannot be read is reported at the name of the case, so no place in the text
of the type, which stands elsewhere, is pointed at. -/
theorem reports_payloadCase (p : Preamble) :
    Reports true [] [.identifier, .payloadType] (payloadCase p) := by
  intro s
  unfold payloadCase
  refine (reports_identifier.commit.mono (by simp) (by simp)).fits_bind (List.suffix_refl s)
    fun name t ht hlt => ?_
  refine (reports_semicolon.mono (by simp) (by simp)).fits_bind ht fun _ r hr _ => ?_
  have hdone : r <:+ s ∧ (true → r.length < s.length) :=
    ⟨hr.trans ht, fun _ => hr.length_le.trans_lt (hlt rfl)⟩
  cases p.payloadType? with
  | none => exact hdone
  | some text =>
    dsimp only
    cases TypeExpr.parse text with
    | ok type => exact hdone
    | error e => exact ⟨List.suffix_refl s, by simp⟩

theorem reports_braceCase (p : Preamble) : Reports true [.word "\x7b"] [.identifier, .directiveValue,
    .pointerType, .word ")", .word ">", .word "\x7d"] (braceCase p) :=
  ((reports_run isWordChar).bind fun _ => reports_tagLists.bind fun _ =>
    (reports_skip isLayout).bind fun _ => reports_attributeBlock.bind fun _ =>
      reports_pure _).mono (by simp) (by simp)

theorem reports_bareCase (p : Preamble) :
    Reports true [.identifier] [.word ")"] (bareCase p) :=
  reports_identifier.bind fun _ => reports_tagLists.bind fun _ => reports_pure _

theorem reports_caseEntry : Reports true [.identifier, .word "\x7b"] [.identifier, .directiveValue,
    .pointerType, .payloadType, .word ")", .word ">", .word "\x7d"] caseEntry := by
  have hcase : ∀ p : Preamble, Reports true [.identifier, .word "\x7b"] [.identifier,
      .directiveValue, .pointerType, .payloadType, .word ")", .word ">", .word "\x7d"]
      (if p.directives.contains payloadDirective then payloadCase p
        else orElse (braceCase p) (bareCase p)) := by
    intro p
    split
    · exact (reports_payloadCase p).mono (by simp) (by simp)
    · exact ((reports_braceCase p).orElse (reports_bareCase p)).mono (by simp) (by simp)
  exact (reports_preamble.bind hcase).mono (by simp) (by simp)

theorem reports_caseSeparators : Reports false [] [] caseSeparators :=
  ((reports_skipSome isLayout).orElse (reports_word _ (by decide))).many.bind fun _ => reports_pure ()

theorem reports_caseItem : Reports true [.identifier, .word "\x7b"] [.identifier, .directiveValue,
    .pointerType, .payloadType, .word ")", .word ">", .word "\x7d"] (do caseSeparators; caseEntry) :=
  reports_caseSeparators.bind fun _ => reports_caseEntry

theorem reports_caseBlock : Reports true [.identifier, .word "\x7b", .word "\x7d"] [.identifier,
    .directiveValue, .pointerType, .payloadType, .word ")", .word ">", .word "\x7d"] caseBlock := by
  have hclose := reports_commaGap.bind fun _ => reports_word "\x7d" (by decide)
  exact ((reports_word _ (by decide)).bind fun _ => reports_caseItem.manyUntil hclose).mono
    (by simp) (by simp)

/-! ### Declarations -/

def heading : Parser (Preamble × String × TagLists) := do
  skip isLayout
  let p ← preamble
  let name ← identifier
  let tags ← tagLists
  skip isLayout
  return (p, name, tags)

theorem declaration_eq {Member : Type} (body : Parser (List Member)) : declaration body = (do
    let head ← heading
    let members ← body
    gap
    endOfInput
    return { head.1, head.2.2 with name := head.2.1, members }) := by
  simp only [declaration, heading, bind_assoc]
  rfl

theorem reports_heading : Reports true [.identifier] [.identifier, .directiveValue, .word ")"]
    heading :=
  ((reports_skip isLayout).bind fun _ => reports_preamble.bind fun _ => reports_identifier.bind fun _ =>
    reports_tagLists.bind fun _ => (reports_skip isLayout).bind fun _ => reports_pure _).mono
      (by simp) (by simp)

theorem reports_declaration {Member : Type} {body : Parser (List Member)}
    (h : Reports progress missed halted body) :
    Reports true (.identifier :: .endOfInput :: missed)
      (.identifier :: .directiveValue :: .word ")" :: halted) (declaration body) := by
  rw [declaration_eq]
  exact (reports_heading.bind fun _ => h.bind fun _ => reports_gap.bind fun _ =>
    reports_endOfInput.bind fun _ => reports_pure _).mono (by simp) (by simp)

end ValueTypes.Source
