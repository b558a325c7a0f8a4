import ValueTypes.Proofs.Source.RoundTrip

/-! Layout, commas and comments in any mixture: which rule reads how much of it. -/

namespace ValueTypes.Source

open ValueTypes.Parser

/-- What can stand between entries. A comment ends with its line. -/
inductive Piece where
  | blank (c : Char) (h : isLayout c)
  | comma
  | comment (line : List Char) (h : '\n' ∉ line)

namespace Piece

def text : Piece → List Char
  | blank c _ => [c]
  | comma => [',']
  | comment line _ => '#' :: (line ++ ['\n'])

def isComma : Piece → Bool
  | comma => true
  | _ => false

def isComment : Piece → Bool
  | comment _ _ => true
  | _ => false

def comment? : Piece → Option String
  | comment line _ => some (String.ofList (Text.trim line))
  | _ => none

def ReadBy (rule : Parser Unit) : Piece → Prop
  | blank _ _ => True
  | comma => ∀ t, rule (',' :: t) = .done () t
  | comment line _ => ∀ t, rule ('#' :: (line ++ '\n' :: t)) = .done () ('\n' :: t)

end Piece

variable {s t y : List Char} {ps : List Piece}

def spelled (ps : List Piece) : List Char := ps.flatMap Piece.text

@[simp] theorem spelled_nil : spelled [] = [] := rfl

@[simp] theorem spelled_cons (p : Piece) (ps : List Piece) :
    spelled (p :: ps) = p.text ++ spelled ps := rfl

@[simp] theorem spelled_append (ps qs : List Piece) :
    spelled (ps ++ qs) = spelled ps ++ spelled qs := List.flatMap_append

/-! ### Gaps -/

theorem rounds_layout {rule : Parser Unit} {us : List Unit} {w : List Char} (hw : Within isLayout w)
    (hs : Stops isLayout s) (h : Rounds (orElse (skipSome isLayout) rule) us s t) :
    ∃ us, Rounds (orElse (skipSome isLayout) rule) us (w ++ s) t := by
  cases w with
  | nil => exact ⟨us, h⟩
  | cons c w =>
    have hskip := orElse_of_done (q := rule) (skipSome_append hw (by simp) hs)
    exact ⟨_, .next hskip (by simp only [List.length_append, List.length_cons]; omega) h⟩

theorem rounds_spelled {rule : Parser Unit} {us : List Unit} (hps : ∀ p ∈ ps, p.ReadBy rule)
    (hy : Stops isLayout y) (hrest : Rounds (orElse (skipSome isLayout) rule) us y t) {w : List Char}
    (hw : Within isLayout w) :
    ∃ us, Rounds (orElse (skipSome isLayout) rule) us (w ++ (spelled ps ++ y)) t := by
  -- The layout in front grows with each blank, and is read when another piece or the end follows.
  induction ps generalizing w with
  | nil => exact rounds_layout hw hy hrest
  | cons p ps ih =>
    obtain ⟨hp, hmore⟩ := List.forall_mem_cons.mp hps
    cases p with
    | blank c hc =>
      have hwider : Within isLayout (w ++ [c]) := within_append.mpr ⟨hw, by simpa using hc⟩
      simpa [Piece.text] using ih hmore hwider
    | comma =>
      have hcomma : Stops isLayout (',' :: (spelled ps ++ y)) := by simp [isLayout]
      obtain ⟨us, hrounds⟩ := ih hmore (within_nil _)
      have hread := orElse_of_misses (misses_skipSome.mpr hcomma) (hp (spelled ps ++ y))
      exact rounds_layout hw hcomma (.next hread (by simp [Piece.text]) hrounds)
    | comment line hline =>
      have hsign : Stops isLayout ('#' :: (line ++ '\n' :: (spelled ps ++ y))) := by simp [isLayout]
      obtain ⟨us, hrounds⟩ := ih hmore (w := ['\n']) (by simp [isLayout])
      have hread := orElse_of_misses (misses_skipSome.mpr hsign) (hp (spelled ps ++ y))
      have hlt : ('\n' :: (spelled ps ++ y)).length <
          ('#' :: (line ++ '\n' :: (spelled ps ++ y))).length := by
        simp only [List.length_append, List.length_cons]
        omega
      simpa [Piece.text] using rounds_layout hw hsign (.next hread hlt hrounds)

theorem many_spelled {rule : Parser Unit} (hps : ∀ p ∈ ps, p.ReadBy rule) (hy : Stops isLayout y)
    (hmiss : Misses rule y) :
    (do let _ ← many (orElse (skipSome isLayout) rule)) (spelled ps ++ y) = .done () y := by
  have hend : Misses (orElse (skipSome isLayout) rule) y :=
    misses_orElse.mpr ⟨misses_skipSome.mpr hy, hmiss⟩
  obtain ⟨us, hrounds⟩ := rounds_spelled hps hy (.stop hend) (within_nil _)
  rw [List.nil_append] at hrounds
  rw [bind_of_done (many_eq_done.mpr hrounds), pure_apply]

theorem readBy_comment {p : Piece} (hp : p.isComma = false) :
    p.ReadBy (do let _ ← comment) := by
  cases p with
  | blank c hc => trivial
  | comma => cases hp
  | comment line hline => exact fun t => by rw [bind_of_done (comment_line hline t), pure_apply]

theorem gap_spelled (hps : ∀ p ∈ ps, p.isComma = false) (hy : Content y) :
    gap (spelled ps ++ y) = .done () y :=
  many_spelled (fun p hp => readBy_comment (hps p hp)) hy.layout ((misses_comment hy).bind _)

theorem caseSeparators_spelled (hps : ∀ p ∈ ps, p.isComment = false) (hy : Stops isSeparator y) :
    caseSeparators (spelled ps ++ y) = .done () y := by
  refine many_spelled (fun p hp => ?_) (stops_isLayout hy) (misses_comma_word hy)
  cases p with
  | blank c hc => trivial
  | comma => exact word_singleton rfl
  | comment line hline => cases hps _ hp

theorem commaGap_spelled (ps : List Piece) (hy : Content y) :
    commaGap (spelled ps ++ y) = .done () y := by
  refine many_spelled (fun p _ => ?_) hy.layout
    (misses_orElse.mpr ⟨misses_comma_word hy.separator, (misses_comment hy).bind _⟩)
  cases p with
  | blank c hc => trivial
  | comma => exact fun t => orElse_of_done (word_singleton rfl t)
  | comment line hline =>
    intro t
    have hcomma : Misses (word ",") ('#' :: (line ++ '\n' :: t)) :=
      misses_comma_word (by simp [isSeparator, isLayout])
    refine orElse_of_misses hcomma ?_
    rw [bind_of_done (comment_line hline t), pure_apply]

theorem exists_spelled_of_within {P : Piece → Prop} (hblank : ∀ c h, P (.blank c h)) {w : List Char}
    (hw : Within isLayout w) : ∃ ps : List Piece, (∀ p ∈ ps, P p) ∧ spelled ps = w := by
  induction w with
  | nil => exact ⟨[], by simp, rfl⟩
  | cons c w ih =>
    obtain ⟨hc, hw⟩ := within_cons.mp hw
    obtain ⟨ps, hps, rfl⟩ := ih hw
    exact ⟨.blank c hc :: ps, List.forall_mem_cons.mpr ⟨hblank c hc, hps⟩, rfl⟩

theorem exists_comment_spelled {P : Piece → Prop} {line : List Char}
    (hcomment : ∀ line h, P (.comment line h)) (hps : ∀ p ∈ ps, P p) (hline : '\n' ∉ line)
    (hy : Stops isLayout y) (hend : Stops (· ≠ '\n') (spelled ps ++ y)) (hne : spelled ps ++ y ≠ []) :
    ∃ qs, (∀ p ∈ qs, P p) ∧ '#' :: (line ++ (spelled ps ++ y)) = spelled qs ++ y := by
  obtain ⟨c, x, hx⟩ := List.exists_cons_of_ne_nil hne
  obtain rfl : c = '\n' := by simpa [hx] using hend
  cases ps with
  | nil =>
    rw [spelled_nil, List.nil_append] at hx
    simp [hx, isLayout] at hy
  | cons p ps =>
    obtain ⟨-, hmore⟩ := List.forall_mem_cons.mp hps
    cases p with
    | blank c hc =>
      obtain rfl : c = '\n' := by simpa [Piece.text] using (List.cons.inj hx).1
      exact ⟨.comment line hline :: ps, List.forall_mem_cons.mpr ⟨hcomment line hline, hmore⟩,
        by simp [Piece.text]⟩
    | comma => simp [Piece.text] at hx
    | comment line' hline' => simp [Piece.text] at hx

/-- Where a gap ends: in front of the text that is left, or behind a last comment without line feed. -/
def GapEnds (y t : List Char) : Prop :=
  y = t ∨ (t = [] ∧ ∃ line, '\n' ∉ line ∧ y = '#' :: line)

theorem GapEnds.stops_layout (h : GapEnds y t) (ht : Stops isLayout t) : Stops isLayout y := by
  rcases h with rfl | ⟨-, line, -, rfl⟩
  · exact ht
  · simp [isLayout]

theorem exists_spelled_of_rounds {rule : Parser Unit} {P : Piece → Prop} {us : List Unit}
    (hblank : ∀ c h, P (.blank c h)) (hcomment : ∀ line h, P (.comment line h))
    (hrule : ∀ {s u t}, rule s = .done u t → (P .comma ∧ s = ',' :: t) ∨
      ∃ line, s = '#' :: (line ++ t) ∧ '\n' ∉ line ∧ Stops (· ≠ '\n') t)
    (h : Rounds (orElse (skipSome isLayout) rule) us s t) :
    ∃ ps y, (∀ p ∈ ps, P p) ∧ s = spelled ps ++ y ∧ GapEnds y t := by
  have hstops : Stops isLayout t := misses_skipSome.mp (misses_orElse.mp h.misses).1
  induction h with
  | @stop s hmiss => exact ⟨[], s, by simp, rfl, .inl rfl⟩
  | next hread hlt hrest ih =>
    obtain ⟨ps, y, hps, rfl, hends⟩ := ih hstops
    rcases orElse_eq_done.mp hread with hlayout | ⟨-, hsign⟩
    · obtain ⟨w, rfl, -, hw, -⟩ := skipSome_eq_done.mp hlayout
      obtain ⟨qs, hqs, rfl⟩ := exists_spelled_of_within hblank hw
      exact ⟨qs ++ ps, y, List.forall_mem_append.mpr ⟨hqs, hps⟩, by simp, hends⟩
    · rcases hrule hsign with ⟨hcomma, rfl⟩ | ⟨line, rfl, hline, hend⟩
      · exact ⟨.comma :: ps, y, List.forall_mem_cons.mpr ⟨hcomma, hps⟩, rfl, hends⟩
      · by_cases hnil : spelled ps ++ y = []
        · obtain ⟨-, rfl⟩ := List.append_eq_nil_iff.mp hnil
          have ht : [] = _ := hends.resolve_right (by simp)
          refine ⟨[], '#' :: line, by simp, by simp [hnil], .inr ⟨ht.symm, line, hline, rfl⟩⟩
        · obtain ⟨qs, hqs, heq⟩ :=
            exists_comment_spelled hcomment hps hline (hends.stops_layout hstops) hend hnil
          exact ⟨qs, y, hqs, heq, hends⟩

theorem exists_line_of_comment {u : Unit} (h : (do let _ ← comment : Parser Unit) s = .done u t) :
    ∃ line, s = '#' :: (line ++ t) ∧ '\n' ∉ line ∧ Stops (· ≠ '\n') t := by
  obtain ⟨text, x, hcomment, hx⟩ := bind_eq_done.mp h
  obtain ⟨-, rfl⟩ := pure_eq_done.mp hx
  obtain ⟨line, hs, hline, hend, -⟩ := comment_eq_done.mp hcomment
  exact ⟨line, hs, hline, hend⟩

theorem exists_spelled_of_gap {u : Unit} (h : gap s = .done u t) :
    ∃ ps y, (∀ p ∈ ps, p.isComma = false) ∧ s = spelled ps ++ y ∧ GapEnds y t := by
  simp only [gap, bind_eq_done, many_eq_done, pure_eq_done] at h
  obtain ⟨us, _, hrounds, -, rfl⟩ := h
  apply exists_spelled_of_rounds (fun _ _ => rfl) (fun _ _ => rfl) _ hrounds
  exact fun hsign => .inr (exists_line_of_comment hsign)

theorem exists_spelled_of_commaGap {u : Unit} (h : commaGap s = .done u t) :
    ∃ ps y, s = spelled ps ++ y ∧ GapEnds y t := by
  simp only [commaGap, bind_eq_done, many_eq_done, pure_eq_done] at h
  obtain ⟨us, _, hrounds, -, rfl⟩ := h
  have hpieces : ∃ ps y, (∀ p ∈ ps, True) ∧ s = spelled ps ++ y ∧ GapEnds y t := by
    apply exists_spelled_of_rounds (fun _ _ => trivial) (fun _ _ => trivial) _ hrounds
    intro s u t hsign
    rcases orElse_eq_done.mp hsign with hcomma | ⟨-, hcomment⟩
    · exact .inl ⟨trivial, word_eq_done.mp hcomma⟩
    · exact .inr (exists_line_of_comment hcomment)
  obtain ⟨ps, y, -, hs, hends⟩ := hpieces
  exact ⟨ps, y, hs, hends⟩

/-! ### Preambles -/

theorem exists_rounds_spelled (hps : ∀ p ∈ ps, p.isComma = false) (hy : Stops isLayout y)
    (hcomment : y.head? ≠ some '#') (hdirective : y.head? ≠ some '%') :
    ∃ z, skip isLayout (spelled ps ++ y) = .done () z ∧
      Rounds preambleLine ((ps.filterMap Piece.comment?).map .comment) z y := by
  induction ps with
  | nil => exact ⟨y, skip_of_stops hy, .stop (misses_preambleLine_of_head? hcomment hdirective)⟩
  | cons p ps ih =>
    obtain ⟨hp, hrest⟩ := List.forall_mem_cons.mp hps
    obtain ⟨z, hskip, hrounds⟩ := ih hrest
    have hskip_cons : ∀ c, isLayout c → skip isLayout (c :: (spelled ps ++ y)) = .done () z := by
      intro c hc
      rw [← hskip, skip, skip, List.dropWhile_cons_of_pos hc]
    cases p with
    | blank c hc => exact ⟨z, hskip_cons c hc, hrounds⟩
    | comma => cases hp
    | comment line hline =>
      have hsign : Stops isLayout ('#' :: (line ++ '\n' :: (spelled ps ++ y))) := by simp [isLayout]
      have hread : preambleLine ('#' :: (line ++ '\n' :: (spelled ps ++ y))) =
          .done (.comment (String.ofList (Text.trim line))) z :=
        preambleLine_eq_done.mpr ⟨_, hskip_cons '\n' rfl, .inl ⟨_, rfl, comment_line hline _⟩⟩
      refine ⟨_, ?_, .next hread ?_ hrounds⟩
      · simpa [Piece.text] using skip_of_stops hsign
      · obtain ⟨v, hv, -, -⟩ := skip_eq_done.mp hskip
        simp only [hv, List.length_cons, List.length_append]
        omega

theorem exists_preamble_spelled (hps : ∀ p ∈ ps, p.isComma = false) (hy : Stops isLayout y)
    (hcomment : y.head? ≠ some '#') (hdirective : y.head? ≠ some '%') :
    ∃ z, skip isLayout (spelled ps ++ y) = .done () z ∧
      preamble z = .done ⟨ps.filterMap Piece.comment?, ∅⟩ y := by
  obtain ⟨z, hskip, hrounds⟩ := exists_rounds_spelled hps hy hcomment hdirective
  refine ⟨z, hskip, preamble_eq_done.mpr ⟨_, hrounds, ?_⟩⟩
  rw [Preamble.ofLines, foldl_add_comments]
  rfl

end ValueTypes.Source
