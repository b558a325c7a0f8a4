import ValueTypes.Proofs.Source.TypeName

/-! The grammar of type texts, and that exactly these texts are read as types. -/

namespace ValueTypes.Source

open ValueTypes.Parser

variable {s r : List Char}

/-- Angle brackets with generic arguments or with one protocol, and how they are spelled in a
reference. A single `id` is a generic argument. -/
inductive BracketText (type : TypeExpr → List Char → Prop) :
    Option String → List TypeExpr → String → List Char → Prop where
  | none : BracketText type none [] "" []
  | generics {types : List TypeExpr} {b w v w' : List Char} (hb : Within isInlineBlank b)
      (hw : Within isLayout w) (htypes : CommaSeparated type types v)
      (hpointers : ∀ t ∈ types, t.isPointer) (hw' : Within isLayout w') :
      BracketText type none types
        ("<" ++ String.intercalate ", " (types.map (·.reference)) ++ ">")
        (b ++ '<' :: w ++ v ++ w' ++ ['>'])
  | protocol {name : String} {b w w' : List Char} (hb : Within isInlineBlank b)
      (hw : Within isLayout w) (hname : IsIdentifier name) (hid : name ≠ "id")
      (hw' : Within isLayout w') :
      BracketText type (some name) [] ("<" ++ name ++ ">") (b ++ '<' :: w ++ name.toList ++ w' ++ ['>'])

inductive UnderlyingText : Option String → List Char → Prop where
  | none : UnderlyingText none []
  | some {name : String} {b w w' : List Char} (hb : Within isInlineBlank b)
      (hw : Within isInlineBlank w) (hname : IsIdentifier name) (hw' : Within isInlineBlank w') :
      UnderlyingText (some name) (b ++ '(' :: w ++ name.toList ++ w' ++ [')'])

inductive StarText : Bool → List Char → Prop where
  | none : StarText false []
  | some {b : List Char} (hb : Within isInlineBlank b) : StarText true (b ++ ['*'])

inductive TypeText : TypeExpr → List Char → Prop where
  | intro {t : TypeExpr} {brackets : String} {star : Bool} {n a u e : List Char}
      (hname : NameText t.name n)
      (hbrackets : BracketText TypeText t.protocol t.generics brackets a)
      (hunderlying : UnderlyingText t.underlying u) (hstar : StarText star e)
      (hreference : t.reference = t.name ++ brackets ++ if star then "*" else "")
      (hpointer : t.isPointer ↔ star ∨ t.name = "id") : TypeText t (n ++ a ++ u ++ e)

structure TypeEnds (t : TypeExpr) (r : List Char) : Prop where
  name : t.reference = t.name → t.underlying = none → NameEnds t.name r
  brackets : NextIsNot '<' r
  underlying : NextIsNot '(' r
  star : NextIsNot '*' r

/-! ### The optional parts -/

def Opens (sign : Char) (a : List Char) : Prop :=
  a = [] ∨ ∃ b t, a = b ++ sign :: t ∧ Within isInlineBlank b

theorem Opens.nextIsNot {sign c : Char} {a : List Char} (h : Opens sign a)
    (hsign : isInlineBlank sign = false) (hne : sign ≠ c) (hr : NextIsNot c r) :
    NextIsNot c (a ++ r) := by
  obtain rfl | ⟨b, t, rfl, hb⟩ := h
  · exact hr
  · rw [List.append_assoc, nextIsNot_append hb, List.cons_append, nextIsNot_cons hsign]
    exact hne

theorem Opens.nameEnds {sign : Char} {a : List Char} {name : String} (h : Opens sign a)
    (hsign : isLayout sign = false) (hword : isWordChar sign = false)
    (hr : a = [] → NameEnds name r) : NameEnds name (a ++ r) := by
  obtain rfl | ⟨b, t, rfl, hb⟩ := h
  · exact hr rfl
  · have hstart : isWordStart sign = false := by
      by_contra hstart
      simp [isWordChar_of_isWordStart (by simpa using hstart)] at hword
    have hblank : Stops isInlineBlank (sign :: (t ++ r)) := stops_isInlineBlank (by simpa using hsign)
    rw [List.append_assoc, List.cons_append]
    refine ⟨?_, fun w hnext => absurd hnext (not_nextWord ?_)⟩
    · cases b with
      | nil => simpa using hword
      | cons c b => exact stops_isWordChar_blank hb (by simp) _
    · rw [dropWhile_within_append hb hblank]
      simpa using hstart

theorem BracketText.opens {type : TypeExpr → List Char → Prop} {protocol : Option String}
    {types : List TypeExpr} {brackets : String} {a : List Char}
    (h : BracketText type protocol types brackets a) : Opens '<' a := by
  cases h with
  | none => exact .inl rfl
  | @generics _ b w v w' hb hw htypes hpointers hw' =>
    exact .inr ⟨b, w ++ v ++ w' ++ ['>'], by simp, hb⟩
  | @protocol name b w w' hb hw hname hid hw' =>
    exact .inr ⟨b, w ++ name.toList ++ w' ++ ['>'], by simp, hb⟩

theorem UnderlyingText.opens {o : Option String} {u : List Char} (h : UnderlyingText o u) :
    Opens '(' u := by
  cases h with
  | none => exact .inl rfl
  | @some name b w w' hb hw hname hw' =>
    exact .inr ⟨b, w ++ name.toList ++ w' ++ [')'], by simp, hb⟩

theorem StarText.opens {star : Bool} {e : List Char} (h : StarText star e) : Opens '*' e := by
  cases h with
  | none => exact .inl rfl
  | @some b hb => exact .inr ⟨b, [], rfl, hb⟩

theorem optional_underlyingType_append {o : Option String} {u : List Char}
    (h : UnderlyingText o u) (hr : NextIsNot '(' r) :
    optional (inline underlyingType) (u ++ r) = .done o r := by
  cases h with
  | none => exact optional_of_misses (misses_inline_bind ((misses_inline_word rfl).mpr hr))
  | @some name b w w' hb hw hname hw' =>
    have hopen : Stops isInlineBlank ('(' :: (w ++ (name.toList ++ (w' ++ ')' :: r)))) := by
      simp [isInlineBlank]
    have hclose : Stops isInlineBlank (')' :: r) := by simp [isInlineBlank]
    have hend : Stops isWordChar (w' ++ ')' :: r) := by
      cases w' with
      | nil => simp [isWordChar]
      | cons c w' => exact stops_isWordChar_blank hw' (by simp) _
    have hstart := stops_isInlineBlank (hname.stops_layout (w' ++ ')' :: r))
    apply optional_of_done
    simp only [List.append_assoc, List.cons_append, List.nil_append]
    rw [inline_append hb hopen, underlyingType, bind_of_done (word_singleton rfl _),
      bind_of_done (commit_eq_done.mpr ((inline_append hw hstart).trans (identifier_append hname hend))),
      bind_of_done (commit_eq_done.mpr ((inline_append hw' hclose).trans (word_singleton rfl r))),
      pure_apply]

theorem underlyingText_of_optional {o : Option String}
    (h : optional (inline underlyingType) s = .done o r) : ∃ u, s = u ++ r ∧ UnderlyingText o u := by
  obtain ⟨name, rfl, hread⟩ | ⟨rfl, rfl, -⟩ := optional_eq_done.mp h
  · simp only [underlyingType, inline_eq_done, bind_eq_done, word_eq_done, commit_eq_done,
      identifier_eq_done, pure_eq_done] at hread
    obtain ⟨b, _, rfl, hb, -, _, _, rfl, _, _, ⟨w, _, rfl, hw, -, hname, rfl, -⟩, _, _,
      ⟨w', _, rfl, hw', -, rfl⟩, rfl, rfl⟩ := hread
    exact ⟨_, by simp, .some hb hw hname hw'⟩
  · exact ⟨[], rfl, .none⟩

theorem optional_star_append {star : Bool} {e : List Char} (h : StarText star e)
    (hr : NextIsNot '*' r) :
    ∃ o, optional (inline (word "*")) (e ++ r) = .done o r ∧ o.isSome = star := by
  cases h with
  | none => exact ⟨none, optional_of_misses ((misses_inline_word rfl).mpr hr), rfl⟩
  | @some b hb =>
    have hstar : Stops isInlineBlank ('*' :: r) := by simp [isInlineBlank]
    refine ⟨some (), optional_of_done ?_, rfl⟩
    rw [List.append_assoc, List.singleton_append, inline_append hb hstar, word_singleton rfl r]

theorem starText_of_optional {o : Option Unit} (h : optional (inline (word "*")) s = .done o r) :
    ∃ e, s = e ++ r ∧ StarText o.isSome e := by
  obtain ⟨u, rfl, hread⟩ | ⟨rfl, rfl, -⟩ := optional_eq_done.mp h
  · obtain ⟨b, t, rfl, hb, -, hword⟩ := inline_eq_done.mp hread
    obtain rfl := word_eq_done.mp hword
    exact ⟨b ++ ['*'], by simp, .some hb⟩
  · exact ⟨[], rfl, .none⟩

/-! ### Angle brackets -/

theorem TypeText.stops_layout {t : TypeExpr} {u : List Char} (h : TypeText t u) (x : List Char) :
    Stops isLayout (u ++ x) := by
  cases h with
  | intro hname =>
    simp only [List.append_assoc]
    exact hname.stops_layout _

theorem typeText_bare {name : String} (hname : IsIdentifier name) (isPointer : Bool)
    (hpointer : isPointer ↔ name = "id") :
    TypeText ⟨name, name, none, none, [], isPointer⟩ name.toList := by
  have htext : TypeText ⟨name, name, none, none, [], isPointer⟩ (name.toList ++ [] ++ [] ++ []) :=
    .intro (.identifier hname) .none .none .none (by simp) (by simpa using hpointer)
  simpa using htext

theorem pointerArgument_eq_done {type : Parser TypeExpr} {t : TypeExpr} :
    pointerArgument type s = .done t r ↔ type s = .done t r ∧ t.isPointer := by
  rw [pointerArgument, expecting_eq_done, ensuring_eq_done]

theorem argumentList_eq_done {type : Parser TypeExpr} {args : Arguments} :
    argumentList type s = .done args r ↔
      (∃ types, args = .generics types ∧ sepBy1 comma (pointerArgument type) s = .done types r) ∨
      (∃ name, args = .protocol name ∧ Misses (sepBy1 comma (pointerArgument type)) s ∧
        identifier s = .done name r) := by
  simp only [argumentList, orElse_eq_done, bind_eq_done, misses_bind, pure_eq_done]
  grind [Misses, pure_apply]

theorem typeArguments_eq_done {type : Parser TypeExpr} {args : Arguments} :
    inline (typeArguments type) s = .done args r ↔
      ∃ b w x w', s = b ++ '<' :: (w ++ x) ∧ Within isInlineBlank b ∧ Within isLayout w ∧
        Stops isLayout x ∧ argumentList type x = .done args (w' ++ '>' :: r) ∧
        Within isLayout w' := by
  simp only [typeArguments, inline_eq_done, bind_eq_done, word_eq_done, commit_eq_done,
    skip_eq_done, pure_eq_done]
  constructor
  · rintro ⟨b, _, rfl, hb, -, _, _, rfl, _, x, ⟨w, rfl, hw, hx⟩, args', _, hargs, _, _,
      ⟨_, _, ⟨w', rfl, hw', -⟩, rfl⟩, rfl, rfl⟩
    exact ⟨b, w, x, w', rfl, hb, hw, hx, hargs, hw'⟩
  · rintro ⟨b, w, x, w', rfl, hb, hw, hx, hargs, hw'⟩
    refine ⟨b, _, rfl, hb, by simp [isInlineBlank], (), w ++ x, rfl, (), x, ⟨w, rfl, hw, hx⟩, args,
      _, hargs, (), r, ⟨(), '>' :: r, ⟨w', rfl, hw', by simp [isLayout]⟩, rfl⟩, rfl, rfl⟩

theorem atBreak_close {w : List Char} (hw : Within isLayout w) : AtBreak (w ++ '>' :: r) :=
  (atBreak_append hw).mpr (atBreak_cons (.inr (.inl rfl)))

theorem head?_close {w : List Char} (hw : Within isLayout w) :
    ((w ++ '>' :: r).dropWhile isLayout).head? ≠ some ',' := by
  rw [dropWhile_within_append hw (by simp [isLayout]), List.head?_cons]
  simp

theorem optional_typeArguments_append {type : Parser TypeExpr} {protocol : Option String}
    {types : List TypeExpr} {brackets : String} {a : List Char}
    (h : BracketText TypeText protocol types brackets a)
    (htype : ∀ t u x, TypeText t u → (u ++ x).length < (a ++ r).length → AtBreak x →
      type (u ++ x) = .done t x) (hr : NextIsNot '<' r) :
    ∃ o, optional (inline (typeArguments type)) (a ++ r) = .done o r ∧
      (o.getD .none).protocol? = protocol ∧ (o.getD .none).types = types ∧
      (o.getD .none).text = brackets := by
  cases h with
  | none =>
    exact ⟨none, optional_of_misses (misses_inline_bind ((misses_inline_word rfl).mpr hr)), rfl, rfl,
      rfl⟩
  | @generics _ b w v w' hb hw htypes hpointers hw' =>
    have hitems : CommaSeparated (fun t u => TypeText t u ∧ t.isPointer) types v :=
      htypes.imp fun t ht u _ h => ⟨h, hpointers t ht⟩
    have hlist : sepBy1 comma (pointerArgument type) (v ++ (w' ++ '>' :: r)) =
        .done types (w' ++ '>' :: r) := by
      refine sepBy1_comma_append hitems (fun _ _ x h => h.1.stops_layout x)
        (fun t u x h hle hx => pointerArgument_eq_done.mpr ⟨htype t u x h.1 ?_ hx, h.2⟩)
        (atBreak_close hw') (head?_close hw')
      simp only [List.length_append, List.length_cons] at hle ⊢
      omega
    refine ⟨some (.generics types), optional_of_done (typeArguments_eq_done.mpr ?_), rfl, rfl, rfl⟩
    exact ⟨b, w, v ++ (w' ++ '>' :: r), w', by simp, hb, hw,
      htypes.stops_layout (fun _ _ x h => h.stops_layout x) _,
      argumentList_eq_done.mpr (.inl ⟨types, rfl, hlist⟩), hw'⟩
  | @protocol name b w w' hb hw hname hid hw' =>
    have hbreak := atBreak_close (r := r) hw'
    have hbare := htype _ _ (w' ++ '>' :: r) (typeText_bare hname false (by simpa using hid))
      (by simp only [List.length_append, List.length_cons]; omega) hbreak
    have hmiss : Misses (pointerArgument type) (name.toList ++ (w' ++ '>' :: r)) :=
      misses_expecting.mpr (misses_ensuring.mpr (.inr ⟨_, _, hbare, rfl⟩))
    refine ⟨some (.protocol name), optional_of_done (typeArguments_eq_done.mpr ?_), rfl, rfl, rfl⟩
    exact ⟨b, w, name.toList ++ (w' ++ '>' :: r), w', by simp, hb, hw, hname.stops_layout _,
      argumentList_eq_done.mpr (.inr ⟨name, rfl, hmiss.bind _,
        identifier_append hname hbreak.stops_isWordChar⟩), hw'⟩

theorem bracketText_of_optional {type : Parser TypeExpr} {o : Option Arguments}
    (htype : ∀ t x x', type x = .done t x' → ∃ u, x = u ++ x' ∧ TypeText t u)
    (hid : ∀ x, ("id".toList ++ x).length < s.length → AtBreak x →
      ∃ t, type ("id".toList ++ x) = .done t x ∧ t.isPointer)
    (h : optional (inline (typeArguments type)) s = .done o r) :
    ∃ a, s = a ++ r ∧ BracketText TypeText (o.getD .none).protocol? (o.getD .none).types
      (o.getD .none).text a := by
  obtain ⟨args, rfl, hread⟩ | ⟨rfl, rfl, -⟩ := optional_eq_done.mp h
  · obtain ⟨b, w, x, w', rfl, hb, hw, -, hargs, hw'⟩ := typeArguments_eq_done.mp hread
    obtain ⟨types, rfl, hlist⟩ | ⟨name, rfl, hmiss, hname⟩ := argumentList_eq_done.mp hargs
    · have hitem : ∀ t x x', pointerArgument type x = .done t x' →
          ∃ u, x = u ++ x' ∧ TypeText t u ∧ t.isPointer := by
        intro t x x' hx
        obtain ⟨hx, hpointer⟩ := pointerArgument_eq_done.mp hx
        obtain ⟨u, rfl, hu⟩ := htype t x x' hx
        exact ⟨u, rfl, hu, hpointer⟩
      obtain ⟨v, rfl, hv⟩ := commaSeparated_of_sepBy1 hlist hitem
      exact ⟨b ++ '<' :: w ++ v ++ w' ++ ['>'], by simp,
        .generics hb hw (hv.imp fun t _ u _ h => h.1) (hv.forall_mem fun _ _ h => h.2) hw'⟩
    · obtain ⟨hident, rfl, -⟩ := identifier_eq_done.mp hname
      refine ⟨b ++ '<' :: w ++ name.toList ++ w' ++ ['>'], by simp, .protocol hb hw hident ?_ hw'⟩
      -- A lone `id` is a pointer, so it would have been read as a generic argument.
      rintro rfl
      have hbreak := atBreak_close (r := r) hw'
      obtain ⟨t, ht, hpointer⟩ := hid (w' ++ '>' :: r)
        (by simp only [List.length_append, List.length_cons]; omega) hbreak
      have hmany : many (do comma; pointerArgument type) (w' ++ '>' :: r) =
          .done [] (w' ++ '>' :: r) :=
        many_eq_done.mpr (.stop ((misses_comma (head?_close hw')).bind _))
      refine hmiss.ne_done [t] (w' ++ '>' :: r) ?_
      rw [sepBy1, bind_of_done (pointerArgument_eq_done.mpr ⟨ht, hpointer⟩), bind_of_done hmany,
        pure_apply]
  · exact ⟨[], rfl, .none⟩

/-! ### Types -/

theorem TypeEnds.of_atBreak (h : AtBreak r) (t : TypeExpr) : TypeEnds t r := by
  have hnext : ∀ c, isLayout c = false → c ≠ ',' → c ≠ '>' → c ≠ ')' → NextIsNot c r := by
    intro c hlayout h₁ h₂ h₃ hc
    have hbreak := h.next hc
    simp [hlayout, h₁, h₂, h₃] at hbreak
  have hword : Stops isWordStart (r.dropWhile isInlineBlank) := by
    intro c hc
    by_contra hstart
    have hchar := isWordChar_of_isWordStart (by simpa using hstart)
    obtain hlayout | rfl | rfl | rfl := h.next hc
    · simp [isLayout_eq_false_of_isWordChar hchar] at hlayout
    all_goals exact absurd hchar (by decide)
  exact ⟨fun _ _ => ⟨h.stops_isWordChar, fun w hw => absurd hw (not_nextWord hword)⟩,
    hnext _ rfl (by decide) (by decide) (by decide), hnext _ rfl (by decide) (by decide) (by decide),
    hnext _ rfl (by decide) (by decide) (by decide)⟩

theorem BracketText.eq_nil_iff {type : TypeExpr → List Char → Prop} {protocol : Option String}
    {types : List TypeExpr} {brackets : String} {a : List Char}
    (h : BracketText type protocol types brackets a) : brackets = "" ↔ a = [] := by
  cases h <;> simp [String.append_assoc]

theorem UnderlyingText.eq_nil_iff {o : Option String} {u : List Char} (h : UnderlyingText o u) :
    o = Option.none ↔ u = [] := by
  cases h <;> simp

theorem StarText.eq_nil_iff {star : Bool} {e : List Char} (h : StarText star e) :
    star = false ↔ e = [] := by
  cases h <;> simp

theorem reference_eq_name_iff {name brackets : String} {star : Bool} :
    (name ++ brackets ++ if star then "*" else "") = name ↔ brackets = "" ∧ star = false := by
  rw [← String.toList_inj]
  cases star <;> simp

theorem make_eq {t : TypeExpr} {args : Arguments} {star : Bool}
    (hprotocol : args.protocol? = t.protocol) (hgenerics : args.types = t.generics)
    (hreference : t.reference = t.name ++ args.text ++ if star then "*" else "")
    (hpointer : t.isPointer ↔ star ∨ t.name = "id") :
    TypeExpr.make t.name args t.underlying star = t := by
  cases t with
  | mk name reference underlying protocol generics isPointer =>
    have hpointer' : (star || name == "id") = isPointer := by
      rw [Bool.eq_iff_iff]
      simpa using hpointer.symm
    simp only at hprotocol hgenerics hreference
    simp only [TypeExpr.make, hprotocol, hgenerics, hreference, hpointer']

theorem typeExprRule_append {type : Parser TypeExpr} {t : TypeExpr} {v : List Char}
    (h : TypeText t v)
    (htype : ∀ t' u x, TypeText t' u → (u ++ x).length < (v ++ r).length → AtBreak x →
      type (u ++ x) = .done t' x) (hr : TypeEnds t r) :
    typeExprRule type (v ++ r) = .done t r := by
  cases h with
  | @intro _ brackets star n a u e hname hbrackets hunderlying hstar hreference hpointer =>
    obtain ⟨starred, hstarred, rfl⟩ := optional_star_append hstar hr.star
    have hunder := optional_underlyingType_append (r := e ++ r) hunderlying
      (hstar.opens.nextIsNot rfl (by decide) hr.underlying)
    have hinner : ∀ t' u' x, TypeText t' u' → (u' ++ x).length < (a ++ (u ++ (e ++ r))).length →
        AtBreak x → type (u' ++ x) = .done t' x := by
      intro t' u' x hu' hlt
      refine htype t' u' x hu' (lt_of_lt_of_le hlt ?_)
      simp only [List.length_append]
      omega
    obtain ⟨args, hargs, hprotocol, hgenerics, rfl⟩ := optional_typeArguments_append hbrackets hinner
      (hunderlying.opens.nextIsNot rfl (by decide)
        (hstar.opens.nextIsNot rfl (by decide) hr.brackets))
    have hends : NameEnds t.name (a ++ (u ++ (e ++ r))) := by
      refine hbrackets.opens.nameEnds rfl rfl fun ha => hunderlying.opens.nameEnds rfl rfl fun hu =>
        hstar.opens.nameEnds rfl rfl fun he => hr.name ?_ (hunderlying.eq_nil_iff.mpr hu)
      rw [hreference, reference_eq_name_iff]
      exact ⟨hbrackets.eq_nil_iff.mpr ha, hstar.eq_nil_iff.mpr he⟩
    simp only [List.append_assoc]
    rw [typeExprRule, bind_of_done (typeName_append hname hends), bind_of_done hargs,
      bind_of_done hunder, bind_of_done hstarred, pure_apply,
      make_eq hprotocol hgenerics hreference hpointer]

theorem typeText_of_typeExprRule {type : Parser TypeExpr} {t : TypeExpr}
    (htype : ∀ t x x', type x = .done t x' → ∃ u, x = u ++ x' ∧ TypeText t u)
    (hid : ∀ x, ("id".toList ++ x).length < s.length → AtBreak x →
      ∃ t, type ("id".toList ++ x) = .done t x ∧ t.isPointer)
    (h : typeExprRule type s = .done t r) :
    ∃ u, s = u ++ r ∧ TypeText t u ∧
      (t.reference = t.name → t.underlying = none → NameEnds t.name r) := by
  simp only [typeExprRule, bind_eq_done, pure_eq_done] at h
  obtain ⟨name, s₁, hread, args, s₂, hargs, underlying, s₃, hunder, star, s₄, hstar, rfl, rfl⟩ := h
  obtain ⟨n, rfl, hname, hends⟩ := typeName_eq_done.mp hread
  have hid' : ∀ x, ("id".toList ++ x).length < s₁.length → AtBreak x →
      ∃ t, type ("id".toList ++ x) = .done t x ∧ t.isPointer := by
    intro x hlt
    refine hid x (lt_of_lt_of_le hlt ?_)
    simp
  obtain ⟨a, rfl, hbrackets⟩ := bracketText_of_optional htype hid' hargs
  obtain ⟨u, rfl, hunderlying⟩ := underlyingText_of_optional hunder
  obtain ⟨e, rfl, hstarred⟩ := starText_of_optional hstar
  refine ⟨n ++ a ++ u ++ e, by simp,
    .intro hname hbrackets hunderlying hstarred rfl (by simp [TypeExpr.make]), ?_⟩
  intro href hnone
  obtain ⟨ha, he⟩ := reference_eq_name_iff.mp href
  have hnil := hunderlying.eq_nil_iff.mp hnone
  rw [hbrackets.eq_nil_iff.mp ha, hstarred.eq_nil_iff.mp he, hnil] at hends
  exact hends

theorem typeExpr_append {t : TypeExpr} {v : List Char} (h : TypeText t v) (hr : TypeEnds t r) :
    typeExpr (v ++ r) = .done t r := by
  -- The types inside the brackets stand in a shorter text.
  induction hn : (v ++ r).length using Nat.strong_induction_on generalizing t v r with
  | _ n ih =>
    subst hn
    rw [typeExpr, nested_eq]
    refine typeExprRule_append h (fun t' u x hu hlt hx => ?_) hr
    rw [if_pos hlt]
    exact ih _ hlt hu (.of_atBreak hx t') rfl

theorem typeText_of_typeExpr {t : TypeExpr} (h : typeExpr s = .done t r) :
    ∃ u, s = u ++ r ∧ TypeText t u ∧
      (t.reference = t.name → t.underlying = none → NameEnds t.name r) := by
  induction hn : s.length using Nat.strong_induction_on generalizing s t r with
  | _ n ih =>
    subst hn
    rw [typeExpr, nested_eq] at h
    refine typeText_of_typeExprRule (fun t' x x' hx => ?_) (fun x hlt hx => ?_) h
    · split at hx
      · rename_i hlt
        obtain ⟨u, rfl, hu, -⟩ := ih _ hlt hx rfl
        exact ⟨u, rfl, hu⟩
      · cases hx
    · have hid := typeText_bare (by decide : IsIdentifier "id") true (by simp)
      rw [if_pos hlt]
      exact ⟨_, typeExpr_append hid (.of_atBreak hx _), rfl⟩

theorem wholeTypeExpr_eq_done {t : TypeExpr} :
    wholeTypeExpr s = .done t r ↔
      ∃ before text after, s = before ++ text ++ after ∧ Within isLayout before ∧ TypeText t text ∧
        Within isLayout after ∧ r = [] := by
  simp only [wholeTypeExpr, bind_eq_done, skip_eq_done, endOfInput_eq_done, pure_eq_done]
  constructor
  · rintro ⟨_, _, ⟨before, rfl, hbefore, -⟩, t', _, htype, _, _, ⟨after, rfl, hafter, -⟩, _, _,
      ⟨rfl, rfl⟩, rfl, rfl⟩
    obtain ⟨text, rfl, htext, -⟩ := typeText_of_typeExpr htype
    exact ⟨before, text, after, by simp, hbefore, htext, hafter, rfl⟩
  · rintro ⟨before, text, after, rfl, hbefore, htext, hafter, rfl⟩
    have hbreak : AtBreak after := by
      have h := (atBreak_append (r := []) hafter).mpr atBreak_nil
      rwa [List.append_nil] at h
    refine ⟨(), text ++ after, ⟨before, by simp, hbefore, htext.stops_layout after⟩, t, after,
      typeExpr_append htext (.of_atBreak hbreak t), (), [], ⟨after, by simp, hafter, by simp⟩, (), [],
      ⟨rfl, rfl⟩, rfl, rfl⟩

/-- A text is accepted as a type exactly if it is a text of that type with layout around it. -/
theorem typeExpr_parse_eq_ok_iff (source : String) (t : TypeExpr) :
    TypeExpr.parse source = .ok t ↔ ∃ before text after, source.toList = before ++ text ++ after ∧
      Within isLayout before ∧ TypeText t text ∧ Within isLayout after := by
  rw [TypeExpr.parse, parse_eq_ok]
  simp only [wholeTypeExpr_eq_done]
  grind

end ValueTypes.Source
