import ValueTypes.Proofs.Parser.Reports

/-! Reading in front of a longer text. As long as a given sign is still ahead, a parser does not notice
that the text goes on. -/

namespace ValueTypes.Parser

variable {α β : Type} {sign : Char} {s t : List Char}

/-- What is read with the sign ahead is read alike from every continuation of the text. -/
structure Extends (sign : Char) (p : Parser α) : Prop where
  suffix : ∀ {s a t}, p s = .done a t → t <:+ s
  reads : ∀ {s a t}, p s = .done a t → sign ∈ t → ∀ r, p (s ++ r) = .done a (t ++ r)

def MissesOn (sign : Char) (p : Parser α) : Prop :=
  ∀ ⦃s⦄, Misses p s → sign ∈ s → ∀ r, Misses p (s ++ r)

def Spares (sign : Char) (p : Parser α) : Prop :=
  ∀ ⦃s a t⦄, p s = .done a t → sign ∈ s → sign ∈ t

theorem Stops.append {cls : Char → Bool} (h : Stops cls t) (hne : t ≠ []) (r : List Char) :
    Stops cls (t ++ r) := by
  cases t with
  | nil => exact absurd rfl hne
  | cons c t => simpa using h

theorem mem_of_within_append {cls : Char → Bool} (hsign : cls sign = false) (hs : Within cls s)
    (h : sign ∈ s ++ t) : sign ∈ t := by
  rcases List.mem_append.mp h with hmem | hmem
  · have hcls := hs sign hmem
    simp [hsign] at hcls
  · exact hmem

theorem Reports.not_misses {progress : Bool} {halted : List Expected} {p : Parser α}
    (h : Reports progress [] halted p) : ¬ Misses p s := by
  rintro ⟨why, hread⟩
  cases (h.miss hread).2

/-! ### Sequences -/

theorem extends_pure (a : α) : Extends sign (pure a : Parser α) where
  suffix h := by
    obtain ⟨-, rfl⟩ := pure_eq_done.mp h
    exact List.suffix_refl _
  reads h _ r := by
    obtain ⟨rfl, rfl⟩ := pure_eq_done.mp h
    rfl

theorem Extends.bind {p : Parser α} {f : α → Parser β} (hp : Extends sign p)
    (hf : ∀ a, Extends sign (f a)) : Extends sign (p >>= f) where
  suffix h := by
    obtain ⟨a, x, hread, hrest⟩ := bind_eq_done.mp h
    exact ((hf a).suffix hrest).trans (hp.suffix hread)
  reads h hsign r := by
    obtain ⟨a, x, hread, hrest⟩ := bind_eq_done.mp h
    have hahead : sign ∈ x := ((hf a).suffix hrest).subset hsign
    rw [bind_of_done (hp.reads hread hahead r), (hf a).reads hrest hsign r]

theorem MissesOn.bind {p : Parser α} {f : α → Parser β} (hp : Extends sign p)
    (hspares : Spares sign p) (hmiss : MissesOn sign p) (hf : ∀ a, MissesOn sign (f a)) :
    MissesOn sign (p >>= f) := by
  intro s h hsign r
  obtain hfirst | ⟨a, x, hread, hrest⟩ := misses_bind.mp h
  · exact (hmiss hfirst hsign r).bind f
  · have hahead := hspares hread hsign
    exact .after (hp.reads hread hahead r) (hf a hrest hahead r)

theorem MissesOn.of_not_misses {p : Parser α} (h : ∀ s, ¬ Misses p s) : MissesOn sign p :=
  fun s hmiss _ _ => absurd hmiss (h s)

theorem Spares.bind {p : Parser α} {f : α → Parser β} (hp : Spares sign p)
    (hf : ∀ a, Spares sign (f a)) : Spares sign (p >>= f) := by
  intro s b t h hsign
  obtain ⟨a, x, hread, hrest⟩ := bind_eq_done.mp h
  exact hf a hrest (hp hread hsign)

/-- What follows may read over the sign if it never misses. -/
theorem MissesOn.bind_of_not_misses {p : Parser α} {f : α → Parser β} (hmiss : MissesOn sign p)
    (hf : ∀ a x, ¬ Misses (f a) x) : MissesOn sign (p >>= f) := by
  intro s h hsign r
  obtain hfirst | ⟨a, x, -, hrest⟩ := misses_bind.mp h
  · exact (hmiss hfirst hsign r).bind f
  · exact absurd hrest (hf a x)

/-! ### Choice -/

theorem Extends.commit {p : Parser α} (h : Extends sign p) : Extends sign (commit p) where
  suffix hread := h.suffix (commit_eq_done.mp hread)
  reads hread hsign r := commit_eq_done.mpr (h.reads (commit_eq_done.mp hread) hsign r)

theorem Extends.optional {p : Parser α} (h : Extends sign p) (hmiss : MissesOn sign p) :
    Extends sign (optional p) where
  suffix hread := by
    obtain ⟨a, -, hread⟩ | ⟨-, rfl, -⟩ := optional_eq_done.mp hread
    · exact h.suffix hread
    · exact List.suffix_refl _
  reads hread hsign r := by
    obtain ⟨a, rfl, hsome⟩ | ⟨rfl, rfl, hnone⟩ := optional_eq_done.mp hread
    · exact optional_of_done (h.reads hsome hsign r)
    · exact optional_of_misses (hmiss hnone hsign r)

theorem Extends.orElse {p q : Parser α} (hp : Extends sign p) (hmiss : MissesOn sign p)
    (hq : Extends sign q) : Extends sign (orElse p q) where
  suffix hread := by
    obtain hread | ⟨-, hread⟩ := orElse_eq_done.mp hread
    · exact hp.suffix hread
    · exact hq.suffix hread
  reads hread hsign r := by
    obtain hread | ⟨hnone, hread⟩ := orElse_eq_done.mp hread
    · exact orElse_of_done (hp.reads hread hsign r)
    · exact orElse_of_misses (hmiss hnone ((hq.suffix hread).subset hsign) r)
        (hq.reads hread hsign r)

theorem MissesOn.orElse {p q : Parser α} (hp : MissesOn sign p) (hq : MissesOn sign q) :
    MissesOn sign (orElse p q) := by
  intro s h hsign r
  obtain ⟨hnone, hnone'⟩ := misses_orElse.mp h
  exact misses_orElse.mpr ⟨hp hnone hsign r, hq hnone' hsign r⟩

theorem Extends.expecting {p : Parser α} (h : Extends sign p) (e : Expected) :
    Extends sign (expecting e p) where
  suffix hread := h.suffix (expecting_eq_done.mp hread)
  reads hread hsign r := expecting_eq_done.mpr (h.reads (expecting_eq_done.mp hread) hsign r)

theorem Extends.ensuring {p : Parser α} (h : Extends sign p) (e : Expected) (ok : α → Bool) :
    Extends sign (ensuring e ok p) where
  suffix hread := h.suffix (ensuring_eq_done.mp hread).1
  reads hread hsign r := by
    obtain ⟨hread, hok⟩ := ensuring_eq_done.mp hread
    exact ensuring_eq_done.mpr ⟨h.reads hread hsign r, hok⟩

/-! ### Characters -/

theorem extends_word (w : String) : Extends sign (word w) where
  suffix h := by
    rw [word_eq_done.mp h]
    exact List.suffix_append _ _
  reads h _ r := by
    rw [word_eq_done.mp h, List.append_assoc]
    exact word_append w _

theorem missesOn_word (w : String) {c : Char} (hw : w.toList = [c]) : MissesOn sign (word w) := by
  intro s h hsign r
  rw [misses_word, hw] at h ⊢
  cases s with
  | nil => cases hsign
  | cons d s => simpa using h

theorem missesOn_keyword (w : String) (hw : sign ∉ w.toList) : MissesOn sign (word w) := by
  intro s h hsign r
  rw [misses_word] at h ⊢
  intro hlonger
  have hshort : ¬ w.toList.length ≤ s.length := fun hle =>
    h (List.prefix_of_prefix_length_le hlonger (List.prefix_append s r) hle)
  have hs : s <+: w.toList :=
    List.prefix_of_prefix_length_le (List.prefix_append s r) hlonger (by omega)
  exact hw (hs.subset hsign)

theorem spares_word (w : String) (hw : sign ∉ w.toList) : Spares sign (word w) := by
  intro s u t h hsign
  rw [word_eq_done.mp h] at hsign
  exact (List.mem_append.mp hsign).resolve_left hw

theorem extends_run (cls : Char → Bool) : Extends sign (run cls) where
  suffix h := by
    obtain ⟨rfl, -, -⟩ := run_eq_done.mp h
    exact List.suffix_append _ _
  reads h hsign r := by
    obtain ⟨rfl, hv, ht⟩ := run_eq_done.mp h
    exact run_eq_done.mpr ⟨List.append_assoc .., hv, ht.append (List.ne_nil_of_mem hsign) r⟩

theorem extends_skip (cls : Char → Bool) : Extends sign (skip cls) where
  suffix h := by
    obtain ⟨v, rfl, -, -⟩ := skip_eq_done.mp h
    exact List.suffix_append _ _
  reads h hsign r := by
    obtain ⟨v, rfl, hv, ht⟩ := skip_eq_done.mp h
    exact skip_eq_done.mpr ⟨v, List.append_assoc .., hv, ht.append (List.ne_nil_of_mem hsign) r⟩

theorem spares_skip {cls : Char → Bool} (hsign : cls sign = false) : Spares sign (skip cls) := by
  intro s u t h hmem
  obtain ⟨v, rfl, hv, -⟩ := skip_eq_done.mp h
  exact mem_of_within_append hsign hv hmem

theorem extends_skipSome (cls : Char → Bool) : Extends sign (skipSome cls) where
  suffix h := by
    obtain ⟨v, rfl, -⟩ := skipSome_eq_done.mp h
    exact List.suffix_append _ _
  reads h hsign r := by
    obtain ⟨v, rfl, hne, hv, ht⟩ := skipSome_eq_done.mp h
    exact skipSome_eq_done.mpr
      ⟨v, List.append_assoc .., hne, hv, ht.append (List.ne_nil_of_mem hsign) r⟩

theorem missesOn_skipSome (cls : Char → Bool) : MissesOn sign (skipSome cls) := by
  intro s h hsign r
  exact misses_skipSome.mpr ((misses_skipSome.mp h).append (List.ne_nil_of_mem hsign) r)

theorem spares_skipSome {cls : Char → Bool} (hsign : cls sign = false) :
    Spares sign (skipSome cls) := by
  intro s u t h hmem
  obtain ⟨v, rfl, -, hv, -⟩ := skipSome_eq_done.mp h
  exact mem_of_within_append hsign hv hmem

/-! ### Repetition -/

theorem Rounds.suffix {p : Parser α} {as : List α} (hp : Extends sign p) (h : Rounds p as s t) :
    t <:+ s := by
  induction h with
  | stop h => exact List.suffix_refl _
  | next h hlt hrest ih => exact ih.trans (hp.suffix h)

theorem Rounds.extend {p : Parser α} {as : List α} {r : List Char} (hp : Extends sign p)
    (h : Rounds p as s t) (hsign : sign ∈ t) (hmiss : Misses p (t ++ r)) :
    Rounds p as (s ++ r) (t ++ r) := by
  induction h with
  | stop h => exact .stop hmiss
  | next h hlt hrest ih =>
    have hahead := (hrest.suffix hp).subset hsign
    exact .next (hp.reads h hahead r) (by simpa using hlt) (ih hsign hmiss)

theorem Extends.many {p : Parser α} (hp : Extends sign p) (hmiss : MissesOn sign p) :
    Extends sign (many p) where
  suffix h := (many_eq_done.mp h).suffix hp
  reads h hsign r := by
    have hrounds := many_eq_done.mp h
    exact many_eq_done.mpr (hrounds.extend hp hsign (hmiss hrounds.misses hsign r))

theorem Extends.sepBy {sep : Parser Unit} {p : Parser α} (hsep : Extends sign sep)
    (hp : Extends sign p) (hmiss : MissesOn sign (do sep; p)) (hmiss' : MissesOn sign (sepBy1 sep p)) :
    Extends sign (sepBy sep p) := by
  have hmore : Extends sign (Parser.many do sep; p) := (hsep.bind fun _ => hp).many hmiss
  have hsome : Extends sign (sepBy1 sep p) :=
    hp.bind fun _ => hmore.bind fun _ => extends_pure _
  exact (hsome.optional hmiss').bind fun _ => extends_pure _

end ValueTypes.Parser
