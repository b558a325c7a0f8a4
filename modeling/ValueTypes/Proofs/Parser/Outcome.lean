import Mathlib.Data.List.TakeWhile
import ValueTypes.Parser.Position
import ValueTypes.Parser.Repetition

/-! What each parser reads and where it misses, in terms of the text alone. -/

namespace ValueTypes.Parser

variable {α β : Type} {s t r : List Char}

def Stops (cls : Char → Bool) (s : List Char) : Prop := ∀ c ∈ s.head?, cls c = false

@[simp] theorem stops_nil (cls : Char → Bool) : Stops cls [] := by simp [Stops]

@[simp] theorem stops_cons {cls : Char → Bool} {c : Char} : Stops cls (c :: s) ↔ cls c = false := by
  simp [Stops]

theorem Stops.mono {cls cls' : Char → Bool} (h : Stops cls s) (hle : ∀ c, cls' c → cls c) :
    Stops cls' s := by
  intro c hc
  have hcls := h c hc
  by_contra hne
  simp [hle c (by simpa using hne)] at hcls

def Within (cls : Char → Bool) (s : List Char) : Prop := ∀ c ∈ s, cls c

instance (cls : Char → Bool) (s : List Char) : Decidable (Within cls s) :=
  decidable_of_iff (s.all cls = true) List.all_eq_true

@[simp] theorem within_nil (cls : Char → Bool) : Within cls [] := by simp [Within]

@[simp] theorem within_cons {cls : Char → Bool} {c : Char} :
    Within cls (c :: s) ↔ cls c = true ∧ Within cls s := by simp [Within]

@[simp] theorem within_append {cls : Char → Bool} :
    Within cls (s ++ t) ↔ Within cls s ∧ Within cls t := List.forall_mem_append

theorem takeWhile_within_append {cls : Char → Bool} (hs : Within cls s) (hr : Stops cls r) :
    (s ++ r).takeWhile cls = s := by
  rw [List.takeWhile_append_of_pos hs]
  cases r with
  | nil => simp
  | cons c r => simp [stops_cons.mp hr]

theorem dropWhile_within_append {cls : Char → Bool} (hs : Within cls s) (hr : Stops cls r) :
    (s ++ r).dropWhile cls = r := by
  rw [List.dropWhile_append_of_pos hs]
  cases r with
  | nil => rfl
  | cons c r => simp [stops_cons.mp hr]

theorem within_takeWhile (cls : Char → Bool) (s : List Char) : Within cls (s.takeWhile cls) :=
  fun _ hc => List.mem_takeWhile_imp hc

theorem stops_dropWhile (cls : Char → Bool) (s : List Char) : Stops cls (s.dropWhile cls) := by
  intro c hc
  have h := List.head?_dropWhile_not cls s
  rw [Option.mem_def.mp hc] at h
  simpa using h

def Misses (p : Parser α) (s : List Char) : Prop := ∃ why, p s = .miss why

theorem Misses.ne_done {p : Parser α} (h : Misses p s) (a : α) (r : List Char) :
    p s ≠ .done a r := by
  obtain ⟨why, hp⟩ := h
  simp [hp]

/-- `p` never commits: what it does not read it misses. -/
def Tentative (p : Parser α) : Prop := ∀ s why, p s ≠ .halt why

theorem Tentative.misses {p : Parser α} (h : Tentative p) (hs : ∀ a r, p s ≠ .done a r) :
    Misses p s := by
  cases hp : p s with
  | done a r => exact absurd hp (hs a r)
  | miss why => exact ⟨why, hp⟩
  | halt why => exact absurd hp (h s why)

/-! ### Sequences -/

theorem tentative_pure (a : α) : Tentative (pure a : Parser α) := by
  intro s why
  simp

theorem Tentative.bind {p : Parser α} {f : α → Parser β} (hp : Tentative p)
    (hf : ∀ a, Tentative (f a)) : Tentative (p >>= f) := by
  intro s why
  rw [bind_apply]
  cases h : p s with
  | done a t => exact hf a t why
  | miss why => simp
  | halt why' => exact absurd h (hp s why')

theorem pure_eq_done {a b : α} : (pure a : Parser α) s = .done b r ↔ b = a ∧ r = s := by
  rw [pure_apply]
  grind

theorem bind_eq_done {p : Parser α} {f : α → Parser β} {b : β} :
    (p >>= f) s = .done b r ↔ ∃ a t, p s = .done a t ∧ f a t = .done b r := by
  rw [bind_apply]
  cases p s with
  | done a t => simp [and_assoc]
  | miss why => simp
  | halt why => simp

theorem bind_of_done {p : Parser α} {f : α → Parser β} {a : α} (h : p s = .done a t) :
    (p >>= f) s = f a t := by
  rw [bind_apply, h]

theorem bind_of_halt {p : Parser α} {why : Mismatch} (h : p s = .halt why) (f : α → Parser β) :
    (p >>= f) s = .halt why := by
  rw [bind_apply, h]

theorem bind_assoc {γ : Type} (p : Parser α) (f : α → Parser β) (g : β → Parser γ) :
    (p >>= f) >>= g = p >>= fun a => f a >>= g := by
  funext s
  rw [bind_apply, bind_apply, bind_apply]
  cases p s with
  | done a t => rfl
  | miss why => rfl
  | halt why => rfl

theorem misses_bind {p : Parser α} {f : α → Parser β} :
    Misses (p >>= f) s ↔ Misses p s ∨ ∃ a t, p s = .done a t ∧ Misses (f a) t := by
  simp only [Misses, bind_apply]
  cases p s with
  | done a t => simp [and_assoc]
  | miss why => simp
  | halt why => simp

theorem Misses.bind {p : Parser α} (h : Misses p s) (f : α → Parser β) : Misses (p >>= f) s :=
  misses_bind.mpr (.inl h)

theorem Misses.after {p : Parser α} {f : α → Parser β} {a : α} (hp : p s = .done a t)
    (h : Misses (f a) t) : Misses (p >>= f) s :=
  misses_bind.mpr (.inr ⟨a, t, hp, h⟩)

/-! ### Choice -/

theorem commit_eq_done {p : Parser α} {a : α} : commit p s = .done a r ↔ p s = .done a r := by
  unfold commit
  cases p s <;> simp

theorem not_misses_commit (p : Parser α) : ¬ Misses (commit p) s := by
  cases h : p s <;> simp [Misses, commit, h]

theorem optional_of_done {p : Parser α} {a : α} (h : p s = .done a r) :
    optional p s = .done (some a) r := by
  simp [optional, h]

theorem optional_of_misses {p : Parser α} (h : Misses p s) : optional p s = .done none s := by
  obtain ⟨why, hp⟩ := h
  simp [optional, hp]

theorem optional_eq_done {p : Parser α} {o : Option α} :
    optional p s = .done o r ↔
      (∃ a, o = some a ∧ p s = .done a r) ∨ (o = none ∧ r = s ∧ Misses p s) := by
  cases h : p s <;> simp [optional, Misses, h] <;> grind

theorem orElse_of_done {p q : Parser α} {a : α} (h : p s = .done a r) :
    orElse p q s = .done a r := by
  simp [orElse, h]

theorem orElse_of_misses {p q : Parser α} {a : α} (h : Misses p s) (hq : q s = .done a r) :
    orElse p q s = .done a r := by
  obtain ⟨why, hp⟩ := h
  simp [orElse, hp, hq]

theorem orElse_of_halt {p : Parser α} {why : Mismatch} (h : p s = .halt why) (q : Parser α) :
    orElse p q s = .halt why := by
  rw [orElse, h]

theorem orElse_eq_done {p q : Parser α} {a : α} :
    orElse p q s = .done a r ↔ p s = .done a r ∨ (Misses p s ∧ q s = .done a r) := by
  cases hp : p s <;> cases hq : q s <;> simp [orElse, Misses, hp, hq]

theorem misses_orElse {p q : Parser α} : Misses (orElse p q) s ↔ Misses p s ∧ Misses q s := by
  cases hp : p s <;> cases hq : q s <;> simp [orElse, Misses, hp, hq]

theorem expecting_eq_done {e : Expected} {p : Parser α} {a : α} :
    expecting e p s = .done a r ↔ p s = .done a r := by
  unfold expecting
  cases p s <;> simp

theorem misses_expecting {e : Expected} {p : Parser α} :
    Misses (expecting e p) s ↔ Misses p s := by
  cases h : p s <;> simp [expecting, Misses, h]

theorem ensuring_eq_done {e : Expected} {ok : α → Bool} {p : Parser α} {a : α} :
    ensuring e ok p s = .done a r ↔ p s = .done a r ∧ ok a := by
  cases h : p s with
  | done b t => cases hok : ok b <;> simp [ensuring, h, hok] <;> grind
  | miss why => simp [ensuring, h]
  | halt why => simp [ensuring, h]

theorem Tentative.expecting {e : Expected} {p : Parser α} (hp : Tentative p) :
    Tentative (expecting e p) := by
  intro s why
  cases h : p s with
  | done a t => simp [Parser.expecting, h]
  | miss why => simp [Parser.expecting, h]
  | halt why' => exact absurd h (hp s why')

theorem Tentative.ensuring {e : Expected} {ok : α → Bool} {p : Parser α} (hp : Tentative p) :
    Tentative (ensuring e ok p) := by
  intro s why
  cases h : p s with
  | done a t => cases hok : ok a <;> simp [Parser.ensuring, h, hok]
  | miss why => simp [Parser.ensuring, h]
  | halt why' => exact absurd h (hp s why')

theorem Tentative.orElse {p q : Parser α} (hp : Tentative p) (hq : Tentative q) :
    Tentative (orElse p q) := by
  intro s why
  cases h : p s with
  | done a t => simp [Parser.orElse, h]
  | miss why => cases h' : q s with
    | done a t => simp [Parser.orElse, h, h']
    | miss why => simp [Parser.orElse, h, h']
    | halt why' => exact absurd h' (hq s why')
  | halt why' => exact absurd h (hp s why')

theorem misses_ensuring {e : Expected} {ok : α → Bool} {p : Parser α} :
    Misses (ensuring e ok p) s ↔ Misses p s ∨ ∃ a t, p s = .done a t ∧ ok a = false := by
  cases h : p s with
  | done a t => cases hok : ok a <;> simp [ensuring, Misses, h, hok]
  | miss why => simp [ensuring, Misses, h]
  | halt why => simp [ensuring, Misses, h]

/-! ### Characters -/

theorem dropWord_eq_some {w : List Char} : dropWord w s = some r ↔ s = w ++ r := by
  fun_induction dropWord w s with
  | case1 s => simp [eq_comm]
  | case2 c w => simp
  | case3 w c s ih => simp [ih]
  | case4 c w d s hne => simp [Ne.symm hne]

theorem word_eq_done {w : String} {u : Unit} : word w s = .done u r ↔ s = w.toList ++ r := by
  rw [← dropWord_eq_some, word]
  cases dropWord w.toList s <;> simp

theorem word_append (w : String) (r : List Char) : word w (w.toList ++ r) = .done () r :=
  word_eq_done.mpr rfl

theorem word_singleton {w : String} {c : Char} (hw : w.toList = [c]) (r : List Char) :
    word w (c :: r) = .done () r :=
  word_eq_done.mpr (by simp [hw])

theorem misses_word {w : String} : Misses (word w) s ↔ ¬ w.toList <+: s := by
  unfold Misses word
  cases h : dropWord w.toList s with
  | none =>
    have hnot : ¬ w.toList <+: s := by
      rintro ⟨r, hr⟩
      rw [dropWord_eq_some.mpr hr.symm] at h
      cases h
    simp [hnot]
  | some r => simp [dropWord_eq_some.mp h]

theorem run_append {cls : Char → Bool} (hs : Within cls s) (hr : Stops cls r) :
    run cls (s ++ r) = .done s r := by
  rw [run, takeWhile_within_append hs hr, dropWhile_within_append hs hr]

theorem run_eq_done {cls : Char → Bool} {v : List Char} :
    run cls s = .done v r ↔ s = v ++ r ∧ Within cls v ∧ Stops cls r := by
  constructor
  · intro h
    cases h
    exact ⟨List.takeWhile_append_dropWhile.symm, within_takeWhile cls s, stops_dropWhile cls s⟩
  · rintro ⟨rfl, hv, hr⟩
    exact run_append hv hr

theorem skip_append {cls : Char → Bool} (hs : Within cls s) (hr : Stops cls r) :
    skip cls (s ++ r) = .done () r := by
  rw [skip, dropWhile_within_append hs hr]

theorem skip_cons {cls : Char → Bool} {c : Char} (hc : cls c) (hr : Stops cls r) :
    skip cls (c :: r) = .done () r :=
  skip_append (s := [c]) (by simpa using hc) hr

theorem skip_of_stops {cls : Char → Bool} (hs : Stops cls s) : skip cls s = .done () s :=
  skip_append (within_nil cls) hs

theorem skip_eq_done {cls : Char → Bool} {u : Unit} :
    skip cls s = .done u r ↔ ∃ v, s = v ++ r ∧ Within cls v ∧ Stops cls r := by
  constructor
  · intro h
    cases h
    exact ⟨s.takeWhile cls, List.takeWhile_append_dropWhile.symm, within_takeWhile cls s,
      stops_dropWhile cls s⟩
  · rintro ⟨v, rfl, hv, hr⟩
    exact skip_append hv hr

theorem not_misses_skip (cls : Char → Bool) : ¬ Misses (skip cls) s := by
  simp [Misses, skip]

theorem skipSome_append {cls : Char → Bool} (hs : Within cls s) (hne : s ≠ [])
    (hr : Stops cls r) : skipSome cls (s ++ r) = .done () r := by
  cases s with
  | nil => exact absurd rfl hne
  | cons c s =>
    obtain ⟨hc, hs⟩ := within_cons.mp hs
    simp [skipSome, hc, dropWhile_within_append hs hr]

theorem misses_skipSome {cls : Char → Bool} : Misses (skipSome cls) s ↔ Stops cls s := by
  unfold Misses
  cases s with
  | nil => simp [skipSome]
  | cons c s => cases h : cls c <;> simp [skipSome, h]

theorem skipSome_eq_done {cls : Char → Bool} {u : Unit} :
    skipSome cls s = .done u r ↔ ∃ v, s = v ++ r ∧ v ≠ [] ∧ Within cls v ∧ Stops cls r := by
  constructor
  · intro h
    cases s with
    | nil => simp [skipSome] at h
    | cons c s =>
      cases hc : cls c with
      | false => simp [skipSome, hc] at h
      | true =>
        rw [skipSome, if_pos hc] at h
        obtain ⟨v, rfl, hv, hr⟩ := skip_eq_done.mp h
        exact ⟨c :: v, rfl, List.cons_ne_nil c v, within_cons.mpr ⟨hc, hv⟩, hr⟩
  · rintro ⟨v, rfl, hne, hv, hr⟩
    exact skipSome_append hv hne hr

theorem tentative_skipSome (cls : Char → Bool) : Tentative (skipSome cls) := by
  intro s why
  cases s with
  | nil => simp [skipSome]
  | cons c s => cases h : cls c <;> simp [skipSome, h]

theorem endOfInput_eq_done {u : Unit} : endOfInput s = .done u r ↔ s = [] ∧ r = [] := by
  cases s <;> simp [endOfInput, eq_comm]

theorem parse_eq_ok {p : Parser α} {source : String} {a : α} :
    p.parse source = .ok a ↔ ∃ r, p source.toList = .done a r := by
  unfold Parser.parse
  cases p source.toList <;> simp

theorem exists_of_map_toOption {ε : Type} {x : Except ε α} {f : α → β} {b : β}
    (h : x.toOption.map f = some b) : ∃ a, x = .ok a ∧ f a = b := by
  cases x with
  | error e => cases h
  | ok a => exact ⟨a, rfl, Option.some.inj h⟩

end ValueTypes.Parser
