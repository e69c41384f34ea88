import FormatterConfig.Log.Record

set_option autoImplicit false

/-! # Outcomes

A sequence succeeds exactly if each of its parts does, and fails with the first part that fails. So
does a list of like parts. -/

namespace FormatterConfig

variable {ε ε' α β : Type}

@[simp] theorem ok_bind (a : α) (f : α → Except ε β) : (Except.ok a >>= f) = f a := rfl

@[simp] theorem error_bind (e : ε) (f : α → Except ε β) :
    ((Except.error e : Except ε α) >>= f) = .error e := rfl

theorem throw_eq_error (e : ε) : (throw e : Except ε α) = .error e := rfl

theorem bind_eq_ok {x : Except ε α} {f : α → Except ε β} {b : β} :
    (x >>= f) = .ok b ↔ ∃ a, x = .ok a ∧ f a = .ok b := by
  cases x with
  | ok a => simp
  | error e => simp

theorem bind_eq_error {x : Except ε α} {f : α → Except ε β} {e : ε} :
    (x >>= f) = .error e ↔ x = .error e ∨ ∃ a, x = .ok a ∧ f a = .error e := by
  cases x with
  | ok a => simp
  | error e' => simp

theorem mapError_eq_ok {x : Except ε α} {f : ε → ε'} {a : α} :
    x.mapError f = .ok a ↔ x = .ok a := by
  cases x with
  | ok b =>
    show (Except.ok b : Except ε' α) = .ok a ↔ _
    simp
  | error e =>
    show (Except.error (f e) : Except ε' α) = .ok a ↔ _
    simp

theorem mapError_eq_error {x : Except ε α} {f : ε → ε'} {e' : ε'} :
    x.mapError f = .error e' ↔ ∃ e, x = .error e ∧ f e = e' := by
  cases x with
  | ok a =>
    show (Except.ok a : Except ε' α) = .error e' ↔ _
    simp
  | error e =>
    show (Except.error (f e) : Except ε' α) = .error e' ↔ _
    simp

/-- A part that refuses a case and goes on otherwise. -/
theorem refuse_eq_ok {p : Prop} [Decidable p] {e : ε} {rest : Except ε β} {b : β} :
    (if p then (throw e : Except ε PUnit) >>= fun _ => rest else rest) = .ok b ↔
      ¬p ∧ rest = .ok b := by
  by_cases h : p
  · rw [if_pos h]
    exact ⟨fun heq => (nomatch heq), fun heq => absurd h heq.1⟩
  · rw [if_neg h]
    exact ⟨fun heq => ⟨h, heq⟩, fun heq => heq.2⟩

theorem refuse_last_eq_ok {p : Prop} [Decidable p] {e : ε} :
    (if p then throw e else pure () : Except ε Unit) = .ok () ↔ ¬p := by
  by_cases h : p
  · rw [if_pos h]
    exact ⟨fun heq => (nomatch heq), absurd h⟩
  · rw [if_neg h]
    exact ⟨fun _ => h, fun _ => rfl⟩

/-- A list has no result exactly if one of its items has none. -/
theorem exists_mapM_eq_error {f : α → Except ε β} {items : List α} :
    (∃ e, items.mapM f = .error e) ↔ ∃ a ∈ items, ∃ e, f a = .error e := by
  induction items with
  | nil => simp [pure, Except.pure]
  | cons a rest ih =>
    simp only [List.mem_cons, exists_eq_or_imp, ← ih, List.mapM_cons]
    cases f a with
    | error e => simp
    | ok b => simp [bind_eq_error, pure, Except.pure]

/-- A list fails with its first item that fails. -/
theorem mapM_eq_error {f : α → Except ε β} {items : List α} {e : ε} :
    items.mapM f = .error e ↔
      ∃ before a after, items = before ++ a :: after ∧ (∀ b ∈ before, ∃ r, f b = .ok r) ∧
        f a = .error e := by
  induction items with
  | nil => simp [pure, Except.pure]
  | cons first rest ih =>
    rw [List.mapM_cons, bind_eq_error]
    constructor
    · rintro (hfirst | ⟨r, hfirst, hrest⟩)
      · exact ⟨[], first, rest, rfl, by simp, hfirst⟩
      · obtain hrest | ⟨_, _, hpure⟩ := bind_eq_error.1 hrest
        · obtain ⟨before, a, after, rfl, hbefore, ha⟩ := ih.1 hrest
          exact ⟨first :: before, a, after, rfl,
            List.forall_mem_cons.2 ⟨⟨r, hfirst⟩, hbefore⟩, ha⟩
        · exact nomatch hpure
    · rintro ⟨before, a, after, hsplit, hbefore, ha⟩
      cases before with
      | nil =>
        obtain ⟨rfl, rfl⟩ := List.cons.inj hsplit
        exact .inl ha
      | cons b before =>
        obtain ⟨rfl, rfl⟩ := List.cons.inj hsplit
        obtain ⟨⟨r, hfirst⟩, hbefore⟩ := List.forall_mem_cons.1 hbefore
        exact .inr ⟨r, hfirst, bind_eq_error.2 (.inl (ih.2 ⟨before, a, after, rfl, hbefore, ha⟩))⟩

/-- The results of a list are those of its items. -/
theorem mem_of_mapM_eq_ok {f : α → Except ε β} {items : List α} {results : List β}
    (h : items.mapM f = .ok results) (r : β) : r ∈ results ↔ ∃ a ∈ items, f a = .ok r := by
  induction items generalizing results with
  | nil =>
    obtain rfl : [] = results := Except.ok.inj h
    simp
  | cons first rest ih =>
    rw [List.mapM_cons] at h
    obtain ⟨r', hfirst, h⟩ := bind_eq_ok.1 h
    obtain ⟨results', hrest, h⟩ := bind_eq_ok.1 h
    obtain rfl : r' :: results' = results := Except.ok.inj h
    simp [hfirst, ih hrest, eq_comm]

theorem eq_ok_of_toOption {x : Except ε α} {a : α} (h : x.toOption = some a) : x = .ok a := by
  cases x with
  | ok b => exact congrArg _ (Option.some.inj h)
  | error e => exact (Option.some_ne_none a h.symm).elim

namespace Logged

theorem bind_assoc {γ : Type} (x : Logged ε α) (f : α → Logged ε β) (g : β → Logged ε γ) :
    (x >>= f) >>= g = x >>= fun a => f a >>= g := by
  show andThen (andThen x f) g = andThen x fun a => andThen (f a) g
  unfold andThen
  cases x.outcome with
  | error e => rfl
  | ok a =>
    dsimp only
    cases (f a).outcome with
    | error e => rfl
    | ok b => simp only [List.append_assoc]

/-- What follows a part matters only for what the part can end in. -/
theorem bind_congr {x : Logged ε α} {f g : α → Logged ε β}
    (h : ∀ a, x.outcome = .ok a → f a = g a) : (x >>= f) = (x >>= g) := by
  show andThen x f = andThen x g
  unfold andThen
  cases hx : x.outcome with
  | ok a => simp only [h a hx]
  | error e => rfl

theorem outcome_mapError (f : ε → ε') (x : Logged ε α) :
    (x.mapError f).outcome = x.outcome.mapError f := rfl

theorem outcome_orElse (x : Logged ε α) (handler : ε → Logged ε' α) :
    (x.orElse handler).outcome =
      match x.outcome with
      | .ok a => .ok a
      | .error e => (handler e).outcome := by
  unfold orElse
  cases x.outcome <;> rfl

end Logged

end FormatterConfig
