/-! Computations that may fail. A result of a sequence of steps comes from a result of each, and an
error is that of the first step that makes one. -/
namespace EventFilter.Outcome

variable {ε α β : Type}

@[simp] theorem ok_bind (a : α) (f : α → Except ε β) : (Except.ok a >>= f) = f a := rfl

@[simp] theorem error_bind (e : ε) (f : α → Except ε β) :
    (Except.error e >>= f) = .error e := rfl

theorem bind_eq_ok {x : Except ε α} {f : α → Except ε β} {b : β} :
    (x >>= f) = .ok b ↔ ∃ a, x = .ok a ∧ f a = .ok b := by
  cases x with
  | error e => simp
  | ok a => simp

theorem bind_eq_error {x : Except ε α} {f : α → Except ε β} {e : ε} :
    (x >>= f) = .error e ↔ x = .error e ∨ ∃ a, x = .ok a ∧ f a = .error e := by
  cases x with
  | error e' => simp
  | ok a => simp

/-- Both steps succeed if the second does with whatever the first makes sure of. -/
theorem bind_total {P : α → Prop} {x : Except ε α} {f : α → Except ε β}
    (first : ∃ a, x = .ok a ∧ P a) (later : ∀ a, P a → ∃ b, f a = .ok b) :
    ∃ b, (x >>= f) = .ok b := by
  obtain ⟨a, made, holds⟩ := first
  obtain ⟨b, made'⟩ := later a holds
  exact ⟨b, bind_eq_ok.2 ⟨a, made, made'⟩⟩

/-- A choice fails in what it depends on, or in what it chooses. -/
theorem choice_error {x : Except ε Bool} {y z : Except ε β} {e : ε}
    (failed : (do if ← x then y else z) = .error e) :
    x = .error e ∨ y = .error e ∨ z = .error e := by
  rcases bind_eq_error.1 failed with failed | ⟨_ | _, -, failed⟩
  · exact .inl failed
  · exact .inr (.inr failed)
  · exact .inr (.inl failed)

theorem map_eq_ok {x : Except ε α} {f : α → β} {b : β} :
    x.map f = .ok b ↔ ∃ a, x = .ok a ∧ f a = b := by
  cases x with
  | error e => simp [Except.map]
  | ok a => simp [Except.map]

theorem map_eq_error {x : Except ε α} {f : α → β} {e : ε} :
    x.map f = .error e ↔ x = .error e := by
  cases x with
  | error e' => simp [Except.map]
  | ok a => simp [Except.map]

theorem mapError_eq_ok {ε' : Type} {x : Except ε α} {f : ε → ε'} {a : α} :
    x.mapError f = .ok a ↔ x = .ok a := by
  cases x with
  | error e => exact ⟨nofun, nofun⟩
  | ok b =>
    show Except.ok b = Except.ok a ↔ _
    rw [Except.ok.injEq, Except.ok.injEq]

theorem mapError_eq_error {ε' : Type} {x : Except ε α} {f : ε → ε'} {e' : ε'} :
    x.mapError f = .error e' ↔ ∃ e, x = .error e ∧ f e = e' := by
  cases x with
  | error e =>
    show Except.error (f e) = Except.error e' ↔ _
    simp
  | ok a => exact ⟨nofun, nofun⟩

theorem toOption_bind (x : Except ε α) (f : α → Except ε β) :
    (x >>= f).toOption = x.toOption.bind fun a => (f a).toOption := by
  cases x <;> rfl

/-- A fold fails at one item, and the items in front of it have been folded by then. -/
theorem foldlM_error {f : β → α → Except ε β} {items : List α} {start : β} {e : ε}
    (failed : items.foldlM f start = .error e) : ∃ front item rest b,
      items = front ++ item :: rest ∧ front.foldlM f start = .ok b ∧ f b item = .error e := by
  induction items generalizing start with
  | nil => contradiction
  | cons item items ih =>
    rw [List.foldlM_cons] at failed
    rcases bind_eq_error.1 failed with first | ⟨next, first, later⟩
    · exact ⟨[], item, items, start, rfl, rfl, first⟩
    · obtain ⟨front, bad, rest, b, rfl, folded, fault⟩ := ih later
      refine ⟨item :: front, bad, rest, b, rfl, ?_, fault⟩
      rw [List.foldlM_cons, first, ok_bind, folded]

/-- What every step keeps holds at the end. -/
theorem foldlM_invariant {P : β → Prop} {f : β → α → Except ε β}
    (step : ∀ {b next : β} {item : α}, P b → f b item = .ok next → P next)
    {items : List α} {start result : β} (folded : items.foldlM f start = .ok result)
    (first : P start) : P result := by
  induction items generalizing start with
  | nil =>
    cases folded
    exact first
  | cons item items ih =>
    rw [List.foldlM_cons] at folded
    obtain ⟨next, made, folded⟩ := bind_eq_ok.1 folded
    exact ih folded (step first made)

/-- Two kinds of steps that keep to their own part of the state can be taken apart. Which of the
errors is the first is lost. -/
theorem foldlM_apart {σ φ : Type} {step : σ → α → Except ε σ} {pick : φ → α → Except ε φ}
    {put : σ → φ → σ} (own : α → Bool)
    (mine : ∀ s f item, own item = true → step (put s f) item = (pick f item).map (put s))
    (others : ∀ s f item, own item = false → step (put s f) item = (step s item).map (put · f))
    (items : List α) (s : σ) (f : φ) :
    (items.foldlM step (put s f)).toOption =
      ((items.filter (!own ·)).foldlM step s).toOption.bind fun s =>
        ((items.filter own).foldlM pick f).toOption.map (put s) := by
  induction items generalizing s f with
  | nil => rfl
  | cons item items ih =>
    rw [List.foldlM_cons, List.filter_cons, List.filter_cons]
    cases kind : own item with
    | true =>
      rw [mine s f item kind]
      simp only [Bool.not_true, Bool.false_eq_true, if_false, if_true, List.foldlM_cons]
      cases pick f item with
      | error error => exact (Option.bind_fun_none _).symm
      | ok f => exact ih s f
    | false =>
      rw [others s f item kind]
      simp only [Bool.not_false, Bool.false_eq_true, if_false, if_true, List.foldlM_cons]
      cases step s item with
      | error error => rfl
      | ok s => exact ih s f

/-- If no item fails, every result has what each of them makes sure of. -/
theorem mapM_total {P : β → Prop} {f : α → Except ε β} {items : List α}
    (step : ∀ item ∈ items, ∃ b, f item = .ok b ∧ P b) :
    ∃ bs, items.mapM f = .ok bs ∧ ∀ b ∈ bs, P b := by
  induction items with
  | nil => exact ⟨[], rfl, nofun⟩
  | cons item items ih =>
    obtain ⟨⟨b, first, holds⟩, later⟩ := List.forall_mem_cons.1 step
    obtain ⟨bs, made, hold⟩ := ih later
    refine ⟨b :: bs, ?_, List.forall_mem_cons.2 ⟨holds, hold⟩⟩
    rw [List.mapM_cons, first, ok_bind, made, ok_bind]
    rfl

/-- The first item that fails decides, whatever follows it. -/
theorem mapM_eq_error {f : α → Except ε β} {items : List α} {e : ε} :
    items.mapM f = .error e ↔ ∃ front bad rest, items = front ++ bad :: rest ∧
      (∀ item ∈ front, ∃ b, f item = .ok b) ∧ f bad = .error e := by
  constructor
  · intro failed
    induction items with
    | nil => contradiction
    | cons item items ih =>
      rw [List.mapM_cons] at failed
      rcases bind_eq_error.1 failed with first | ⟨b, first, failed⟩
      · exact ⟨[], item, items, rfl, by simp, first⟩
      · rcases bind_eq_error.1 failed with later | ⟨bs, -, ⟨⟩⟩
        obtain ⟨front, bad, rest, rfl, fine, fault⟩ := ih later
        refine ⟨item :: front, bad, rest, rfl, ?_, fault⟩
        exact List.forall_mem_cons.2 ⟨⟨b, first⟩, fine⟩
  · rintro ⟨front, bad, rest, rfl, fine, fault⟩
    induction front with
    | nil => rw [List.nil_append, List.mapM_cons, fault, error_bind]
    | cons item front ih =>
      obtain ⟨⟨b, first⟩, fine⟩ := List.forall_mem_cons.1 fine
      rw [List.cons_append, List.mapM_cons, first, ok_bind, ih fine, error_bind]

end EventFilter.Outcome
