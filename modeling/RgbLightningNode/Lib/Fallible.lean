import Mathlib.Tactic.Common

/-!
# Fallible stateful programs

A program reads and writes a state and may stop early with an exit. What it
wrote before it stopped stays written: an exit is not a rollback. The rules
below run such a program one bind at a time.
-/

/-- A program over the state `σ` that returns an `α` or stops with an `ε`. -/
abbrev Fallible (ε σ α : Type) := EStateM ε σ α

namespace Fallible

variable {ε σ α β : Type}

/-- Stop with `e` unless the condition holds. -/
def ensure (c : Bool) (e : ε) : Fallible ε σ Unit :=
  if c then pure () else throw e

/-- Run a pure fallible computation without touching the state. -/
def attempt (x : Except ε α) : Fallible ε σ α :=
  match x with
  | .ok a => pure a
  | .error e => throw e

/-- The value of an option, or an exit. -/
def expect (x : Option α) (e : ε) : Fallible ε σ α :=
  match x with
  | some a => pure a
  | none => throw e

/-- Run a program on a part of a larger state. -/
def zoom {τ : Type} (part : τ → σ) (put : σ → τ → τ) (x : Fallible ε σ α) : Fallible ε τ α :=
  fun t => match x (part t) with
    | .ok a s => .ok a (put s t)
    | .error e s => .error e (put s t)

/-- The state a program leaves behind, whether it returned or stopped. -/
def after (x : Fallible ε σ α) (s : σ) : σ :=
  match x s with
  | .ok _ t => t
  | .error _ t => t

/-- What a program answers, and the state it leaves behind. -/
def outcome (x : Fallible ε σ α) (s : σ) : Except ε α × σ :=
  match x s with
  | .ok a t => (.ok a, t)
  | .error e t => (.error e, t)

@[simp] theorem pure_apply (a : α) (s : σ) : (pure a : Fallible ε σ α) s = .ok a s := rfl

@[simp] theorem throw_apply (e : ε) (s : σ) : (throw e : Fallible ε σ α) s = .error e s := rfl

@[simp] theorem get_apply (s : σ) : (get : Fallible ε σ σ) s = .ok s s := rfl

@[simp] theorem set_apply (s t : σ) : (set t : Fallible ε σ PUnit) s = .ok ⟨⟩ t := rfl

@[simp] theorem modify_apply (f : σ → σ) (s : σ) :
    (modify f : Fallible ε σ PUnit) s = .ok ⟨⟩ (f s) := rfl

theorem bind_apply (x : Fallible ε σ α) (f : α → Fallible ε σ β) (s : σ) :
    (x >>= f) s = match x s with
      | .ok a t => f a t
      | .error e t => .error e t := rfl

theorem map_apply (f : α → β) (x : Fallible ε σ α) (s : σ) :
    (f <$> x) s = match x s with
      | .ok a t => .ok (f a) t
      | .error e t => .error e t := rfl

@[simp] theorem bind_of_ok {x : Fallible ε σ α} {f : α → Fallible ε σ β} {s t : σ} {a : α}
    (h : x s = .ok a t) : (x >>= f) s = f a t := by
  rw [bind_apply, h]

@[simp] theorem bind_of_error {x : Fallible ε σ α} {f : α → Fallible ε σ β} {s t : σ} {e : ε}
    (h : x s = .error e t) : (x >>= f) s = .error e t := by
  rw [bind_apply, h]

theorem after_of_ok {x : Fallible ε σ α} {s t : σ} {a : α} (h : x s = .ok a t) :
    after x s = t := by
  rw [after, h]

theorem after_of_error {x : Fallible ε σ α} {s t : σ} {e : ε} (h : x s = .error e t) :
    after x s = t := by
  rw [after, h]

/-- What holds of every result, and of a state left as it was, holds of the
state a program that only stops before it has changed anything leaves behind. -/
theorem after_of_unchanged {P : σ → Prop} {x : Fallible ε σ α} {s : σ} (hs : P s)
    (hok : ∀ a t, x s = .ok a t → P t) (herror : ∀ e t, x s = .error e t → s = t) :
    P (after x s) := by
  cases hx : x s with
  | ok a t =>
    rw [after_of_ok hx]
    exact hok a t hx
  | error e t =>
    rw [after_of_error hx, ← herror e t hx]
    exact hs

theorem outcome_snd (x : Fallible ε σ α) (s : σ) : (outcome x s).2 = after x s := by
  unfold outcome after
  cases x s <;> rfl

theorem after_bind_of_ok {x : Fallible ε σ α} {f : α → Fallible ε σ β} {s t : σ} {a : α}
    (h : x s = .ok a t) : after (x >>= f) s = after (f a) t := by
  rw [after, bind_of_ok h, after]

theorem after_bind_of_error {x : Fallible ε σ α} {f : α → Fallible ε σ β} {s t : σ} {e : ε}
    (h : x s = .error e t) : after (x >>= f) s = t := by
  rw [after, bind_of_error h]

theorem outcome_bind_of_ok {x : Fallible ε σ α} {f : α → Fallible ε σ β} {s t : σ} {a : α}
    (h : x s = .ok a t) : outcome (x >>= f) s = outcome (f a) t := by
  rw [outcome, bind_of_ok h, outcome]

theorem outcome_bind_of_error {x : Fallible ε σ α} {f : α → Fallible ε σ β} {s t : σ} {e : ε}
    (h : x s = .error e t) : outcome (x >>= f) s = (.error e, t) := by
  rw [outcome, bind_of_error h]

/-- What a bind answers: what the first half answers, and then the second from where
the first has left off. -/
theorem outcome_bind (x : Fallible ε σ α) (f : α → Fallible ε σ β) (s : σ) :
    (outcome (x >>= f) s).1 = (outcome x s).1 >>= fun a => (outcome (f a) (after x s)).1 := by
  cases hx : x s with
  | ok a t =>
    rw [outcome_bind_of_ok hx, after_of_ok hx]
    simp only [outcome, hx]
    rfl
  | error e t =>
    rw [outcome_bind_of_error hx]
    simp only [outcome, hx]
    rfl

theorem outcome_bind_pure (x : Fallible ε σ α) (f : α → β) (s : σ) :
    (outcome (x >>= fun a => pure (f a)) s).1 = (outcome x s).1.map f := by
  rw [outcome_bind]
  rfl

theorem outcome_fst_eq_ok_iff {x : Fallible ε σ α} {s : σ} {a : α} :
    (outcome x s).1 = .ok a ↔ ∃ t, x s = .ok a t := by
  rw [outcome]
  cases x s <;> simp

/-- A bind returns exactly when both halves do. -/
theorem bind_eq_ok_iff {x : Fallible ε σ α} {f : α → Fallible ε σ β} {s u : σ} {b : β} :
    (x >>= f) s = .ok b u ↔ ∃ a t, x s = .ok a t ∧ f a t = .ok b u := by
  rw [bind_apply]
  cases x s <;> simp

theorem map_eq_ok_iff {f : α → β} {x : Fallible ε σ α} {s t : σ} {b : β} :
    (f <$> x) s = .ok b t ↔ ∃ a, x s = .ok a t ∧ f a = b := by
  rw [map_apply]
  cases x s <;> simp [and_comm]

/-- Errors put into other words change nothing of what is returned. -/
theorem adaptExcept_eq_ok_iff {ε' : Type} {f : ε → ε'} {x : Fallible ε σ α} {s t : σ} {a : α} :
    (EStateM.adaptExcept f x : Fallible ε' σ α) s = .ok a t ↔ x s = .ok a t := by
  rw [EStateM.adaptExcept]
  cases x s <;> simp

theorem adaptExcept_of_error {ε' : Type} {f : ε → ε'} {x : Fallible ε σ α} {s t : σ} {e : ε}
    (h : x s = .error e t) :
    (EStateM.adaptExcept f x : Fallible ε' σ α) s = .error (f e) t := by
  rw [EStateM.adaptExcept, h]

theorem unit_bind_eq_ok_iff {x : Fallible ε σ Unit} {f : Unit → Fallible ε σ β} {s u : σ}
    {b : β} : (x >>= f) s = .ok b u ↔ ∃ t, x s = .ok () t ∧ f () t = .ok b u := by
  rw [bind_eq_ok_iff]
  exact ⟨fun ⟨_, h⟩ => h, fun h => ⟨(), h⟩⟩

theorem discard_apply (x : Fallible ε σ α) (s : σ) :
    (discard x : Fallible ε σ Unit) s =
      match x s with
      | .ok _ t => .ok () t
      | .error e t => .error e t := rfl

/-- Dropping the value of a program keeps whether it returns. -/
theorem discard_eq_ok_iff {x : Fallible ε σ α} {s t : σ} {u : Unit} :
    (discard x : Fallible ε σ Unit) s = .ok u t ↔ ∃ a, x s = .ok a t := by
  rw [discard_apply]
  cases x s <;> simp

theorem after_discard (x : Fallible ε σ α) (s : σ) :
    after (discard x : Fallible ε σ Unit) s = after x s := by
  rw [after, discard_apply, after]
  cases x s <;> rfl

/-- A zoomed program changes the part as the program does. -/
theorem after_zoom {τ : Type} (part : τ → σ) (put : σ → τ → τ) (x : Fallible ε σ α) (t : τ) :
    after (zoom part put x) t = put (after x (part t)) t := by
  unfold after zoom
  cases x (part t) <;> rfl

/-- A zoomed program answers what the program does on the part, which it changes. -/
theorem outcome_zoom {τ : Type} (part : τ → σ) (put : σ → τ → τ) (x : Fallible ε σ α) (t : τ) :
    outcome (zoom part put x) t =
      ((outcome x (part t)).1, put (outcome x (part t)).2 t) := by
  unfold outcome zoom
  cases x (part t) <;> rfl

theorem except_ok_bind (a : α) (f : α → Except ε β) : (Except.ok a >>= f) = f a := rfl

/-- The pure counterpart: a bind of two results is a value when both are. -/
theorem except_bind_eq_ok_iff {x : Except ε α} {f : α → Except ε β} {b : β} :
    (x >>= f) = .ok b ↔ ∃ a, x = .ok a ∧ f a = .ok b := by
  cases x <;> simp [bind, Except.bind]

theorem except_bind_eq_error_iff {x : Except ε α} {f : α → Except ε β} {e : ε} :
    x >>= f = .error e ↔ x = .error e ∨ ∃ a, x = .ok a ∧ f a = .error e := by
  cases x <;> simp [bind, Except.bind]

theorem except_mapError_eq_ok_iff {ε' : Type} {f : ε → ε'} {x : Except ε α} {a : α} :
    x.mapError f = .ok a ↔ x = .ok a := by
  cases x <;> simp [Except.mapError]

theorem except_toOption_eq_some_iff {x : Except ε α} {a : α} :
    x.toOption = some a ↔ x = .ok a := by
  cases x <;> simp [Except.toOption]

@[simp] theorem zoom_of_ok {τ : Type} {part : τ → σ} {put : σ → τ → τ} {x : Fallible ε σ α}
    {t : τ} {a : α} {s : σ} (h : x (part t) = .ok a s) :
    zoom part put x t = .ok a (put s t) := by
  rw [zoom, h]

@[simp] theorem zoom_of_error {τ : Type} {part : τ → σ} {put : σ → τ → τ} {x : Fallible ε σ α}
    {t : τ} {e : ε} {s : σ} (h : x (part t) = .error e s) :
    zoom part put x t = .error e (put s t) := by
  rw [zoom, h]

/-- A zoomed program returns exactly when the program does on the part. -/
theorem zoom_eq_ok_iff {τ : Type} {part : τ → σ} {put : σ → τ → τ} {x : Fallible ε σ α}
    {t u : τ} {a : α} :
    zoom part put x t = .ok a u ↔ ∃ s, x (part t) = .ok a s ∧ u = put s t := by
  unfold zoom
  cases x (part t) <;> simp [eq_comm]

@[simp] theorem ensure_apply (c : Bool) (e : ε) (s : σ) :
    ensure c e s = if c then .ok () s else .error e s := by
  cases c <;> rfl

theorem ensure_eq_ok_iff {c : Bool} {e : ε} {s t : σ} :
    ensure c e s = .ok () t ↔ c = true ∧ s = t := by
  cases c <;> simp [ensure]

@[simp] theorem attempt_ok (a : α) (s : σ) :
    (attempt (.ok a) : Fallible ε σ α) s = .ok a s := rfl

@[simp] theorem attempt_error (e : ε) (s : σ) :
    (attempt (.error e) : Fallible ε σ α) s = .error e s := rfl

theorem attempt_mapError_ok {ε' : Type} (f : ε' → ε) (a : α) (s : σ) :
    (attempt ((Except.ok a).mapError f) : Fallible ε σ α) s = .ok a s := rfl

theorem attempt_mapError_error {ε' : Type} (f : ε' → ε) (e : ε') (s : σ) :
    (attempt ((Except.error e).mapError f) : Fallible ε σ α) s = .error (f e) s := rfl

/-- A pure step behind a program changes nothing more. -/
theorem after_bind_attempt (x : Fallible ε σ α) (f : α → Except ε β) (s : σ) :
    after (x >>= fun a => attempt (f a)) s = after x s := by
  rcases h : x s with ⟨a, t⟩ | ⟨e, t⟩
  · rw [after_bind_of_ok h, after_of_ok h]
    rcases f a with _ | _ <;> rfl
  · rw [after_bind_of_error h, after_of_error h]

/-- A pure step before a program changes nothing: either it stops, or the
program goes on from the same state. -/
theorem after_attempt_bind (x : Except ε α) (f : α → Fallible ε σ β) (s : σ) :
    after (attempt x >>= f) s = s ∨ ∃ a, x = .ok a ∧ after (attempt x >>= f) s = after (f a) s := by
  rcases x with e | a
  · exact .inl (after_bind_of_error (attempt_error e s))
  · exact .inr ⟨a, rfl, after_bind_of_ok (attempt_ok a s)⟩

theorem attempt_bind_eq_error {x : Except ε α} {f : α → Fallible ε σ β} {s t : σ} {e : ε}
    (h : (attempt x >>= f) s = .error e t) : t = s ∨ ∃ a, x = .ok a ∧ f a s = .error e t := by
  rcases x with e' | a
  · rw [bind_of_error (attempt_error e' s)] at h
    exact .inl (EStateM.Result.error.inj h).2.symm
  · rw [bind_of_ok (attempt_ok a s)] at h
    exact .inr ⟨a, rfl, h⟩

theorem attempt_eq_ok_iff {x : Except ε α} {s t : σ} {a : α} :
    (attempt x : Fallible ε σ α) s = .ok a t ↔ x = .ok a ∧ s = t := by
  cases x <;> simp [attempt]

theorem attempt_eq_error_iff {x : Except ε α} {s t : σ} {e : ε} :
    (attempt x : Fallible ε σ α) s = .error e t ↔ x = .error e ∧ s = t := by
  cases x <;> simp [attempt]

/-- A pure step before a program, when all returns. -/
theorem attempt_bind_eq_ok_iff {x : Except ε α} {f : α → Fallible ε σ β} {s u : σ} {b : β} :
    (attempt x >>= f) s = .ok b u ↔ ∃ a, x = .ok a ∧ f a s = .ok b u := by
  cases x with
  | error e =>
    rw [bind_of_error (attempt_error e s)]
    simp
  | ok a =>
    rw [bind_of_ok (attempt_ok a s)]
    simp

/-- A program that reads the state, computes something fallible from it and puts
that back returns exactly when the computation does. -/
theorem update_eq_ok_iff (f : σ → Except ε α) (put : α → σ → σ) {s t : σ} :
    (do
      let s ← get
      let a ← attempt (f s)
      set (put a s) : Fallible ε σ Unit) s = .ok () t ↔ ∃ a, f s = .ok a ∧ t = put a s := by
  rw [bind_of_ok (get_apply s), bind_eq_ok_iff]
  constructor
  · rintro ⟨a, _, ha, hput⟩
    obtain ⟨hf, rfl⟩ := attempt_eq_ok_iff.mp ha
    exact ⟨a, hf, (EStateM.Result.ok.inj hput).2.symm⟩
  · rintro ⟨a, hf, rfl⟩
    exact ⟨a, s, attempt_eq_ok_iff.mpr ⟨hf, rfl⟩, rfl⟩

/-- And when the computation stops, the state is as it was. -/
theorem update_error (f : σ → Except ε α) (put : α → σ → σ) {s t : σ} {e : ε}
    (h : (do
      let s ← get
      let a ← attempt (f s)
      set (put a s) : Fallible ε σ Unit) s = .error e t) : s = t := by
  rw [bind_of_ok (get_apply s)] at h
  rcases attempt_bind_eq_error h with rfl | ⟨a, -, hput⟩
  · rfl
  · cases hput

@[simp] theorem expect_some (a : α) (e : ε) (s : σ) :
    (expect (some a) e : Fallible ε σ α) s = .ok a s := rfl

@[simp] theorem expect_none (e : ε) (s : σ) :
    (expect none e : Fallible ε σ α) s = .error e s := rfl

/-! ### Lists of computations -/

theorem filterAuxM_of_ok {p : α → Except ε Bool} {q : α → Bool} (h : ∀ a, p a = .ok (q a))
    (l acc : List α) : List.filterAuxM p l acc = .ok ((l.filter q).reverse ++ acc) := by
  induction l generalizing acc with
  | nil => rfl
  | cons a l ih =>
    rw [List.filterAuxM, h]
    change List.filterAuxM p l (cond (q a) (a :: acc) acc) = _
    rw [ih]
    cases hq : q a <;> simp [hq]

/-- A filter by a test that never fails. -/
theorem filterM_of_ok {p : α → Except ε Bool} {q : α → Bool} (h : ∀ a, p a = .ok (q a))
    (l : List α) : l.filterM p = .ok (l.filter q) := by
  rw [List.filterM, filterAuxM_of_ok h, List.append_nil]
  exact congrArg Except.ok (List.reverse_reverse _)

theorem mapM_eq_error {f : α → Except ε β} {l : List α} {e : ε} (h : l.mapM f = .error e) :
    ∃ a ∈ l, f a = .error e := by
  induction l with
  | nil => cases h
  | cons a l ih =>
    rw [List.mapM_cons] at h
    obtain ha | ⟨b, -, h⟩ := except_bind_eq_error_iff.mp h
    · exact ⟨a, List.mem_cons_self, ha⟩
    · obtain hl | ⟨bs, -, h⟩ := except_bind_eq_error_iff.mp h
      · obtain ⟨a', hmem, ha'⟩ := ih hl
        exact ⟨a', List.mem_cons_of_mem a hmem, ha'⟩
      · cases h

/-- What a traversal returns stands, element by element, for the list. -/
theorem forall₂_of_mapM {f : α → Except ε β} {l : List α} {bs : List β} (h : l.mapM f = .ok bs) :
    List.Forall₂ (fun a b => f a = .ok b) l bs := by
  induction l generalizing bs with
  | nil =>
    cases h
    exact .nil
  | cons a l ih =>
    rw [List.mapM_cons] at h
    obtain ⟨b, ha, h⟩ := except_bind_eq_ok_iff.mp h
    obtain ⟨bs, hl, h⟩ := except_bind_eq_ok_iff.mp h
    cases h
    exact .cons ha (ih hl)

theorem mem_iff_of_mapM {f : α → Except ε β} {l : List α} {bs : List β} (h : l.mapM f = .ok bs)
    {b : β} : b ∈ bs ↔ ∃ a ∈ l, f a = .ok b := by
  have hall := forall₂_of_mapM h
  clear h
  induction hall with
  | nil => simp
  | cons ha _ ih => simp [ih, ha, eq_comm (a := b)]

/-- A traversal and then a map is the traversal that maps each time. -/
theorem map_mapM {γ : Type} (f : α → Except ε β) (g : β → γ) (l : List α) :
    (l.mapM f).map (List.map g) = l.mapM fun a => (f a).map g := by
  induction l with
  | nil => rfl
  | cons a l ih =>
    rw [List.mapM_cons, List.mapM_cons, ← ih]
    cases f a with
    | error e => rfl
    | ok b => cases l.mapM f <;> rfl

theorem mapM_congr_of_forall₂ {γ : Type} {f : α → Except ε β} {f' : γ → Except ε β} {l : List α}
    {l' : List γ} (h : List.Forall₂ (fun a a' => f a = f' a') l l') : l.mapM f = l'.mapM f' := by
  induction h with
  | nil => rfl
  | cons ha _ ih => rw [List.mapM_cons, List.mapM_cons, ha, ih]

theorem mapM_eq_ok {f : α → Except ε β} {l : List α} {bs : List β} (h : l.mapM f = .ok bs) :
    ∀ a ∈ l, ∃ b, f a = .ok b := by
  induction l generalizing bs with
  | nil => exact List.forall_mem_nil _
  | cons a l ih =>
    rw [List.mapM_cons] at h
    obtain ⟨b, ha, h⟩ := except_bind_eq_ok_iff.mp h
    obtain ⟨bs, hl, -⟩ := except_bind_eq_ok_iff.mp h
    exact List.forall_mem_cons.mpr ⟨⟨b, ha⟩, ih hl⟩

/-- If the computation fails, then with an exit in `E`. -/
def FailsOnly (E : ε → Prop) (x : Except ε α) : Prop := ∀ e, x = .error e → E e

/-- If the program stops from this state, then with an exit in `E`. -/
def StopsOnly (E : ε → Prop) (x : Fallible ε σ α) (s : σ) : Prop := ∀ e t, x s = .error e t → E e

namespace FailsOnly

variable {E : ε → Prop}

theorem ok (a : α) : FailsOnly E (.ok a) := by
  intro e h
  cases h

theorem error_iff {e : ε} : FailsOnly E (.error e : Except ε α) ↔ E e := by
  constructor
  · exact fun h => h e rfl
  · intro h _ he
    rwa [← Except.error.inj he]

theorem bind_iff {x : Except ε α} {f : α → Except ε β} :
    FailsOnly E (x >>= f) ↔ FailsOnly E x ∧ ∀ a, x = .ok a → FailsOnly E (f a) := by
  constructor
  · intro h
    refine ⟨fun e he => h e (except_bind_eq_error_iff.mpr (.inl he)), fun a ha e he => ?_⟩
    exact h e (except_bind_eq_error_iff.mpr (.inr ⟨a, ha, he⟩))
  · rintro ⟨hx, hf⟩ e he
    obtain he | ⟨a, ha, he⟩ := except_bind_eq_error_iff.mp he
    · exact hx e he
    · exact hf a ha e he

end FailsOnly

namespace StopsOnly

variable {E : ε → Prop} {s : σ}

theorem pure (a : α) : StopsOnly E (Pure.pure a : Fallible ε σ α) s := by
  intro e t h
  cases h

theorem throw_iff {e : ε} : StopsOnly E (throw e : Fallible ε σ α) s ↔ E e := by
  constructor
  · exact fun h => h e s rfl
  · intro h e' t he
    obtain ⟨rfl, -⟩ := EStateM.Result.error.inj he
    exact h

theorem bind_iff {x : Fallible ε σ α} {f : α → Fallible ε σ β} :
    StopsOnly E (x >>= f) s ↔ StopsOnly E x s ∧ ∀ a t, x s = .ok a t → StopsOnly E (f a) t := by
  constructor
  · intro h
    refine ⟨fun e t he => h e t (bind_of_error he), fun a t ha e u he => h e u ?_⟩
    rw [bind_of_ok ha, he]
  · rintro ⟨hx, hf⟩ e u he
    cases hxs : x s with
    | ok a t =>
      rw [bind_of_ok hxs] at he
      exact hf a t hxs e u he
    | error e' t =>
      rw [bind_of_error hxs] at he
      obtain ⟨rfl, -⟩ := EStateM.Result.error.inj he
      exact hx e' t hxs

/-- Behind a step that always returns, only the rest can stop. -/
theorem bind_of_ok_iff {x : Fallible ε σ α} {f : α → Fallible ε σ β} {a : α} {t : σ}
    (h : x s = .ok a t) : StopsOnly E (x >>= f) s ↔ StopsOnly E (f a) t := by
  unfold StopsOnly
  rw [Fallible.bind_of_ok h]

theorem attempt_iff {x : Except ε α} :
    StopsOnly E (attempt x : Fallible ε σ α) s ↔ FailsOnly E x := by
  cases x with
  | ok a => exact ⟨fun _ => .ok a, fun _ => pure a⟩
  | error e => exact throw_iff.trans FailsOnly.error_iff.symm

theorem ensure {c : Bool} {e : ε} (h : c = false → E e) :
    StopsOnly E (Fallible.ensure c e : Fallible ε σ Unit) s := by
  cases c with
  | false => exact throw_iff.mpr (h rfl)
  | true => exact pure ()

theorem attempt_bind_iff {x : Except ε α} {f : α → Fallible ε σ β} :
    StopsOnly E (attempt x >>= f) s ↔
      FailsOnly E x ∧ ∀ a, x = .ok a → StopsOnly E (f a) s := by
  rw [bind_iff, attempt_iff]
  refine and_congr_right fun _ => ⟨fun h a ha => ?_, fun h a t ha => ?_⟩
  · exact h a s (attempt_eq_ok_iff.mpr ⟨ha, rfl⟩)
  · obtain ⟨hx, rfl⟩ := attempt_eq_ok_iff.mp ha
    exact h a hx

theorem zoom_iff {τ : Type} {part : τ → σ} {put : σ → τ → τ} {x : Fallible ε σ α} {t : τ} :
    StopsOnly E (zoom part put x) t ↔ StopsOnly E x (part t) := by
  constructor
  · exact fun h e s he => h e (put s t) (zoom_of_error he)
  · intro h e u he
    cases hx : x (part t) with
    | ok a s =>
      rw [zoom_of_ok hx] at he
      cases he
    | error e' s =>
      rw [zoom_of_error hx] at he
      obtain ⟨rfl, -⟩ := EStateM.Result.error.inj he
      exact h e' s hx

theorem outcome_iff {x : Fallible ε σ α} : FailsOnly E (outcome x s).1 ↔ StopsOnly E x s := by
  unfold StopsOnly
  rw [outcome]
  cases x s with
  | ok a t => exact iff_of_true (FailsOnly.ok a) fun e u h => by cases h
  | error e t =>
    rw [FailsOnly.error_iff]
    constructor
    · intro h e' u he
      obtain ⟨rfl, -⟩ := EStateM.Result.error.inj he
      exact h
    · exact fun h => h e t rfl

theorem adaptExcept_iff {ε' : Type} {g : ε' → ε} {x : Fallible ε' σ α} :
    StopsOnly E (EStateM.adaptExcept g x : Fallible ε σ α) s ↔
      StopsOnly (fun e => E (g e)) x s := by
  unfold StopsOnly
  rw [EStateM.adaptExcept]
  cases hx : x s with
  | ok a t =>
    exact iff_of_true (fun e u h => by cases h) (fun e u h => by cases h)
  | error e t =>
    constructor
    · intro h e' u he
      obtain ⟨rfl, rfl⟩ := EStateM.Result.error.inj he
      exact h (g e) t rfl
    · intro h e' u he
      obtain ⟨rfl, rfl⟩ := EStateM.Result.error.inj he
      exact h e t rfl

end StopsOnly

/-! ### What a program preserves -/

/-- The program preserves a property of the state, whether it returns or stops. -/
def Preserves (P : σ → Prop) (x : Fallible ε σ α) : Prop := ∀ s, P s → P (after x s)

/-- The program leaves a part of the state as it was. -/
def Keeps {τ : Type} (part : σ → τ) (x : Fallible ε σ α) : Prop :=
  ∀ s, part (after x s) = part s

namespace Preserves

variable {P : σ → Prop}

theorem pure (a : α) : Preserves P (Pure.pure a : Fallible ε σ α) := fun _ h => h

theorem get : Preserves P (MonadState.get : Fallible ε σ σ) := fun _ h => h

theorem attempt (x : Except ε α) : Preserves P (Fallible.attempt x : Fallible ε σ α) := by
  intro s h
  cases x <;> exact h

theorem expect (x : Option α) (e : ε) : Preserves P (Fallible.expect x e : Fallible ε σ α) := by
  intro s h
  cases x <;> exact h

theorem modify {f : σ → σ} (hf : ∀ s, P s → P (f s)) :
    Preserves P (modifyThe σ f : Fallible ε σ PUnit) := hf

theorem bind {x : Fallible ε σ α} {f : α → Fallible ε σ β} (hx : Preserves P x)
    (hf : ∀ a, Preserves P (f a)) : Preserves P (x >>= f) := by
  intro s hs
  have hstate := hx s hs
  cases h : x s with
  | ok a t =>
    rw [after_of_ok h] at hstate
    rw [after_bind_of_ok h]
    exact hf a t hstate
  | error e t =>
    rwa [after_bind_of_error h, ← after_of_error h]

end Preserves

namespace Keeps

variable {τ : Type} {part : σ → τ}

theorem iff_preserves {x : Fallible ε σ α} :
    Keeps part x ↔ ∀ v, Preserves (fun s => part s = v) x :=
  ⟨fun h _ s hs => (h s).trans hs, fun h s => h _ s rfl⟩

theorem pure (a : α) : Keeps part (Pure.pure a : Fallible ε σ α) := fun _ => rfl

theorem get : Keeps part (MonadState.get : Fallible ε σ σ) := fun _ => rfl

theorem attempt (x : Except ε α) : Keeps part (Fallible.attempt x : Fallible ε σ α) :=
  iff_preserves.mpr fun _ => .attempt x

theorem expect (x : Option α) (e : ε) : Keeps part (Fallible.expect x e : Fallible ε σ α) :=
  iff_preserves.mpr fun _ => .expect x e

theorem modify {f : σ → σ} (h : ∀ s, part (f s) = part s) :
    Keeps part (modifyThe σ f : Fallible ε σ PUnit) := h

theorem bind {x : Fallible ε σ α} {f : α → Fallible ε σ β} (hx : Keeps part x)
    (hf : ∀ a, Keeps part (f a)) : Keeps part (x >>= f) :=
  iff_preserves.mpr fun v => .bind (iff_preserves.mp hx v) fun a => iff_preserves.mp (hf a) v

end Keeps

/-- What comes after a program and keeps the whole state does not matter for it. -/
theorem after_bind_of_keeps {x : Fallible ε σ α} {f : α → Fallible ε σ β}
    (hf : ∀ a, Keeps (fun s => s) (f a)) (s : σ) : after (x >>= f) s = after x s := by
  cases h : x s with
  | ok a t =>
    rw [after_bind_of_ok h, after_of_ok h]
    exact hf a t
  | error e t => rw [after_bind_of_error h, after_of_error h]

end Fallible
