import CliMetadata.Error

namespace CliMetadata

/-- A step on a state of type `σ` that yields an `α` or an error, and the state after it. A step
that fails keeps the changes made before it failed. -/
def Attempt (σ α : Type) : Type := σ → Except Error α × σ

namespace Attempt

variable {σ α β : Type}

def run (x : Attempt σ α) (s : σ) : Except Error α × σ := x s

def succeed (a : α) : Attempt σ α := fun s ↦ (.ok a, s)

def fail (e : Error) : Attempt σ α := fun s ↦ (.error e, s)

def andThen (x : Attempt σ α) (f : α → Attempt σ β) : Attempt σ β := fun s ↦
  match x s with
  | (.ok a, t) => f a t
  | (.error e, t) => (.error e, t)

theorem except_bind_eq_ok_iff {x : Except Error α} {f : α → Except Error β} {b : β} :
    x >>= f = .ok b ↔ ∃ a, x = .ok a ∧ f a = .ok b := by
  cases x with
  | error e => simp [bind, Except.bind]
  | ok a => simp [bind, Except.bind]

instance : Monad (Attempt σ) where
  pure := succeed
  bind := andThen

instance : MonadExceptOf Error (Attempt σ) where
  throw := fail
  tryCatch x handle := fun s ↦
    match x s with
    | (.ok a, t) => (.ok a, t)
    | (.error e, t) => handle e t

def update (f : σ → α × σ) : Attempt σ α := fun s ↦ (.ok (f s).1, (f s).2)

def ofExcept : Except Error α → Attempt σ α
  | .ok a => succeed a
  | .error e => fail e

def times : Nat → Attempt σ α → Attempt σ (List α)
  | 0, _ => succeed []
  | count + 1, x => do
    let a ← x
    let rest ← times count x
    pure (a :: rest)

@[simp] theorem pure_apply (a : α) (s : σ) : (pure a : Attempt σ α) s = (.ok a, s) := rfl

@[simp] theorem bind_apply (x : Attempt σ α) (f : α → Attempt σ β) (s : σ) :
    (x >>= f) s = match x s with
      | (.ok a, t) => f a t
      | (.error e, t) => (.error e, t) := rfl

@[simp] theorem throw_apply (e : Error) (s : σ) : (throw e : Attempt σ α) s = (.error e, s) := rfl

theorem bind_of_ok {x : Attempt σ α} {f : α → Attempt σ β} {s t : σ} {a : α}
    (h : x s = (.ok a, t)) : (x >>= f) s = f a t := by simp [h]

theorem bind_of_error {x : Attempt σ α} {f : α → Attempt σ β} {s t : σ} {e : Error}
    (h : x s = (.error e, t)) : (x >>= f) s = (.error e, t) := by simp [h]

theorem bind_eq_ok_iff {x : Attempt σ α} {f : α → Attempt σ β} {s t : σ} {b : β} :
    (x >>= f) s = (.ok b, t) ↔ ∃ a u, x s = (.ok a, u) ∧ f a u = (.ok b, t) := by
  rw [bind_apply]
  rcases x s with ⟨e | a, u⟩
  · simp
  · constructor
    · exact fun h ↦ ⟨a, u, rfl, h⟩
    · rintro ⟨_, _, h, hf⟩
      cases h
      exact hf

private theorem id_map_apply (x : Attempt σ α) : id <$> x = x := by
  funext s
  change (match x s with | (.ok a, t) => (.ok a, t) | (.error e, t) => (.error e, t)) = x s
  rcases x s with ⟨a | a, t⟩ <;> rfl

private theorem bind_assoc_apply {γ : Type} (x : Attempt σ α) (f : α → Attempt σ β)
    (g : β → Attempt σ γ) : x >>= f >>= g = x >>= fun a ↦ f a >>= g := by
  funext s
  simp only [bind_apply]
  rcases x s with ⟨a | a, t⟩ <;> rfl

instance : LawfulMonad (Attempt σ) :=
  LawfulMonad.mk' (Attempt σ) id_map_apply (fun _ _ ↦ rfl) bind_assoc_apply

end Attempt

end CliMetadata
