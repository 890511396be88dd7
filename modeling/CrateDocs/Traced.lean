import CrateDocs.Log

/-!
Outcomes with the events that led to them. The events are kept when a failure ends the work.
-/

namespace CrateDocs

structure Traced (ε α : Type) where
  result : Except ε α
  events : List Event

namespace Traced

instance : Monad (Traced ε) where
  pure a := ⟨.ok a, []⟩
  bind x f :=
    match x.result with
    | .ok a => ⟨(f a).result, x.events ++ (f a).events⟩
    | .error e => ⟨.error e, x.events⟩

def note (e : Event) : Traced ε Unit := ⟨.ok (), [e]⟩

def notes (es : List Event) : Traced ε Unit := ⟨.ok (), es⟩

def fail (e : ε) : Traced ε α := ⟨.error e, []⟩

def ofExcept (x : Except ε α) : Traced ε α := ⟨x, []⟩

def mapError (f : ε → δ) (x : Traced ε α) : Traced δ α := ⟨x.result.mapError f, x.events⟩

@[simp] theorem result_pure (a : α) : (pure a : Traced ε α).result = .ok a := rfl

@[simp] theorem result_fail (e : ε) : (fail e : Traced ε α).result = .error e := rfl

@[simp] theorem result_ofExcept (x : Except ε α) : (ofExcept x).result = x := rfl

@[simp] theorem result_bind (x : Traced ε α) (f : α → Traced ε β) :
    (x >>= f).result = x.result.bind fun a => (f a).result := by
  simp only [bind]
  cases x.result <;> rfl

theorem bind_eq_ok_iff {x : Traced ε α} {f : α → Traced ε β} {b : β} :
    (x >>= f).result = .ok b ↔ ∃ a, x.result = .ok a ∧ (f a).result = .ok b := by
  rw [result_bind]
  cases x.result <;> simp [Except.bind]

theorem bind_eq_error_iff {x : Traced ε α} {f : α → Traced ε β} {e : ε} :
    (x >>= f).result = .error e ↔
      x.result = .error e ∨ ∃ a, x.result = .ok a ∧ (f a).result = .error e := by
  rw [result_bind]
  cases x.result <;> simp [Except.bind]

@[simp] theorem result_note_bind (e : Event) (f : Unit → Traced ε β) :
    (note e >>= f).result = (f ()).result := rfl

@[simp] theorem result_notes_bind (es : List Event) (f : Unit → Traced ε β) :
    (notes es >>= f).result = (f ()).result := rfl

end Traced

end CrateDocs
