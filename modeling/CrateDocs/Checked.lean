/-!
Checks that find all faults. A value that was put together from checked parts is faulty if a part
is, and its faults are those of the parts in their order.
-/

namespace CrateDocs

inductive Checked (ε α : Type) where
  | ok (a : α)
  | error (faults : List ε)

namespace Checked

def fault (e : ε) : Checked ε α := error [e]

def ofExcept : Except ε α → Checked ε α
  | .ok a => ok a
  | .error e => fault e

instance : Applicative (Checked ε) where
  pure := ok
  seq f x := match f, x () with
    | ok g, ok a => ok (g a)
    | ok _, error es => error es
    | error es, ok _ => error es
    | error es, error es' => error (es ++ es')

def each (check : β → Checked ε α) : List β → Checked ε (List α)
  | [] => ok []
  | b :: r => List.cons <$> check b <*> each check r

def andThen (x : Checked ε α) (f : α → Except ε β) : Checked ε β :=
  match x with
  | ok a => ofExcept (f a)
  | error es => error es

def faults : Checked ε α → List ε
  | ok _ => []
  | error es => es

theorem faults_seq (f : Checked ε (α → β)) (x : Checked ε α) :
    (f <*> x).faults = f.faults ++ x.faults := by
  cases f <;> cases x <;> simp [faults, Seq.seq]

theorem seq_eq_ok_iff {f : Checked ε (α → β)} {x : Checked ε α} {b : β} :
    f <*> x = ok b ↔ ∃ g a, f = ok g ∧ x = ok a ∧ g a = b := by
  cases f <;> cases x <;> simp [Seq.seq]

theorem map_eq_ok_iff {f : α → β} {x : Checked ε α} {b : β} :
    f <$> x = ok b ↔ ∃ a, x = ok a ∧ f a = b := by
  have h : f <$> x = ok f <*> x := rfl
  rw [h, seq_eq_ok_iff]
  simp

theorem ofExcept_eq_ok_iff {x : Except ε α} {a : α} : ofExcept x = ok a ↔ x = .ok a := by
  cases x <;> simp [ofExcept, fault]

theorem andThen_eq_ok_iff {x : Checked ε α} {f : α → Except ε β} {b : β} :
    x.andThen f = ok b ↔ ∃ a, x = ok a ∧ f a = .ok b := by
  cases x <;> simp [andThen, ofExcept_eq_ok_iff]

end Checked

end CrateDocs
