import CrateDocs.Plan

/-!
What a plan comes to in a world. A plan ensures something in a world if every value that it comes to
there has it; a plan that fails ensures anything.
-/

namespace CrateDocs.Plan

variable {ε δ α β : Type} {w : World} {Q : α → Prop} {R : β → Prop}

def Ensures (w : World) (p : Plan ε α) (Q : α → Prop) : Prop :=
  ∀ a, (p.run w).result = .ok a → Q a

theorem Ensures.mono {Q' : α → Prop} {p : Plan ε α} (h : Ensures w p Q) (hq : ∀ a, Q a → Q' a) :
    Ensures w p Q' :=
  fun a ha => hq a (h a ha)

theorem ensures_result (w : World) (p : Plan ε α) :
    Ensures w p fun a => (p.run w).result = .ok a :=
  fun _ => id

theorem ensures_pure {a : α} (h : Q a) : Ensures w (pure a : Plan ε α) Q := by
  rintro b hb
  obtain rfl : a = b := Except.ok.inj hb
  exact h

theorem ensures_fail (e : ε) (Q : α → Prop) : Ensures w (fail e : Plan ε α) Q := by
  rintro a ha
  cases ha

theorem ensures_question {q : Question} {Q : q.Answer → Prop} (h : Q (w q)) :
    Ensures w (question q : Plan ε q.Answer) Q := by
  rintro a ha
  obtain rfl : w q = a := Except.ok.inj ha
  exact h

theorem ensures_ofExcept {f : ε → δ} {x : Except ε α} (h : ∀ a, x = .ok a → Q a) :
    Ensures w (ofExcept (x.mapError f)) Q := by
  cases x with
  | ok a => exact ensures_pure (h a rfl)
  | error e => exact ensures_fail (f e) Q

theorem ensures_bind {p : Plan ε α} {f : α → Plan ε β}
    (h : Ensures w p fun a => Ensures w (f a) R) : Ensures w (p >>= f) R := by
  intro b hb
  rw [run_bind, Traced.result_bind] at hb
  cases ha : (p.run w).result with
  | error e =>
    rw [ha] at hb
    cases hb
  | ok a =>
    rw [ha] at hb
    exact h a ha b hb

theorem ensures_of_forall {p : Plan ε α} {f : α → Plan ε β} (h : ∀ a, Ensures w (f a) R) :
    Ensures w (p >>= f) R :=
  ensures_bind fun a _ => h a

theorem result_run_notes (w : World) (es : List Event) :
    ((notes es : Plan ε Unit).run w).result = .ok () := by
  induction es with
  | nil => rfl
  | cons e r ih => exact ih

theorem result_run_mapError (f : ε → δ) (p : Plan ε α) :
    ((p.mapError f).run w).result = (p.run w).result.mapError f := by
  induction p with
  | done a => rfl
  | fail e => rfl
  | note e next ih => exact ih
  | ask q next ih => exact ih (w q)

theorem eq_ok_of_toOption {x : Except ε α} {a : α} (h : x.toOption = some a) : x = .ok a := by
  cases x with
  | error e => cases h
  | ok b => exact congrArg Except.ok (Option.some.inj h)

theorem result_run_firstFound {l : List δ} {p : δ → Plan ε (Option α)} {found : δ → Option α}
    (h : ∀ a ∈ l, ((p a).run w).result = .ok (found a)) :
    ((firstFound (l.map p)).run w).result = .ok (l.findSome? found) := by
  induction l with
  | nil => rfl
  | cons a r ih =>
    have ha := h a List.mem_cons_self
    have hr := ih fun b hb => h b (List.mem_cons_of_mem a hb)
    rw [List.map_cons, firstFound, run_bind, Traced.result_bind, ha, List.findSome?_cons]
    cases found a with
    | some b => rfl
    | none => exact hr

theorem ensures_mapError {f : ε → δ} {p : Plan ε α} (h : Ensures w p Q) :
    Ensures w (p.mapError f) Q := by
  intro a ha
  rw [result_run_mapError] at ha
  cases hp : (p.run w).result with
  | error e =>
    rw [hp] at ha
    cases ha
  | ok b =>
    rw [hp] at ha
    obtain rfl : b = a := Except.ok.inj ha
    exact h b hp

theorem ensures_firstFound {ps : List (Plan ε (Option α))} :
    Ensures w (firstFound ps) fun o => ∀ a ∈ o, ∃ p ∈ ps, (p.run w).result = .ok (some a) := by
  induction ps with
  | nil => exact ensures_pure (by simp)
  | cons p r ih =>
    refine ensures_bind fun o ho => ?_
    cases o with
    | none =>
      exact ih.mono fun o h a ha =>
        let ⟨q, hq, hr⟩ := h a ha
        ⟨q, List.mem_cons_of_mem p hq, hr⟩
    | some b =>
      refine ensures_pure fun a ha => ?_
      obtain rfl : b = a := Option.mem_some.mp ha
      exact ⟨p, List.mem_cons_self, ho⟩

end CrateDocs.Plan
