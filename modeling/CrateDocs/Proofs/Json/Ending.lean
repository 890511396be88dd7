import CrateDocs.Json.Parser
import Mathlib.Data.List.TakeWhile

/-!
How a text of JSON ends. Outside of strings no backslash belongs to a value, and a string goes on after
one, so a text whose last character is a backslash is no text of JSON.
-/

namespace CrateDocs.Json

variable {α β ε : Type} {c d : Cursor} {n fuel start : Nat}

theorem exists_of_bind_eq_ok {x : Except ε α} {f : α → Except ε β} {b : β}
    (h : (x >>= f) = .ok b) : ∃ a, x = .ok a ∧ f a = .ok b := by
  cases x with
  | error e => cases h
  | ok a => exact ⟨a, rfl, h⟩

theorem take_length_takeWhile (p : Char → Bool) (s : List Char) :
    s.take (s.takeWhile p).length = s.takeWhile p :=
  (List.prefix_iff_eq_take.mp (List.takeWhile_prefix p)).symm

def IsOpen (c : Cursor) : Prop := ∃ s, c.rest = s ++ ['\\']

/-- A reader that never reads up to the end of such a text. -/
def KeepsOpen (read : Reader α) : Prop := ∀ c a d, read c = .ok (a, d) → IsOpen c → IsOpen d

theorem isOpen_advance (h : IsOpen c) (hn : '\\' ∉ c.rest.take n) : IsOpen (c.advance n) := by
  obtain ⟨s, hs⟩ := h
  have hle : n ≤ s.length := by
    by_contra hlt
    have htake : c.rest.take n = s ++ ['\\'] := by
      rw [hs]
      apply List.take_of_length_le
      rw [List.length_append, List.length_singleton]
      omega
    apply hn
    rw [htake]
    simp
  refine ⟨s.drop n, ?_⟩
  rw [Text.Cursor.advance, hs, List.drop_append_of_le_length hle]

theorem isOpen_advance_one {e : Char} {r : List Char} (h : IsOpen c) (hc : c.rest = e :: r)
    (he : e ≠ '\\') : IsOpen (c.advance 1) := by
  apply isOpen_advance h
  rw [hc]
  simpa using he.symm

theorem isOpen_skipSpaces (h : IsOpen c) : IsOpen (skipSpaces c) := by
  apply isOpen_advance h
  intro hm
  rw [Text.Cursor.run, take_length_takeWhile] at hm
  have hspace := List.mem_takeWhile_imp hm
  exact absurd hspace (by decide)

theorem isOpen_or_nil_advance (h : c.rest = [] ∨ IsOpen c) (n : Nat) :
    (c.advance n).rest = [] ∨ IsOpen (c.advance n) := by
  rcases h with h | ⟨s, hs⟩
  · left
    rw [Text.Cursor.advance, h, List.drop_nil]
  · by_cases hle : n ≤ s.length
    · right
      refine ⟨s.drop n, ?_⟩
      rw [Text.Cursor.advance, hs, List.drop_append_of_le_length hle]
    · left
      rw [Text.Cursor.advance, hs]
      apply List.drop_eq_nil_of_le
      rw [List.length_append, List.length_singleton]
      omega

theorem isOpen_of_stringFrom {acc s : List Char} (hc : c.rest = [] ∨ IsOpen c)
    (h : stringFrom start fuel acc c = .ok (s, d)) : IsOpen d := by
  induction fuel generalizing acc c with
  | zero => cases h
  | succ fuel ih =>
    unfold stringFrom at h
    split at h
    · cases h
    · next r hr =>
      cases h
      rcases hc with hnil | hopen
      · rw [hr] at hnil
        cases hnil
      · exact isOpen_advance_one hopen hr (by decide)
    · cases h
    · split at h
      · exact ih (isOpen_or_nil_advance hc _) h
      · cases h
    · split at h
      · exact ih (isOpen_or_nil_advance hc _) h
      · cases h
    · split at h
      · cases h
      · exact ih (isOpen_or_nil_advance hc _) h

theorem isOpen_of_string {r : List Char} {s : String} (hc : IsOpen c) (hr : c.rest = '"' :: r)
    (h : string fuel c = .ok (s, d)) : IsOpen d := by
  obtain ⟨⟨t, d'⟩, ht, he⟩ := exists_of_bind_eq_ok h
  cases he
  have hopen : IsOpen (c.advance 1) := isOpen_advance_one hc hr (by decide)
  exact isOpen_of_stringFrom (.inr hopen) ht

theorem not_mem_take_digits (s : List Char) :
    '\\' ∉ s.take (s.takeWhile Char.isDigit).length := by
  intro h
  rw [take_length_takeWhile] at h
  have hdigit := List.mem_takeWhile_imp h
  exact absurd hdigit (by decide)

theorem not_mem_take_add {s : List Char} {m n : Nat} (hm : '\\' ∉ s.take m)
    (hn : '\\' ∉ (s.drop m).take n) : '\\' ∉ s.take (m + n) := by
  rw [List.take_add, List.mem_append]
  rintro (h | h)
  · exact hm h
  · exact hn h

theorem not_mem_take_exponent {s : List Char} {x : Int} (h : exponent? s = some (x, n)) :
    '\\' ∉ s.take n := by
  cases s with
  | nil => cases h
  | cons e r =>
    simp only [exponent?] at h
    split at h
    · next he =>
      have hfirst (t : List Char) : '\\' ∉ (e :: t).take 1 := by
        rcases he with rfl | rfl <;> simp
      -- A sign, if there is one, and the digits.
      split at h <;> split at h
      · cases h
      · next t _ =>
        obtain ⟨-, rfl⟩ := Prod.mk.inj (Option.some.inj h)
        have hsign : '\\' ∉ (e :: '-' :: t).take (1 + 1) :=
          not_mem_take_add (hfirst _) (by simp)
        exact not_mem_take_add hsign (not_mem_take_digits t)
      · cases h
      · next t _ =>
        obtain ⟨-, rfl⟩ := Prod.mk.inj (Option.some.inj h)
        have hsign : '\\' ∉ (e :: '+' :: t).take (1 + 1) :=
          not_mem_take_add (hfirst _) (by simp)
        exact not_mem_take_add hsign (not_mem_take_digits t)
      · cases h
      · obtain ⟨-, rfl⟩ := Prod.mk.inj (Option.some.inj h)
        exact not_mem_take_add (hfirst r) (not_mem_take_digits r)
    · cases h

theorem not_mem_take_whole (s : List Char) :
    '\\' ∉ s.take (match s with
      | '0' :: _ => ['0']
      | r => r.takeWhile Char.isDigit).length := by
  split
  · simp
  · exact not_mem_take_digits s

theorem not_mem_take_fraction (s : List Char) :
    '\\' ∉ s.take (match (match s with
        | '.' :: r =>
          if (r.takeWhile Char.isDigit).isEmpty then none else some (r.takeWhile Char.isDigit)
        | _ => none) with
      | some f => f.length + 1
      | none => 0) := by
  split
  · next f hf =>
    split at hf
    · next r =>
      split at hf
      · cases hf
      · obtain rfl := Option.some.inj hf
        have hdigits := not_mem_take_digits r
        rw [List.take_succ_cons, List.mem_cons, not_or]
        exact ⟨by decide, hdigits⟩
    · cases hf
  · simp

theorem not_mem_take_numeral {s : List Char} {x : Decimal.Numeral}
    (h : numeral? s = some (x, n)) : '\\' ∉ s.take n := by
  unfold numeral? at h
  extract_lets negative s1 whole s2 fraction size at h
  split at h
  · cases h
  · have hsign : '\\' ∉ s.take (if negative then 1 else 0) := by
      split
      · next hn =>
        obtain ⟨t, ht⟩ := List.head?_eq_some_iff.mp (beq_iff_eq.mp hn)
        simp [ht]
      · simp
    have hs1 : s.drop (if negative then 1 else 0) = s1 := by
      simp only [s1]
      split <;> rfl
    have hsize : '\\' ∉ s.take size := by
      apply not_mem_take_add
      · apply not_mem_take_add hsign
        rw [hs1]
        exact not_mem_take_whole s1
      · rw [← List.drop_drop, hs1]
        exact not_mem_take_fraction s2
    split at h
    · next e m he =>
      obtain ⟨-, rfl⟩ := Prod.mk.inj (Option.some.inj h)
      exact not_mem_take_add hsize (not_mem_take_exponent he)
    · obtain ⟨-, rfl⟩ := Prod.mk.inj (Option.some.inj h)
      exact hsize

theorem not_mem_constants {word : String} {v : Value} (h : (word, v) ∈ constants) :
    '\\' ∉ word.toList := by
  have hall : ∀ w ∈ constants.map Prod.fst, '\\' ∉ w.toList := by decide
  exact hall word (List.mem_map_of_mem h)

theorem keepsOpen_scalar : KeepsOpen scalar := by
  intro c v d h hc
  unfold scalar at h
  split at h
  · next word w hw =>
    cases h
    apply isOpen_advance hc
    have hprefix := List.find?_some hw
    have htake : c.rest.take word.length = word.toList := by
      have hp := List.prefix_iff_eq_take.mp (List.isPrefixOf_iff_prefix.mp hprefix)
      rw [← String.length_toList]
      exact hp.symm
    rw [htake]
    exact not_mem_constants (List.mem_of_find?_eq_some hw)
  · split at h
    · next x n hx =>
      split at h
      · cases h
      · cases h
        exact isOpen_advance hc (not_mem_take_numeral hx)
    · cases h

section Containers

variable {value : Reader Value} (hvalue : KeepsOpen value)

include hvalue

theorem isOpen_of_items {acc vs : List Value} (hc : IsOpen c)
    (h : items value fuel acc c = .ok (vs, d)) : IsOpen d := by
  induction fuel generalizing acc c with
  | zero => cases h
  | succ fuel ih =>
    obtain ⟨⟨v, c₁⟩, hv, h⟩ := exists_of_bind_eq_ok h
    have hafter : IsOpen (skipSpaces c₁) := isOpen_skipSpaces (hvalue c v c₁ hv hc)
    dsimp only at h
    split at h
    · next r hr =>
      cases h
      exact isOpen_advance_one hafter hr (by decide)
    · next r hr =>
      have hcomma := isOpen_advance_one hafter hr (by decide)
      exact ih (isOpen_skipSpaces hcomma) h
    · cases h

theorem isOpen_of_members {room : Nat} {acc ms : List (String × Value)} (hc : IsOpen c)
    (h : members room value fuel acc c = .ok (ms, d)) : IsOpen d := by
  -- By induction on the members that are left to read: the key, the colon, the value and the comma
  -- each leave the end of the text unread.
  induction fuel generalizing acc c with
  | zero => cases h
  | succ fuel ih =>
    unfold members at h
    split at h
    · next r hr =>
      obtain ⟨⟨key, c₁⟩, hk, h⟩ := exists_of_bind_eq_ok h
      have hkey : IsOpen (skipSpaces c₁) := isOpen_skipSpaces (isOpen_of_string hc hr hk)
      dsimp only at h
      split at h
      · next t ht =>
        have hcolon := isOpen_skipSpaces (isOpen_advance_one hkey ht (by decide))
        obtain ⟨⟨v, c₂⟩, hv, h⟩ := exists_of_bind_eq_ok h
        have hafter : IsOpen (skipSpaces c₂) := isOpen_skipSpaces (hvalue _ v c₂ hv hcolon)
        dsimp only at h
        split at h
        · next u hu =>
          cases h
          exact isOpen_advance_one hafter hu (by decide)
        · next u hu =>
          have hcomma := isOpen_advance_one hafter hu (by decide)
          exact ih (isOpen_skipSpaces hcomma) h
        · cases h
      · cases h
    · cases h

end Containers

theorem keepsOpen_valueIn (room depth : Nat) : KeepsOpen (valueIn room depth) := by
  -- By induction on the containers that may still be opened. A value ends with a quote, a bracket
  -- or the end of a scalar, and none of them is the backslash.
  induction depth with
  | zero =>
    intro c v d h hc
    unfold valueIn at h
    split at h
    · cases h
    · cases h
    · next r hr =>
      obtain ⟨⟨s, c₁⟩, hs, h⟩ := exists_of_bind_eq_ok h
      cases h
      exact isOpen_of_string hc hr hs
    · exact keepsOpen_scalar c v d h hc
  | succ depth ih =>
    intro c v d h hc
    unfold valueIn at h
    split at h
    · next r hr =>
      have hinside := isOpen_skipSpaces (isOpen_advance_one hc hr (by decide))
      dsimp only at h
      split at h
      · next t ht =>
        cases h
        exact isOpen_advance_one hinside ht (by decide)
      · obtain ⟨⟨vs, c₁⟩, hvs, h⟩ := exists_of_bind_eq_ok h
        cases h
        exact isOpen_of_items ih hinside hvs
    · next r hr =>
      have hinside := isOpen_skipSpaces (isOpen_advance_one hc hr (by decide))
      dsimp only at h
      split at h
      · next t ht =>
        cases h
        exact isOpen_advance_one hinside ht (by decide)
      · obtain ⟨⟨ms, c₁⟩, hms, h⟩ := exists_of_bind_eq_ok h
        cases h
        exact isOpen_of_members ih hinside hms
    · next r hr =>
      obtain ⟨⟨s, c₁⟩, hs, h⟩ := exists_of_bind_eq_ok h
      cases h
      exact isOpen_of_string hc hr hs
    · exact keepsOpen_scalar c v d h hc

theorem parse_concat_backslash (s : List Char) (v : Value) : parse (s ++ ['\\']) ≠ .ok v := by
  intro h
  unfold parse at h
  split at h
  · cases h
  · obtain ⟨⟨w, c⟩, hw, h⟩ := exists_of_bind_eq_ok h
    have hstart : IsOpen ⟨s ++ ['\\'], 0⟩ := ⟨s, rfl⟩
    have hend : IsOpen (skipSpaces c) :=
      isOpen_skipSpaces (keepsOpen_valueIn _ _ _ w c hw (isOpen_skipSpaces hstart))
    obtain ⟨t, ht⟩ := hend
    dsimp only at h
    split at h
    · next he => simp [ht] at he
    · cases h

end CrateDocs.Json
