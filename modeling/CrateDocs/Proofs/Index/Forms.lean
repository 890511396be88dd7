import CrateDocs.Proofs.Index.Decode

/-!
The order of the written forms. A value with an item fits one form at most, and a value without items
is the same package in every form that it fits, so it does not matter in which order the forms are
tried.
-/

namespace CrateDocs.Index

open Json (Value)

variable {v : Value} {p q : Package} {f g : Format} {order : List Format}

/-- Decodes a package, in the first form that fits when they are tried in some order. -/
def decodePackageIn (order : List Format) (source : Option Path) (name : String) (v : Value) :
    Traced Error Package := do
  let (rejections, found) := decodeWith v order
  .notes (rejections.map (Rejection.event name))
  match found with
  | some (f, p) =>
    .note (.detailed .debug .schema "search index adapter matched"
      [("krate", Text.Quoted.quote name), ("adapter", Text.Quoted.quote f.name)])
    return p
  | none => .fail (.malformed source (.package name rejections))

theorem decodePackageIn_all : decodePackageIn Format.all = decodePackage := rfl

theorem eq_tuples_of_decode_tuples (hp : Format.tuples.decode v = .ok p) (hg : g.decode v = .ok q)
    (hne : p.entries ≠ []) : g = .tuples := by
  cases g with
  | tuples => rfl
  | columns =>
    obtain ⟨ms, c, rfl, hc, -⟩ := decode_columns_eq_ok_iff.mp hg
    have hnil := entries_nil_of_tuples_of_columns hp hc
    exact absurd hnil.1 hne
  | packed =>
    obtain ⟨ms, c, rfl, hc, -⟩ := decode_packed_eq_ok_iff.mp hg
    have hnil := entries_nil_of_tuples_of_columns hp hc
    exact absurd hnil.1 hne

theorem format_unique (hf : f.decode v = .ok p) (hg : g.decode v = .ok q) (hne : p.entries ≠ []) :
    f = g := by
  have hpq : p = q := decode_unique hf hg
  subst hpq
  cases f with
  | tuples => exact (eq_tuples_of_decode_tuples hf hg hne).symm
  | columns =>
    cases g with
    | tuples => exact eq_tuples_of_decode_tuples hg hf hne
    | columns => rfl
    | packed => exact absurd hg (not_packed_of_columns hf)
  | packed =>
    cases g with
    | tuples => exact eq_tuples_of_decode_tuples hg hf hne
    | columns => exact absurd hf (not_packed_of_columns hg)
    | packed => rfl

theorem decode_of_decodeWith (h : (decodeWith v order).2 = some (f, p)) : f.decode v = .ok p := by
  induction order with
  | nil => cases h
  | cons g r ih =>
    unfold decodeWith at h
    cases hg : g.decode v with
    | ok q =>
      rw [hg] at h
      cases h
      exact hg
    | error faults =>
      rw [hg] at h
      exact ih h

theorem formats_of_decodeWith (h : (decodeWith v order).2 = none) :
    (decodeWith v order).1.map Rejection.format = order := by
  induction order with
  | nil => rfl
  | cons g r ih =>
    unfold decodeWith at h ⊢
    cases hg : g.decode v with
    | ok q =>
      rw [hg] at h
      cases h
    | error faults =>
      rw [hg] at h
      exact congrArg (g :: ·) (ih h)

theorem result_decodePackageIn (order : List Format) (source : Option Path) (name : String)
    (v : Value) :
    (decodePackageIn order source name v).result = match (decodeWith v order).2 with
      | some (_, p) => .ok p
      | none => .error (.malformed source (.package name (decodeWith v order).1)) := by
  unfold decodePackageIn
  rcases decodeWith v order with ⟨rejections, _ | ⟨f, p⟩⟩ <;> rfl

theorem result_decodePackageIn_eq_ok_iff (horder : ∀ f, f ∈ order) (source : Option Path)
    (name : String) (v : Value) :
    (decodePackageIn order source name v).result = .ok p ↔ ∃ f : Format, f.decode v = .ok p := by
  rw [result_decodePackageIn]
  constructor
  · intro h
    cases hd : (decodeWith v order).2 with
    | none =>
      rw [hd] at h
      cases h
    | some found =>
      obtain ⟨f, q⟩ := found
      rw [hd] at h
      cases h
      exact ⟨f, decode_of_decodeWith hd⟩
  · rintro ⟨f, hf⟩
    obtain ⟨g, hg⟩ := decodeWith_of_decode (horder f) hf
    rw [hg]

theorem malformed_of_result_decodePackageIn {source : Option Path} {name : String} {e : Error}
    (h : (decodePackageIn order source name v).result = .error e) :
    ∃ rejections, rejections.map Rejection.format = order ∧
      e = .malformed source (.package name rejections) := by
  rw [result_decodePackageIn] at h
  cases hd : (decodeWith v order).2 with
  | none =>
    rw [hd] at h
    cases h
    exact ⟨(decodeWith v order).1, formats_of_decodeWith hd, rfl⟩
  | some found =>
    rw [hd] at h
    cases h

theorem exists_error_iff {ε α : Type} {x : Except ε α} :
    (∃ e, x = .error e) ↔ ∀ a, x ≠ .ok a := by
  cases x <;> simp

theorem decodePackageIn_perm (v : Value) :
    (∀ (f g : Format) (p q : Package), f.decode v = .ok p → g.decode v = .ok q →
      p = q ∧ (p.entries ≠ [] → f = g)) ∧
    ∀ order : List Format, order.Perm Format.all → ∀ source name,
      (∀ p, (decodePackageIn order source name v).result = .ok p ↔
        (decodePackage source name v).result = .ok p) ∧
      ((∃ e, (decodePackageIn order source name v).result = .error e) ↔
        ∃ e, (decodePackage source name v).result = .error e) ∧
      ∀ e, (decodePackageIn order source name v).result = .error e →
        ∃ rejections, rejections.map Rejection.format = order ∧
          e = .malformed source (.package name rejections) := by
  refine ⟨fun f g p q hf hg => ⟨decode_unique hf hg, format_unique hf hg⟩, ?_⟩
  intro order horder source name
  have hmem : ∀ f, f ∈ order := fun f => horder.mem_iff.mpr f.mem_all
  have hok : ∀ p, (decodePackageIn order source name v).result = .ok p ↔
      (decodePackage source name v).result = .ok p := by
    intro p
    rw [← decodePackageIn_all, result_decodePackageIn_eq_ok_iff hmem,
      result_decodePackageIn_eq_ok_iff Format.mem_all]
  refine ⟨hok, ?_, fun e he => malformed_of_result_decodePackageIn he⟩
  rw [exists_error_iff, exists_error_iff]
  exact forall_congr' fun p => not_congr (hok p)

def emptyPackage : Value :=
  .object [("t", .text ""), ("n", .list []), ("q", .list []), ("d", .list []), ("i", .list []),
    ("p", .list [.list [.int 8, .text "T"]])]

theorem decodePackageIn_perm_emptyPackage :
    Format.packed.decode emptyPackage = .ok ⟨[], [(8, "T")]⟩ ∧
      Format.tuples.decode emptyPackage = .ok ⟨[], [(8, "T")]⟩ ∧
      [Format.tuples, .columns, .packed].Perm Format.all ∧
      (decodePackageIn [.tuples, .columns, .packed] none "lib" emptyPackage).result =
        .ok ⟨[], [(8, "T")]⟩ := by
  have hpacked : Format.packed.decode emptyPackage = .ok ⟨[], [(8, "T")]⟩ := rfl
  have hperm : [Format.tuples, .columns, .packed].Perm Format.all := by decide
  refine ⟨hpacked, rfl, hperm, ?_⟩
  have hall : (decodePackage none "lib" emptyPackage).result = .ok ⟨[], [(8, "T")]⟩ :=
    result_decodePackage_of_decode hpacked none "lib"
  exact (((decodePackageIn_perm emptyPackage).2 _ hperm none "lib").1 _).mpr hall

end CrateDocs.Index
