import CrateDocs.Proofs.Json.Ending

/-!
The limits of reading JSON. A reader goes forward from the start of a text, so what it stops at is in
the text: beyond the limits are only texts with a numeral of too many digits, or with more brackets
that open a container than containers may nest.
-/

namespace CrateDocs.Json

variable {α β : Type} {c : Cursor} {e : Error} {s t : List Char} {depth fuel start n : Nat}

def isBracket (c : Char) : Bool := c == '[' || c == '\x7b'

/-- A text with more digits in a row than a whole number may have. -/
def HasLongNumeral (s : List Char) : Prop :=
  ∃ digits, digits <:+: s ∧ (∀ c ∈ digits, c.isDigit = true) ∧
    Decimal.numeralLimit < digits.length

def IsCause (depth : Nat) (s : List Char) : Error → Prop
  | .at _ _ => True
  | .tooDeep => depth < s.countP isBracket
  | .numeralTooLong => HasLongNumeral s

def IsRead (depth : Nat) (s : List Char) : Except Error (α × Cursor) → Prop
  | .ok (_, d) => d.rest <:+ s
  | .error e => IsCause depth s e

theorem IsCause.mono (h : IsCause depth s e) (hs : s <:+ t) : IsCause depth t e := by
  cases e with
  | «at» f offset => trivial
  | tooDeep => exact lt_of_lt_of_le h hs.sublist.countP_le
  | numeralTooLong =>
    obtain ⟨digits, hdigits, hall, hlength⟩ := h
    exact ⟨digits, hdigits.trans hs.isInfix, hall, hlength⟩

theorem IsRead.mono {x : Except Error (α × Cursor)} (h : IsRead depth s x) (hs : s <:+ t) :
    IsRead depth t x := by
  cases x with
  | ok p => exact h.trans hs
  | error e => exact IsCause.mono h hs

theorem isRead_bind {x : Except Error (α × Cursor)}
    {f : α × Cursor → Except Error (β × Cursor)} (hx : IsRead depth s x)
    (hf : ∀ a d, d.rest <:+ s → IsRead depth s (f (a, d))) : IsRead depth s (x >>= f) := by
  cases x with
  | ok p => exact hf p.1 p.2 hx
  | error e => exact hx

theorem isRead_fail (f : Fault) : IsRead (α := α) depth s (fail c f) := trivial

def IsBounded (depth : Nat) (read : Reader α) : Prop := ∀ c, IsRead depth c.rest (read c)

theorem advance_suffix (c : Cursor) (n : Nat) : (c.advance n).rest <:+ c.rest :=
  List.drop_suffix n c.rest

theorem skipSpaces_suffix (c : Cursor) : (skipSpaces c).rest <:+ c.rest := advance_suffix c _

theorem isBounded_stringFrom (acc : List Char) : IsBounded depth (stringFrom start fuel acc) := by
  induction fuel generalizing acc with
  | zero => exact fun _ => trivial
  | succ fuel ih =>
    intro c
    have hstep (acc : List Char) (n : Nat) :
        IsRead depth c.rest (stringFrom start fuel acc (c.advance n)) :=
      (ih acc (c.advance n)).mono (advance_suffix c n)
    unfold stringFrom
    split
    · trivial
    · exact advance_suffix c 1
    · trivial
    · split
      · exact hstep _ _
      · trivial
    · split
      · exact hstep _ _
      · exact isRead_fail _
    · split
      · exact isRead_fail _
      · exact hstep _ _

theorem isBounded_string (fuel : Nat) : IsBounded depth (string fuel) := by
  intro c
  refine isRead_bind ((isBounded_stringFrom [] (c.advance 1)).mono (advance_suffix c 1)) ?_
  exact fun _ _ hd => hd

theorem isPrefix_whole (s : List Char) {whole : List Char}
    (h : whole = match s with
      | '0' :: _ => ['0']
      | r => r.takeWhile Char.isDigit) :
    whole <+: s ∧ ∀ c ∈ whole, c.isDigit = true := by
  subst h
  split
  · exact ⟨List.prefix_append ['0'] _, List.forall_mem_singleton.mpr (by decide)⟩
  · exact ⟨List.takeWhile_prefix _, fun _ hc => List.mem_takeWhile_imp hc⟩

theorem hasLongNumeral_of_isTooLong {x : Decimal.Numeral} (h : numeral? s = some (x, n))
    (hx : x.isTooLong = true) : HasLongNumeral s := by
  unfold numeral? at h
  extract_lets negative s1 whole s2 fraction size at h
  split at h
  · cases h
  · have hwhole : x.whole = whole := by
      split at h <;> obtain ⟨rfl, -⟩ := Prod.mk.inj (Option.some.inj h) <;> rfl
    have hs1 : s1 <:+ s := by
      simp only [s1]
      split
      · exact List.drop_suffix 1 s
      · exact List.suffix_rfl
    obtain ⟨hstart, hdigits⟩ := isPrefix_whole s1 rfl
    simp only [Decimal.Numeral.isTooLong, Bool.and_eq_true, decide_eq_true_eq] at hx
    exact ⟨whole, hstart.isInfix.trans hs1.isInfix, hdigits, hwhole ▸ hx.2⟩

theorem isBounded_scalar : IsBounded depth scalar := by
  intro c
  unfold scalar
  split
  · exact advance_suffix c _
  · split
    · next x n hx =>
      split
      · next hlong => exact hasLongNumeral_of_isTooLong hx hlong
      · exact advance_suffix c n
    · exact isRead_fail _

section Containers

variable {value : Reader Value} (hvalue : IsBounded depth value)

include hvalue

theorem isBounded_items (acc : List Value) : IsBounded depth (items value fuel acc) := by
  induction fuel generalizing acc with
  | zero => exact fun _ => isRead_fail _
  | succ fuel ih =>
    intro c
    refine isRead_bind (hvalue c) fun v d hd => ?_
    have hafter : (skipSpaces d).rest <:+ c.rest := (skipSpaces_suffix d).trans hd
    dsimp only
    split
    · exact (advance_suffix _ 1).trans hafter
    · exact (ih _ _).mono ((skipSpaces_suffix _).trans ((advance_suffix _ 1).trans hafter))
    · exact isRead_fail _

theorem isBounded_members {room : Nat} (acc : List (String × Value)) :
    IsBounded depth (members room value fuel acc) := by
  induction fuel generalizing acc with
  | zero => exact fun _ => isRead_fail _
  | succ fuel ih =>
    intro c
    unfold members
    split
    · refine isRead_bind (isBounded_string room c) fun key d hd => ?_
      have hkey : (skipSpaces d).rest <:+ c.rest := (skipSpaces_suffix d).trans hd
      dsimp only
      split
      · have hcolon := (skipSpaces_suffix _).trans ((advance_suffix (skipSpaces d) 1).trans hkey)
        refine isRead_bind ((hvalue _).mono hcolon) fun v d' hd' => ?_
        have hafter : (skipSpaces d').rest <:+ c.rest := (skipSpaces_suffix d').trans hd'
        dsimp only
        split
        · exact (advance_suffix _ 1).trans hafter
        · exact (ih _ _).mono ((skipSpaces_suffix _).trans ((advance_suffix _ 1).trans hafter))
        · exact isRead_fail _
      · exact isRead_fail _
    · exact isRead_fail _

end Containers

theorem IsRead.inside {x : Except Error (α × Cursor)} (h : IsRead depth s x) {b : Char}
    (hb : isBracket b = true) : IsRead (depth + 1) (b :: s) x := by
  cases x with
  | ok p => exact h.trans (List.suffix_cons b s)
  | error e =>
    cases e with
    | tooDeep =>
      have hcount : depth < s.countP isBracket := h
      rw [IsRead, IsCause, List.countP_cons_of_pos hb]
      omega
    | «at» f offset => trivial
    | numeralTooLong =>
      have hlong : IsCause depth s .numeralTooLong := h
      exact hlong.mono (List.suffix_cons b s)

theorem skipSpaces_inside {b : Char} (h : c.rest = b :: s) :
    (skipSpaces (c.advance 1)).rest <:+ s := by
  have hrest : (c.advance 1).rest = s := by rw [Text.Cursor.advance, h]; rfl
  exact hrest ▸ skipSpaces_suffix (c.advance 1)

theorem isBounded_valueIn (room depth : Nat) : IsBounded depth (valueIn room depth) := by
  -- By induction on the depth that is left: with none left a bracket is beyond the limit, and a
  -- bracket takes one.
  induction depth with
  | zero =>
    intro c
    unfold valueIn
    split
    · next r hr => simp [IsRead, IsCause, hr, isBracket]
    · next r hr => simp [IsRead, IsCause, hr, isBracket]
    · exact isRead_bind (isBounded_string room c) fun _ _ hd => hd
    · exact isBounded_scalar c
  | succ depth ih =>
    intro c
    unfold valueIn
    split
    · next r hr =>
      have hinside := skipSpaces_inside hr
      rw [hr]
      refine IsRead.inside ?_ (by decide)
      dsimp only
      split
      · exact (advance_suffix _ 1).trans hinside
      · exact isRead_bind ((isBounded_items ih [] _).mono hinside) fun _ _ hd => hd
    · next r hr =>
      have hinside := skipSpaces_inside hr
      rw [hr]
      refine IsRead.inside ?_ (by decide)
      dsimp only
      split
      · exact (advance_suffix _ 1).trans hinside
      · exact isRead_bind ((isBounded_members ih [] _).mono hinside) fun _ _ hd => hd
    · exact isRead_bind (isBounded_string room c) fun _ _ hd => hd
    · exact isBounded_scalar c

theorem isCause_of_parse (h : parse s = .error e) : IsCause depthLimit s e := by
  unfold parse at h
  split at h
  · cases h
    trivial
  · have hread : IsRead depthLimit s (valueIn (s.length + 1) depthLimit (skipSpaces ⟨s, 0⟩)) :=
      (isBounded_valueIn _ _ _).mono (skipSpaces_suffix ⟨s, 0⟩)
    cases hv : valueIn (s.length + 1) depthLimit (skipSpaces ⟨s, 0⟩) with
    | error e' =>
      rw [hv] at h hread
      cases h
      exact hread
    | ok p =>
      rw [hv] at h
      dsimp only [bind, Except.bind] at h
      split at h
      · cases h
      · cases h
        trivial

section Digits

variable {digits : List Char} {first : Char} {rest : List Char}

theorem numeral?_digits (hdigits : ∀ c ∈ first :: rest, c.isDigit = true) (hzero : first ≠ '0') :
    numeral? (first :: rest) = some (⟨false, first :: rest, none, none⟩, (first :: rest).length) := by
  have hsign : ((first :: rest).head? == some '-') = false := by
    rw [beq_eq_false_iff_ne]
    rintro h
    have hfirst := hdigits first List.mem_cons_self
    rw [Option.some.inj h] at hfirst
    exact absurd hfirst (by decide)
  unfold numeral?
  extract_lets negative s1 whole s2 fraction size
  have hs1 : s1 = first :: rest := by simp only [s1, negative, hsign, Bool.false_eq_true, if_false]
  have hwhole : whole = first :: rest := by
    simp only [whole, hs1]
    split
    · next h => exact absurd (List.cons.inj h).1 hzero
    · exact List.takeWhile_eq_self_iff.mpr hdigits
  have hs2 : s2 = [] := by simp only [s2, hs1, hwhole, List.drop_length]
  have hfraction : fraction = none := by simp only [fraction, hs2]
  have hsize : size = (first :: rest).length := by
    simp only [size, negative, hsign, hwhole, hfraction, Bool.false_eq_true, if_false]
    omega
  have hexponent : exponent? ((first :: rest).drop size) = none := by
    rw [hsize, List.drop_length, exponent?]
  rw [if_neg (by simp [hwhole]), hexponent]
  simp only [hwhole, hfraction, hsize, negative, hsign]

theorem constants_find?_digit {c : Cursor} (h : c.rest = first :: rest)
    (hdigit : first.isDigit = true) : (constants.find? fun k => c.startsWith k.1) = none := by
  rw [List.find?_eq_none]
  intro k hk hword
  have hp : k.1.toList <+: first :: rest := by
    rw [← h]
    exact List.isPrefixOf_iff_prefix.mp hword
  have hall : ∀ w ∈ constants.map Prod.fst,
      (w.toList.head?.any fun d => !d.isDigit) = true := by decide
  obtain ⟨d, hd, hno⟩ := (Option.any_eq_true _ _).mp (hall k.1 (List.mem_map_of_mem hk))
  obtain ⟨t, ht⟩ := List.head?_eq_some_iff.mp hd
  rw [ht] at hp
  obtain ⟨rfl, -⟩ := List.cons_prefix_cons.mp hp
  rw [hdigit] at hno
  exact Bool.noConfusion hno

theorem scalar_digits (hdigits : ∀ c ∈ first :: rest, c.isDigit = true) (hzero : first ≠ '0')
    (hlong : Decimal.numeralLimit < (first :: rest).length) (offset : Nat) :
    scalar ⟨first :: rest, offset⟩ = .error .numeralTooLong := by
  have hword := constants_find?_digit (c := ⟨first :: rest, offset⟩) rfl
    (hdigits first List.mem_cons_self)
  have htoo : (⟨false, first :: rest, none, none⟩ : Decimal.Numeral).isTooLong = true := by
    simpa [Decimal.Numeral.isTooLong, Decimal.Numeral.isWhole] using hlong
  simp only [scalar, hword, numeral?_digits hdigits hzero, htoo, if_pos]

theorem valueIn_of_isDigit {c : Cursor} (h : c.rest = first :: rest)
    (hdigit : first.isDigit = true) (room depth : Nat) : valueIn room depth c = scalar c := by
  have hne {d : Char} (hd : d.isDigit = false) {t : List Char} : c.rest ≠ d :: t := by
    intro he
    rw [(List.cons.inj (h.symm.trans he)).1] at hdigit
    exact Bool.noConfusion (hdigit.symm.trans hd)
  cases depth <;>
  · unfold valueIn
    split
    · next he => exact absurd he (hne (by decide))
    · next he => exact absurd he (hne (by decide))
    · next he => exact absurd he (hne (by decide))
    · rfl

theorem parse_digits (hdigits : ∀ c ∈ first :: rest, c.isDigit = true) (hzero : first ≠ '0')
    (hlong : Decimal.numeralLimit < (first :: rest).length) :
    parse (first :: rest) = .error .numeralTooLong := by
  have hfirst : first.isDigit = true := hdigits first List.mem_cons_self
  have hmark : (first :: rest).head? ≠ some '\ufeff' := by
    intro h
    rw [Option.some.inj h] at hfirst
    exact absurd hfirst (by decide)
  have hspace : isSpace first = false := by
    by_contra h
    simp only [isSpace, Bool.not_eq_false, Bool.or_eq_true, beq_iff_eq] at h
    obtain ((rfl | rfl) | rfl) | rfl := h <;> exact absurd hfirst (by decide)
  have hskip : skipSpaces ⟨first :: rest, 0⟩ = ⟨first :: rest, 0⟩ := by
    simp [skipSpaces, Text.Cursor.skip, Text.Cursor.run, Text.Cursor.advance, hspace]
  rw [parse, if_neg hmark, hskip, valueIn_of_isDigit rfl hfirst,
    scalar_digits hdigits hzero hlong]
  rfl

end Digits

end CrateDocs.Json
