import CrateDocs.Proofs.Except
import CrateDocs.Proofs.Link.Step
import CrateDocs.Proofs.Link.Walk

/-!
Detours in the path of a link: parts that lead back to where they start. A link with a detour fails
whenever the link without it does, and else leads to the same item; the kind that is known of the item
is the same if a child comes later.
-/

namespace CrateDocs.Link

def pathParts (link : String) : List (List Char) :=
  Text.splitChar '/' (Text.cutChar '#' link.toList).1

def fragment? (link : String) : Option (List Char) := (Text.cutChar '#' link.toList).2

def afterPath : Option (List Char) → List Char
  | some f => '#' :: f
  | none => []

/-- A link with more parts behind the first parts of its path. -/
def withParts (link : String) (i : Nat) (more : List (List Char)) : String :=
  String.ofList (['/'].intercalate ((pathParts link).take i ++ more ++ (pathParts link).drop i) ++
    afterPath (fragment? link))

inductive IsDetour : List (List Char) → Prop where
  | here : IsDetour [['.']]
  | index : IsDetour ["index.html".toList]
  | around {d : List Char} (hne : d ≠ []) (hplain : IsPlainText d) (hdot : '.' ∉ d) :
      IsDetour [d, "..".toList]

/-- Links to other pages that have no colons and controls in their path. -/
structure IsRelative (link : String) : Prop where
  plain : ∀ c ∈ (Text.cutChar '#' link.toList).1, c ≠ ':' ∧ 0x20 ≤ c.toNat
  counts : ∃ p ∈ pathParts link, p ≠ [] ∧ p ≠ ['.']

instance (link : String) : Decidable (IsRelative link) :=
  decidable_of_iff
    (((Text.cutChar '#' link.toList).1.Forall fun c => c ≠ ':' ∧ 0x20 ≤ c.toNat) ∧
      ∃ p ∈ pathParts link, p ≠ [] ∧ p ≠ ['.'])
    ⟨fun h => ⟨List.forall_iff_forall_mem.mp h.1, h.2⟩,
      fun h => ⟨List.forall_iff_forall_mem.mpr h.plain, h.counts⟩⟩

structure NamesChild (p : List Char) : Prop where
  ne_nil : p ≠ []
  ne_here : p ≠ ['.']
  ne_up : p ≠ "..".toList
  ne_index : p ≠ "index.html".toList

/-- Whether two links fail for the same cause or lead to the same item. -/
inductive IsAlike (link link' : String) : Except Error Target → Except Error Target → Prop where
  | unresolved (cause : Cause) :
      IsAlike link link' (.error (.unresolved link cause)) (.error (.unresolved link' cause))
  | item (k k' : Option Kind) (n : Name) :
      IsAlike link link' (.ok (.item k n)) (.ok (.item k' n))

namespace Cursor

inductive Agree : Except Cause Cursor → Except Cause Cursor → Prop where
  | error (cause : Cause) : Agree (.error cause) (.error cause)
  | ok {c c' : Cursor} (h : c.name = c'.name) : Agree (.ok c) (.ok c')

variable {c c' : Cursor} {p : List Char} {parts : List (List Char)}

theorem child_congr (h : c.name = c'.name) (k : Option Kind) (s : String) :
    c.child k s = c'.child k s := by
  rw [child, child, h]

theorem step_agree (h : c.name = c'.name) (p : List Char) : Agree (c.step p) (c'.step p) := by
  rw [step_eq_move, step_eq_move]
  cases Move.ofPart p with
  | up =>
    dsimp only [move]
    rw [up, up, h]
    cases c'.name with
    | some n => exact .ok rfl
    | none => exact .error _
  | stay => exact .ok h
  | down k s => exact .ok (congrArg name (child_congr h k s))
  | fault u => exact .error _

theorem step_congr (h : c.name = c'.name) (hp : NamesChild p) : c.step p = c'.step p := by
  rw [step_eq_move, step_eq_move]
  rcases Move.ofPart_child hp.ne_up hp.ne_index with ⟨k, s, hdown⟩ | ⟨u, hfault⟩
  · rw [hdown]
    exact congrArg Except.ok (child_congr h k s)
  · rw [hfault]
    rfl

theorem walk_agree (h : c.name = c'.name) (parts : List (List Char)) :
    Agree (parts.foldlM step c) (parts.foldlM step c') := by
  induction parts generalizing c c' with
  | nil => exact .ok h
  | cons p r ih =>
    rw [List.foldlM_cons, List.foldlM_cons]
    have hstep := step_agree h p
    generalize c.step p = x at hstep
    generalize c'.step p = x' at hstep
    cases hstep with
    | error cause => exact .error cause
    | ok h' => exact ih h'

theorem walk_congr (h : c.name = c'.name) (hp : ∃ p ∈ parts, NamesChild p) :
    parts.foldlM step c = parts.foldlM step c' := by
  induction parts generalizing c c' with
  | nil =>
    obtain ⟨p, hp, -⟩ := hp
    cases hp
  | cons p r ih =>
    rw [List.foldlM_cons, List.foldlM_cons]
    -- Before the first child the walks agree on the name alone; a child sets the kind anew.
    by_cases hchild : NamesChild p
    · rw [step_congr h hchild]
    · have hr : ∃ q ∈ r, NamesChild q := by
        obtain ⟨q, hq, hqc⟩ := hp
        rcases List.mem_cons.mp hq with rfl | hq
        · exact absurd hqc hchild
        · exact ⟨q, hq, hqc⟩
      have hstep := step_agree h p
      generalize c.step p = x at hstep
      generalize c'.step p = x' at hstep
      cases hstep with
      | error cause => rfl
      | ok h' => exact ih h' hr

end Cursor

def counted (parts : List (List Char)) : List (List Char) :=
  parts.filter fun p => !(p.isEmpty || p == ['.'])

theorem mem_counted {p : List Char} {parts : List (List Char)} :
    p ∈ counted parts ↔ p ∈ parts ∧ p ≠ [] ∧ p ≠ ['.'] := by
  simp [counted]

theorem exists_mem_counted {parts : List (List Char)} (h : ∃ p ∈ parts, NamesChild p) :
    ∃ p ∈ counted parts, NamesChild p := by
  obtain ⟨p, hp, hchild⟩ := h
  exact ⟨p, mem_counted.mpr ⟨hp, hchild.ne_nil, hchild.ne_here⟩, hchild⟩

theorem counted_append (a b : List (List Char)) : counted (a ++ b) = counted a ++ counted b :=
  List.filter_append a b

theorem isSegment_ofList {d : List Char} (hne : d ≠ []) (hplain : IsPlainText d)
    (hdot : '.' ∉ d) : IsSegment (String.ofList d) := by
  refine ⟨⟨?_, ?_, ?_⟩, ?_, ?_⟩
  · rwa [String.toList_ofList]
  · rw [String.toList_ofList]
    rintro rfl
    exact hdot (by decide)
  · rwa [String.toList_ofList]
  · intro h
    refine hdot ?_
    rw [← String.toList_ofList (l := d), h]
    decide
  · rw [String.toList_ofList]
    intro h
    exact hdot (h.mem (by decide))

theorem walk_around {d : List Char} (hne : d ≠ []) (hplain : IsPlainText d) (hdot : '.' ∉ d)
    (c : Cursor) : [d, "..".toList].foldlM Cursor.step c = .ok ⟨none, c.name⟩ := by
  have hsegment := isSegment_ofList hne hplain hdot
  have hcolon : ':' ∉ (String.ofList d).toList := hsegment.not_mem_colon
  have hdown := Cursor.step_segment (c := c) hsegment
  rw [String.toList_ofList] at hdown
  have hup : (c.child (some .module) (String.ofList d)).step "..".toList =
      .ok ⟨none, c.name⟩ := by
    rw [Cursor.step, if_pos rfl, Cursor.child, Cursor.up]
    cases c.name with
    | some n =>
      dsimp only
      rw [Name.parent?_child hcolon]
    | none =>
      dsimp only
      rw [Name.parent?_singleton hcolon]
  rw [List.foldlM_cons, hdown]
  exact hup

section Walks

variable {detour : List (List Char)}

theorem walk_detour (hd : IsDetour detour) (c : Cursor) :
    ∃ c', (counted detour).foldlM Cursor.step c = .ok c' ∧ c'.name = c.name ∧
      (detour.length = 1 → c' = c) := by
  cases hd with
  | here => exact ⟨c, rfl, rfl, fun _ => rfl⟩
  | index => exact ⟨c, rfl, rfl, fun _ => rfl⟩
  | @around d hne hplain hdot =>
    refine ⟨⟨none, c.name⟩, ?_, rfl, fun h => absurd h (by simp)⟩
    have hhere : d ≠ ['.'] := by
      rintro rfl
      exact hdot List.mem_cons_self
    have hcounted : counted [d, "..".toList] = [d, "..".toList] := by
      simp [counted, hne, hhere]
    rw [hcounted]
    exact walk_around hne hplain hdot c

theorem walk_detour_agree (hd : IsDetour detour) (front back : List (List Char)) (c : Cursor) :
    Cursor.Agree ((front ++ back).foldlM Cursor.step c)
        ((front ++ counted detour ++ back).foldlM Cursor.step c) ∧
      (detour.length = 1 ∨ (∃ p ∈ back, NamesChild p) →
        (front ++ back).foldlM Cursor.step c =
          (front ++ counted detour ++ back).foldlM Cursor.step c) := by
  rw [List.append_assoc, List.foldlM_append, List.foldlM_append]
  cases front.foldlM Cursor.step c with
  | error cause => exact ⟨.error cause, fun _ => rfl⟩
  | ok c₁ =>
    obtain ⟨c₂, hwalk, hname, hsame⟩ := walk_detour hd c₁
    have hback : (counted detour ++ back).foldlM Cursor.step c₁ = back.foldlM Cursor.step c₂ := by
      rw [List.foldlM_append, hwalk]
      rfl
    have hok : ∀ l : List (List Char),
        (Except.ok c₁ >>= l.foldlM Cursor.step : Except Cause Cursor) =
          l.foldlM Cursor.step c₁ := fun _ => rfl
    rw [hok, hok, hback]
    refine ⟨Cursor.walk_agree hname.symm back, ?_⟩
    rintro (hlength | hchild)
    · rw [hsame hlength]
    · exact Cursor.walk_congr hname.symm hchild

theorem start_congr {name : Name} {kind : Kind} {parts parts' : List (List Char)}
    (h : parts ≠ []) (h' : parts' ≠ []) : start name kind parts = start name kind parts' := by
  simp only [start, h, h', or_false]

end Walks

section Arrival

variable {link link' : String} {c c' : Cursor} {x x' : Except Cause Cursor}

theorem isAlike_arrive_none (h : c.name = c'.name) :
    IsAlike link link' ((c.arrive none).mapError (.unresolved link))
      ((c'.arrive none).mapError (.unresolved link')) := by
  cases hc : c.name with
  | some n =>
    rw [Cursor.arrive_of_name hc, Cursor.arrive_of_name (h ▸ hc)]
    exact .item _ _ n
  | none =>
    rw [Cursor.arrive_of_no_name hc, Cursor.arrive_of_no_name (h ▸ hc)]
    exact .unresolved _

theorem isAlike_arrive (h : c.name = c'.name) (fragment : Option (List Char)) :
    IsAlike link link' ((c.arrive fragment).mapError (.unresolved link))
      ((c'.arrive fragment).mapError (.unresolved link')) := by
  cases fragment with
  | none => exact isAlike_arrive_none h
  | some f =>
    cases hread : Anchor.read f with
    | error u =>
      rw [Cursor.arrive_of_read_eq_error hread, Cursor.arrive_of_read_eq_error hread]
      exact .unresolved _
    | ok o =>
      cases o with
      | none =>
        rw [Cursor.arrive_of_read_eq_none hread, Cursor.arrive_of_read_eq_none hread]
        exact isAlike_arrive_none h
      | some a =>
        obtain ⟨k, s⟩ := a
        rw [Cursor.arrive_of_read_eq_some hread, Cursor.arrive_of_read_eq_some hread,
          Cursor.child_congr h]
        exact isAlike_arrive_none rfl

theorem arrive_congr (h : c.name = c'.name) {f : List Char} (hf : Anchor.IsTyped f) :
    c.arrive (some f) = c'.arrive (some f) := by
  obtain ⟨t, n, rfl, ht, hn, hdt, hdn⟩ := hf
  have hread := Anchor.read_of_parts ht hn hdt hdn
  cases hk : Kind.ofToken (String.ofList t) with
  | error u =>
    rw [hk] at hread
    rw [Cursor.arrive_of_read_eq_error hread, Cursor.arrive_of_read_eq_error hread]
  | ok k =>
    rw [hk] at hread
    rw [Cursor.arrive_of_read_eq_some hread, Cursor.arrive_of_read_eq_some hread,
      Cursor.child_congr h]

theorem isAlike_of_agree (h : Cursor.Agree x x') (fragment : Option (List Char)) :
    IsAlike link link' ((x >>= fun c => c.arrive fragment).mapError (.unresolved link))
      ((x' >>= fun c => c.arrive fragment).mapError (.unresolved link')) := by
  cases h with
  | error cause => exact .unresolved cause
  | ok h => exact isAlike_arrive h fragment

theorem arrive_of_agree (h : Cursor.Agree x x') {f : List Char} (hf : Anchor.IsTyped f) :
    (x >>= fun c => c.arrive (some f)) = x' >>= fun c => c.arrive (some f) := by
  cases h with
  | error cause => rfl
  | ok h => exact arrive_congr h hf

end Arrival

section Paths

variable {link : String} {more : List (List Char)} {i : Nat}

theorem toList_eq (link : String) :
    link.toList = (Text.cutChar '#' link.toList).1 ++ afterPath (fragment? link) := by
  rw [fragment?]
  rcases Text.cutChar_cases '#' link.toList with ⟨-, hcut⟩ | ⟨a, b, -, hlink, hcut⟩
  · rw [hcut, afterPath, List.append_nil]
  · rw [hcut]
    exact hlink

theorem isAfterPath_afterPath (fragment : Option (List Char)) :
    IsAfterPath (afterPath fragment) := by
  cases fragment with
  | none => exact .inl rfl
  | some f => exact .inr ⟨f, rfl⟩

theorem cutChar_afterPath {s : List Char} (hs : '#' ∉ s) (fragment : Option (List Char)) :
    Text.cutChar '#' (s ++ afterPath fragment) = (s, fragment) := by
  cases fragment with
  | none =>
    rw [afterPath, List.append_nil]
    exact Text.cutChar_of_not_mem hs
  | some f => exact Text.cutChar_append_cons hs f

theorem not_mem_of_mem_pathParts {p : List Char} (hp : p ∈ pathParts link) :
    '/' ∉ p ∧ '#' ∉ p := by
  refine ⟨Text.not_mem_of_mem_splitChar hp, ?_⟩
  intro hc
  have hpath : '#' ∈ (Text.cutChar '#' link.toList).1 := by
    rw [← Text.intercalate_splitChar '/' (Text.cutChar '#' link.toList).1]
    exact Text.mem_intercalate_of_mem hp hc
  rcases Text.cutChar_cases '#' link.toList with ⟨hnot, hcut⟩ | ⟨a, b, hnot, -, hcut⟩
  · rw [hcut] at hpath
    exact hnot hpath
  · rw [hcut] at hpath
    exact hnot hpath

theorem pathParts_ne_nil (link : String) : pathParts link ≠ [] := Text.splitChar_ne_nil _ _

theorem mem_withParts {p : List Char}
    (hp : p ∈ (pathParts link).take i ++ more ++ (pathParts link).drop i) :
    p ∈ pathParts link ∨ p ∈ more := by
  rw [List.append_assoc, List.mem_append, List.mem_append] at hp
  rcases hp with hp | hp | hp
  · exact .inl (List.mem_of_mem_take hp)
  · exact .inr hp
  · exact .inl (List.mem_of_mem_drop hp)

theorem withParts_ne_nil : (pathParts link).take i ++ more ++ (pathParts link).drop i ≠ [] := by
  intro h
  rw [List.append_eq_nil_iff, List.append_eq_nil_iff] at h
  refine pathParts_ne_nil link ?_
  rw [← List.take_append_drop i (pathParts link), h.1.1, h.2, List.append_nil]

theorem cutChar_withParts (hmore : ∀ p ∈ more, '/' ∉ p ∧ '#' ∉ p) :
    Text.cutChar '#' (withParts link i more).toList =
      (['/'].intercalate ((pathParts link).take i ++ more ++ (pathParts link).drop i),
        fragment? link) := by
  rw [withParts, String.toList_ofList]
  refine cutChar_afterPath ?_ _
  intro hc
  rcases Text.mem_intercalate hc with h | ⟨p, hp, hcp⟩
  · exact absurd h (by decide)
  · rcases mem_withParts hp with hp | hp
    · exact (not_mem_of_mem_pathParts hp).2 hcp
    · exact (hmore p hp).2 hcp

theorem fragment?_withParts (hmore : ∀ p ∈ more, '/' ∉ p ∧ '#' ∉ p) :
    fragment? (withParts link i more) = fragment? link := by
  rw [fragment?, cutChar_withParts hmore]

theorem pathParts_withParts (hmore : ∀ p ∈ more, '/' ∉ p ∧ '#' ∉ p) :
    pathParts (withParts link i more) =
      (pathParts link).take i ++ more ++ (pathParts link).drop i := by
  rw [pathParts, cutChar_withParts hmore]
  refine Text.splitChar_intercalate withParts_ne_nil ?_
  intro p hp
  rcases mem_withParts hp with hp | hp
  · exact (not_mem_of_mem_pathParts hp).1
  · exact (hmore p hp).1

theorem counted_pathParts (link : String) (i : Nat) :
    counted (pathParts link) =
      counted ((pathParts link).take i) ++ counted ((pathParts link).drop i) := by
  rw [← counted_append, List.take_append_drop]

theorem counted_withParts (hmore : ∀ p ∈ more, '/' ∉ p ∧ '#' ∉ p) :
    counted (pathParts (withParts link i more)) =
      counted ((pathParts link).take i) ++ counted more ++ counted ((pathParts link).drop i) := by
  rw [pathParts_withParts hmore, counted_append, counted_append]

theorem exists_of_prefix_dropWhile {parts : List (List Char)} {blank : Char → Bool}
    (hblank : blank '/' = false) (hparts : ∀ p ∈ parts, '/' ∉ p)
    (h : ['/', '/'] <+: (['/'].intercalate parts).dropWhile blank) :
    ∃ b p r, parts = b :: [] :: p :: r ∧ ∀ c ∈ b, blank c = true := by
  obtain ⟨rest, hrest⟩ := h
  -- The first slash ends the first part, so that this part is blank and the second one is empty.
  cases parts with
  | nil => cases hrest
  | cons b t =>
    obtain ⟨hb, ht⟩ := List.forall_mem_cons.mp hparts
    cases t with
    | nil =>
      rw [List.intercalate_singleton] at hrest
      have hmem : '/' ∈ b.dropWhile blank := by simp [← hrest]
      exact absurd ((List.dropWhile_suffix blank).mem hmem) hb
    | cons q r =>
      rw [List.intercalate_cons_cons, List.append_assoc, List.dropWhile_append] at hrest
      split at hrest
      · next hall =>
        rw [List.isEmpty_iff, List.dropWhile_eq_nil_iff] at hall
        rw [List.singleton_append, List.dropWhile_cons_of_neg (by simp [hblank])] at hrest
        have hq : '/' :: rest = ['/'].intercalate (q :: r) := (List.cons.inj hrest).2
        cases q with
        | nil =>
          cases r with
          | nil => cases hq
          | cons p r => exact ⟨b, p, r, rfl, hall⟩
        | cons c q =>
          have hc : c ≠ '/' := fun h => ht (c :: q) List.mem_cons_self (h ▸ List.mem_cons_self)
          cases r with
          | nil =>
            rw [List.intercalate_singleton] at hq
            exact absurd (List.cons.inj hq).1.symm hc
          | cons p r =>
            rw [List.intercalate_cons_cons] at hq
            exact absurd (List.cons.inj hq).1.symm hc
      · next hsome =>
        cases hdrop : b.dropWhile blank with
        | nil => simp [hdrop] at hsome
        | cons c t =>
          rw [hdrop] at hrest
          obtain rfl : '/' = c := (List.cons.inj hrest).1
          have hmem : '/' ∈ b.dropWhile blank := hdrop ▸ List.mem_cons_self
          exact absurd ((List.dropWhile_suffix blank).mem hmem) hb

end Paths

section Detours

variable {link : String} {detour : List (List Char)} {i : Nat}

theorem IsDetour.isPlainText (hd : IsDetour detour) : ∀ p ∈ detour, IsPlainText p := by
  cases hd with
  | here => decide
  | index => decide
  | around hne hplain hdot =>
    intro p hp
    rcases List.mem_pair.mp hp with rfl | rfl
    · exact hplain
    · decide

theorem IsDetour.append_ne_nil_cons (hd : IsDetour detour) (rest r : List (List Char)) :
    detour ++ rest ≠ [] :: r := by
  intro h
  cases hd with
  | here => cases h
  | index => cases h
  | around hne hplain hdot => exact hne (List.cons.inj h).1

theorem IsDetour.append_ne_blank_cons (hd : IsDetour detour) {b : List Char}
    (hb : '.' ∉ b) (rest r : List (List Char)) : detour ++ rest ≠ b :: [] :: r := by
  intro h
  cases hd with
  | here =>
    obtain ⟨rfl, -⟩ := List.cons.inj h
    exact hb (by decide)
  | index =>
    obtain ⟨rfl, -⟩ := List.cons.inj h
    exact hb (by decide)
  | around hne hplain hdot =>
    obtain ⟨-, h⟩ := List.cons.inj h
    cases (List.cons.inj h).1

theorem exists_of_insert_eq (hd : IsDetour detour) {b : List Char} (hb : '.' ∉ b)
    {parts r : List (List Char)} (h : parts.take i ++ detour ++ parts.drop i = b :: [] :: r) :
    ∃ s, parts = b :: [] :: s := by
  rw [List.append_assoc] at h
  rcases parts with _ | ⟨o, os⟩
  · rw [List.take_nil] at h
    exact absurd h (hd.append_ne_blank_cons hb _ r)
  · cases i with
    | zero => exact absurd h (hd.append_ne_blank_cons hb _ r)
    | succ n =>
      rw [List.take_succ_cons, List.drop_succ_cons, List.cons_append] at h
      obtain ⟨rfl, htail⟩ := List.cons.inj h
      rcases os with _ | ⟨o', os⟩
      · rw [List.take_nil] at htail
        exact absurd htail (hd.append_ne_nil_cons _ r)
      · cases n with
        | zero => exact absurd htail (hd.append_ne_nil_cons _ r)
        | succ n =>
          rw [List.take_succ_cons, List.cons_append] at htail
          obtain ⟨rfl, -⟩ := List.cons.inj htail
          exact ⟨os, rfl⟩

theorem IsDetour.not_mem (hd : IsDetour detour) : ∀ p ∈ detour, '/' ∉ p ∧ '#' ∉ p := by
  intro p hp
  have hplain := hd.isPlainText p hp
  exact ⟨fun hc => (hplain _ hc).1 rfl, fun hc => (hplain _ hc).2.1 rfl⟩

theorem plain_withParts (hlink : IsRelative link) (hd : IsDetour detour) :
    ∀ c ∈ (Text.cutChar '#' (withParts link i detour).toList).1, c ≠ ':' ∧ 0x20 ≤ c.toNat := by
  intro c hc
  rw [cutChar_withParts hd.not_mem] at hc
  rcases Text.mem_intercalate hc with h | ⟨p, hp, hcp⟩
  · obtain rfl := List.mem_singleton.mp h
    decide
  · rcases mem_withParts hp with hp | hp
    · refine hlink.plain c ?_
      rw [← Text.intercalate_splitChar '/' (Text.cutChar '#' link.toList).1]
      exact Text.mem_intercalate_of_mem hp hcp
    · exact (hd.isPlainText p hp c hcp).2.2

theorem resolve_eq_walk
    (hplain : ∀ c ∈ (Text.cutChar '#' link.toList).1, c ≠ ':' ∧ 0x20 ≤ c.toNat)
    (hm : ¬IsMalformed link.toList) {parts : List (List Char)}
    (hparts : counted (pathParts link) = parts) (name : Name) (kind : Kind) :
    resolve name kind link =
      (parts.foldlM Cursor.step (start name kind parts) >>= fun c =>
        c.arrive (fragment? link)).mapError (.unresolved link) := by
  have hnone : ¬HasScheme link.toList := by
    rw [toList_eq link]
    exact not_hasScheme_of_path hplain (isAfterPath_afterPath _)
  have hscheme : hasScheme? link.toList = some false :=
    hasScheme?_eq_some_iff.mpr ⟨hm, by simp [hnone]⟩
  have hfollow : follow name kind link.toList = parts.foldlM Cursor.step (start name kind parts) >>=
      fun c => c.arrive (fragment? link) := by
    rw [follow_eq, ← hparts]
    rfl
  rw [resolve, hscheme, ← hfollow]
  cases follow name kind link.toList <;> rfl

theorem not_isMalformed_withParts (hlink : IsRelative link) (hd : IsDetour detour)
    (hhost : ¬['/', '/'] <+: link.toList) (hspace : link.toList.head? ≠ some ' ') :
    ¬IsMalformed (withParts link i detour).toList := by
  rw [toList_eq (withParts link i detour)]
  refine not_isMalformed_of_path (plain_withParts hlink hd) ?_ (isAfterPath_afterPath _)
  intro hdouble
  rw [cutChar_withParts hd.not_mem] at hdouble
  obtain ⟨b, p, r, hparts, hb⟩ := exists_of_prefix_dropWhile (by decide) (by
    intro p hp
    rcases mem_withParts hp with hp | hp
    · exact (not_mem_of_mem_pathParts hp).1
    · exact (hd.not_mem p hp).1) hdouble
  -- The detour brings no host: what stands before the two slashes is blank, hence no part of the
  -- detour, and the link itself would begin with it.
  have hdot : '.' ∉ b := fun hc => absurd (hb '.' hc) (by decide)
  obtain ⟨s, hold⟩ := exists_of_insert_eq hd hdot hparts
  have hpath : (Text.cutChar '#' link.toList).1 = b ++ '/' :: ['/'].intercalate ([] :: s) := by
    rw [← Text.intercalate_splitChar '/' (Text.cutChar '#' link.toList).1]
    change ['/'].intercalate (pathParts link) = _
    rw [hold, List.intercalate_cons_cons, List.append_assoc]
    rfl
  rw [toList_eq link, hpath] at hhost hspace
  cases b with
  | nil =>
    cases s with
    | nil =>
      obtain ⟨p, hp, hne, -⟩ := hlink.counts
      rw [hold] at hp
      exact hne (by simpa using hp)
    | cons q s => exact hhost ⟨_, rfl⟩
  | cons c b =>
    have hc : c ∈ (Text.cutChar '#' link.toList).1 := hpath ▸ List.mem_cons_self
    have hle : c.toNat ≤ 0x20 := of_decide_eq_true (hb c List.mem_cons_self)
    obtain rfl : c = ' ' := Char.toNat_inj.mp (Nat.le_antisymm hle (hlink.plain c hc).2)
    exact hspace rfl

theorem not_isMalformed_of_isRelative (hlink : IsRelative link)
    (hhost : ¬['/', '/'] <+: link.toList) (hspace : link.toList.head? ≠ some ' ') :
    ¬IsMalformed link.toList := by
  rw [toList_eq link] at hhost hspace ⊢
  refine not_isMalformed_of_path hlink.plain ?_ (isAfterPath_afterPath _)
  intro hdouble
  cases hpath : (Text.cutChar '#' link.toList).1 with
  | nil =>
    rw [hpath] at hdouble
    exact absurd (List.IsPrefix.length_le hdouble) (by decide)
  | cons c r =>
    rw [hpath] at hdouble hhost hspace
    have hc := (hlink.plain c (hpath ▸ List.mem_cons_self)).2
    have hne : c ≠ ' ' := by
      rintro rfl
      exact hspace rfl
    have hgt : ¬c.toNat ≤ 0x20 := fun hle => hne (Char.toNat_inj.mp (Nat.le_antisymm hle hc))
    rw [List.dropWhile_cons_of_neg (by simpa using hgt)] at hdouble
    exact hhost (hdouble.trans (List.prefix_append _ _))

end Detours

theorem resolve_withParts {link : String} (hlink : IsRelative link) {detour : List (List Char)}
    (hd : IsDetour detour) (i : Nat) (name : Name) (kind : Kind) :
    (¬['/', '/'] <+: link.toList → link.toList.head? ≠ some ' ' →
      ¬IsMalformed link.toList ∧ ¬IsMalformed (withParts link i detour).toList) ∧
    (¬IsMalformed link.toList → ¬IsMalformed (withParts link i detour).toList →
      IsAlike link (withParts link i detour) (resolve name kind link)
          (resolve name kind (withParts link i detour)) ∧
        (detour.length = 1 ∨ (∃ p ∈ (pathParts link).drop i, NamesChild p) ∨
            (∃ f, fragment? link = some f ∧ Anchor.IsTyped f) →
          ∀ k n, resolve name kind link = .ok (.item k n) →
            resolve name kind (withParts link i detour) = .ok (.item k n))) := by
  refine ⟨?_, ?_⟩
  · intro hhost hspace
    exact ⟨not_isMalformed_of_isRelative hlink hhost hspace,
      not_isMalformed_withParts hlink hd hhost hspace⟩
  · intro hm hm'
    -- The walk starts at the item only if there is nothing to walk, so that both links have to have
    -- a part that counts.
    have hne : counted ((pathParts link).take i) ++ counted ((pathParts link).drop i) ≠ [] := by
      obtain ⟨p, hp⟩ := hlink.counts
      rw [← counted_pathParts]
      exact List.ne_nil_of_mem (mem_counted.mpr hp)
    have hne' : counted ((pathParts link).take i) ++ counted detour ++
        counted ((pathParts link).drop i) ≠ [] := by
      simp only [List.append_eq_nil_iff, ne_eq] at hne ⊢
      exact fun h => hne ⟨h.1.1, h.2⟩
    rw [resolve_eq_walk hlink.plain hm (counted_pathParts link i),
      resolve_eq_walk (plain_withParts hlink hd) hm' (counted_withParts hd.not_mem),
      start_congr hne' hne, fragment?_withParts hd.not_mem]
    obtain ⟨hagree, hsame⟩ := walk_detour_agree hd (counted ((pathParts link).take i))
      (counted ((pathParts link).drop i)) (start name kind _)
    refine ⟨isAlike_of_agree hagree (fragment? link), ?_⟩
    intro hknown k n hresolve
    rw [mapError_eq_ok_iff] at hresolve ⊢
    rw [← hresolve]
    rcases hknown with hlength | hchild | ⟨f, hf, htyped⟩
    · rw [hsame (.inl hlength)]
    · rw [hsame (.inr (exists_mem_counted hchild))]
    · rw [hf]
      exact (arrive_of_agree hagree htyped).symm

theorem resolve_withParts_around :
    IsRelative "../struct.NodeRef.html#method.new" ∧ IsDetour ["x".toList, "..".toList] ∧
      withParts "../struct.NodeRef.html#method.new" 1 ["x".toList, "..".toList] =
        "../x/../struct.NodeRef.html#method.new" ∧
      resolve ⟨"kuchiki::iter::Siblings"⟩ .struct "../x/../struct.NodeRef.html#method.new" =
        .ok (.item (some .method) ⟨"kuchiki::NodeRef::new"⟩) := by
  have hlink : IsRelative "../struct.NodeRef.html#method.new" := by decide
  have hdetour : IsDetour ["x".toList, "..".toList] :=
    .around (by decide) (by decide) (by decide)
  have hwith : withParts "../struct.NodeRef.html#method.new" 1 ["x".toList, "..".toList] =
      "../x/../struct.NodeRef.html#method.new" := by decide
  obtain ⟨hfits, hsame⟩ :=
    resolve_withParts hlink hdetour 1 ⟨"kuchiki::iter::Siblings"⟩ .struct
  obtain ⟨hm, hm'⟩ := hfits (by decide) (by decide)
  have hchild : ∃ p ∈ (pathParts "../struct.NodeRef.html#method.new").drop 1, NamesChild p :=
    ⟨"struct.NodeRef.html".toList, by decide, by decide, by decide, by decide, by decide⟩
  refine ⟨hlink, hdetour, hwith, ?_⟩
  rw [← hwith]
  exact (hsame hm hm').2 (.inr (.inl hchild)) _ _ (by decide)

/-- A host that stands behind a space, and a last part that is empty and names no child. -/
theorem not_resolve_withParts_blank :
    (¬∀ (name : Name) (kind : Kind) (link : String) (i : Nat) (detour : List (List Char)),
      IsRelative link → ¬['/', '/'] <+: link.toList → IsDetour detour →
        IsAlike link (withParts link i detour) (resolve name kind link)
          (resolve name kind (withParts link i detour))) ∧
    ¬∀ (name : Name) (kind : Kind) (link : String) (i : Nat) (detour : List (List Char)),
      IsRelative link → ¬['/', '/'] <+: link.toList → IsDetour detour →
        (∃ p ∈ (pathParts link).drop i, p ≠ ['.'] ∧ p ≠ "..".toList ∧ p ≠ "index.html".toList) →
          ∀ k n, resolve name kind link = .ok (.item k n) →
            resolve name kind (withParts link i detour) = .ok (.item k n) := by
  constructor
  · intro hall
    have halike := hall ⟨"k"⟩ .module " //[" 0 [['.']] (by decide)
      (by decide) .here
    have hresolve : resolve ⟨"k"⟩ .module " //[" = .error .malformedUrl := by decide
    rw [hresolve] at halike
    cases halike
  · intro hall
    have hresolve := hall ⟨"k"⟩ .module "a/" 1 [['d'], "..".toList]
      (by decide) (by decide) (.around (by decide) (by decide) (by decide))
      ⟨[], by decide, by decide, by decide, by decide⟩ (some .module) ⟨"k::a"⟩
      (by decide)
    have hnone : resolve ⟨"k"⟩ .module (withParts "a/" 1 [['d'], "..".toList]) =
        .ok (.item none ⟨"k::a"⟩) := by decide
    cases hnone.symm.trans hresolve

end CrateDocs.Link
