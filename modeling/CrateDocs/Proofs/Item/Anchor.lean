import CrateDocs.Item.Anchor
import CrateDocs.Proofs.Text.Split
import Mathlib.Data.List.TakeDrop
import Mathlib.Data.List.TakeWhile

/-!
Anchors that are read back. A text is an anchor if it is a token, a dot and a name, and a name that has
no dot and does not end in a counter is the name that its anchor gives, also if a counter is added.
-/

namespace CrateDocs

theorem Kind.token_ne_empty (k : Kind) : k.token ≠ "" := by cases k <;> decide

theorem Kind.dot_not_mem_token (k : Kind) : '.' ∉ k.token.toList := by cases k <;> decide

theorem Kind.token_injective : Function.Injective Kind.token := by
  intro i j h
  have ht := Kind.ofToken_token i
  rw [h, Kind.ofToken_token j] at ht
  exact (Except.ok.inj ht).symm

namespace Anchor

/-- Whether a text ends in a hyphen and digits, or has them before a final line feed. -/
def IsCounted (s : List Char) : Prop :=
  ∃ front digits tail, digits ≠ [] ∧ (∀ c ∈ digits, Text.isDecimal c = true) ∧
    (tail = [] ∨ tail = ['\n']) ∧ s = front ++ '-' :: digits ++ tail

structure IsName (name : String) : Prop where
  ne_empty : name ≠ ""
  dot : '.' ∉ name.toList
  counter : ¬IsCounted name.toList

theorem not_isCounted_of_not_mem {s : List Char} (h : '-' ∉ s) : ¬IsCounted s := by
  rintro ⟨front, digits, tail, -, -, -, rfl⟩
  simp at h

theorem dropCounter?_eq_some {s t : List Char} (h : dropCounter? s = some t) :
    ∃ digits, digits ≠ [] ∧ (∀ c ∈ digits, Text.isDecimal c = true) ∧ s = digits ++ '-' :: t := by
  unfold dropCounter? at h
  rw [List.span_eq_takeWhile_dropWhile] at h
  split at h
  · next c r t' heq =>
    obtain ⟨htake, hdrop⟩ := Prod.mk.inj heq
    obtain rfl : t' = t := Option.some.inj h
    refine ⟨c :: r, by simp, ?_, ?_⟩
    · intro d hd
      exact List.mem_takeWhile_imp (htake ▸ hd)
    · rw [← htake, ← hdrop, List.takeWhile_append_dropWhile]
  · cases h

theorem isCounted_of_dropCounter? {s t tail : List Char} (ht : tail = [] ∨ tail = ['\n'])
    (h : dropCounter? s = some t) : IsCounted (s.reverse ++ tail) := by
  obtain ⟨digits, hne, hall, rfl⟩ := dropCounter?_eq_some h
  refine ⟨t.reverse, digits.reverse, tail, ?_, ?_, ht, by simp⟩
  · simpa using hne
  · intro c hc
    exact hall c (List.mem_reverse.mp hc)

theorem stripCounter_eq_self {s : List Char} (h : ¬IsCounted s) : stripCounter s = s := by
  unfold stripCounter
  split
  · next r hr =>
    have hs : s = r.reverse ++ ['\n'] := by
      rw [← List.reverse_reverse s, hr, List.reverse_cons]
    cases hd : dropCounter? r with
    | none => rfl
    | some t => exact absurd (hs ▸ isCounted_of_dropCounter? (.inr rfl) hd) h
  · cases hd : dropCounter? s.reverse with
    | none => rfl
    | some t =>
      have hc := isCounted_of_dropCounter? (.inl rfl) hd
      rw [List.reverse_reverse, List.append_nil] at hc
      exact absurd hc h

def EndsInCounter (s : List Char) : Prop :=
  ∃ front digits, digits ≠ [] ∧ (∀ c ∈ digits, Text.isDecimal c = true) ∧
    s = front ++ '-' :: digits

theorem not_endsInCounter_of_not_mem {s : List Char} (h : '-' ∉ s) : ¬EndsInCounter s := by
  rintro ⟨front, digits, -, -, rfl⟩
  simp at h

theorem not_endsInCounter_of_getLast? {s : List Char} {c : Char} (h : s.getLast? = some c)
    (hc : Text.isDecimal c = false) : ¬EndsInCounter s := by
  rintro ⟨front, digits, hne, hall, rfl⟩
  have hlast : (front ++ '-' :: digits).getLast? = digits.getLast? := by
    rw [List.getLast?_append, List.getLast?_cons_of_ne_nil hne, List.getLast?_eq_some_getLast hne]
    rfl
  rw [hlast] at h
  rw [hall c (List.mem_of_getLast? h)] at hc
  cases hc

theorem stripCounter_ne_nil {s : List Char} (hs : s ≠ []) (h : ¬EndsInCounter s) :
    stripCounter s ≠ [] := by
  unfold stripCounter
  split
  · split
    · simp
    · exact hs
  · split
    · next t hd =>
      obtain ⟨digits, hne, hall, hr⟩ := dropCounter?_eq_some hd
      refine absurd ⟨t.reverse, digits.reverse, by simpa using hne, ?_, ?_⟩ h
      · exact fun c hc => hall c (List.mem_reverse.mp hc)
      · rw [← List.reverse_reverse s, hr]
        simp
    · exact hs

theorem not_isCounted {s : List Char} (h : ¬EndsInCounter s) (hs : s.getLast? ≠ some '\n') :
    ¬IsCounted s := by
  rintro ⟨front, digits, tail, hne, hall, rfl | rfl, rfl⟩
  · exact h ⟨front, digits, hne, hall, List.append_nil _⟩
  · exact hs List.getLast?_concat

theorem dropCounter?_append {digits t : List Char} (hne : digits ≠ [])
    (hall : ∀ c ∈ digits, Text.isDecimal c = true) : dropCounter? (digits ++ '-' :: t) = some t := by
  have hyphen : ¬Text.isDecimal '-' = true := by decide
  obtain ⟨c, r, rfl⟩ := List.exists_cons_of_ne_nil hne
  rw [dropCounter?, List.span_eq_takeWhile_dropWhile, List.takeWhile_append_of_pos hall,
    List.dropWhile_append_of_pos hall, List.takeWhile_cons_of_neg hyphen,
    List.dropWhile_cons_of_neg hyphen, List.append_nil]
  rfl

theorem stripCounter_append_counter (s : List Char) {digits : List Char} (hne : digits ≠ [])
    (hall : ∀ c ∈ digits, Text.isDecimal c = true) : stripCounter (s ++ '-' :: digits) = s := by
  have hback : (s ++ '-' :: digits).reverse = digits.reverse ++ '-' :: s.reverse := by simp
  have hdrop : dropCounter? (digits.reverse ++ '-' :: s.reverse) = some s.reverse :=
    dropCounter?_append (by simpa using hne) fun c hc => hall c (List.mem_reverse.mp hc)
  rw [stripCounter, hback]
  split
  · next r hr =>
    -- A text that ends in a digit does not end in a line feed.
    obtain ⟨c, t, ht⟩ := List.exists_cons_of_ne_nil (mt List.reverse_eq_nil_iff.mp hne)
    rw [ht, List.cons_append] at hr
    obtain rfl := (List.cons.inj hr).1
    exact absurd (hall '\n' (List.mem_reverse.mp (ht ▸ List.mem_cons_self))) (by decide)
  · rw [hdrop]
    exact List.reverse_reverse s

/-- Whether a text is a token, a dot and a name, whatever the token. -/
def IsTyped (s : List Char) : Prop :=
  ∃ t n, s = t ++ '.' :: n ∧ t ≠ [] ∧ n ≠ [] ∧ '.' ∉ t ∧ '.' ∉ n

theorem read_of_parts {t n : List Char} (ht : t ≠ []) (hn : n ≠ []) (hdt : '.' ∉ t)
    (hdn : '.' ∉ n) :
    read (t ++ '.' :: n) = (Kind.ofToken (String.ofList t)).map fun k =>
      some (k, String.ofList (stripCounter n)) := by
  have hsplit : Text.splitChar '.' (t ++ '.' :: n) = [t, n] := by
    rw [Text.splitChar_eq_splitOn, List.splitOn_append_cons_self_of_not_mem hdt,
      List.splitOn_eq_singleton hdn]
  have hguard : ¬(t.isEmpty || n.isEmpty) = true := by simp [ht, hn]
  rw [read, hsplit]
  dsimp only
  rw [if_neg hguard]
  cases Kind.ofToken (String.ofList t) <;> rfl

theorem read_of_not_isTyped {s : List Char} (h : ¬IsTyped s) : read s = .ok none := by
  unfold read
  split
  · next t n hsplit =>
    have hs : s = t ++ '.' :: n := by
      rw [← Text.intercalate_splitChar '.' s, hsplit, List.intercalate_cons_cons,
        List.intercalate_singleton, List.append_assoc]
      rfl
    have hdot : ∀ p ∈ [t, n], '.' ∉ p := by
      intro p hp
      exact Text.not_mem_of_mem_splitChar (hsplit ▸ hp)
    split
    · rfl
    · next hne =>
      rw [Bool.or_eq_true, not_or, List.isEmpty_iff, List.isEmpty_iff] at hne
      exact absurd ⟨t, n, hs, hne.1, hne.2, hdot t (by simp), hdot n (by simp)⟩ h
  · rfl

theorem read_eq_error {s : List Char} {u : Kind.Unknown} (h : read s = .error u) :
    ∃ t n, s = t ++ '.' :: n ∧ t ≠ [] ∧ n ≠ [] ∧ '.' ∉ t ∧ '.' ∉ n ∧
      Kind.ofToken (String.ofList t) = .error u := by
  by_cases hs : IsTyped s
  · obtain ⟨t, n, rfl, ht, hn, hdt, hdn⟩ := hs
    rw [read_of_parts ht hn hdt hdn] at h
    cases hk : Kind.ofToken (String.ofList t) with
    | ok k =>
      rw [hk] at h
      cases h
    | error v =>
      rw [hk] at h
      obtain rfl := Except.error.inj h
      exact ⟨t, n, rfl, ht, hn, hdt, hdn, hk⟩
  · rw [read_of_not_isTyped hs] at h
    cases h

theorem toList_text (k : Kind) (name : String) :
    (text k name).toList = k.token.toList ++ '.' :: name.toList := by
  rw [text, String.toList_append, String.toList_append, List.append_assoc]
  rfl

theorem name?_text (k : Kind) (name : String) :
    name? (text k name).toList = some (stripCounter name.toList) := by
  rw [name?, toList_text, Text.cutChar_append_cons k.dot_not_mem_token]
  rfl

theorem token_append (k : Kind) (s : List Char) :
    token (k.token.toList ++ '.' :: s) = k.token.toList := by
  have hcount : ¬IsCounted k.token.toList := not_isCounted_of_not_mem (by cases k <;> decide)
  rw [token, Text.cutChar_append_cons k.dot_not_mem_token, stripCounter_eq_self hcount]

theorem read_text_of_dot (k : Kind) {name : String} (hne : name ≠ "") (hdot : '.' ∉ name.toList) :
    read (text k name).toList =
      .ok (some (k, String.ofList (stripCounter name.toList))) := by
  have ht : k.token.toList ≠ [] := fun ht => k.token_ne_empty (String.toList_eq_nil_iff.mp ht)
  have hn : name.toList ≠ [] := fun hn => hne (String.toList_eq_nil_iff.mp hn)
  rw [toList_text, read_of_parts ht hn k.dot_not_mem_token hdot, String.ofList_toList,
    Kind.ofToken_token]
  rfl

theorem read_text (k : Kind) {name : String} (h : IsName name) :
    read (text k name).toList = .ok (some (k, name)) := by
  rw [read_text_of_dot k h.ne_empty h.dot, stripCounter_eq_self h.counter, String.ofList_toList]

end Anchor

end CrateDocs
