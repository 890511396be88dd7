import CrateDocs.View.Block

/-!
The length of title lines. A line that has room for its three texts fills its width, unless the last
text is too long to stand behind the centred one: then the line is longer than its width.
-/

namespace CrateDocs.View

theorem toList_pushn (s : String) (c : Char) (n : Nat) :
    (s.pushn c n).toList = s.toList ++ List.replicate n c := by
  induction n with
  | zero => simp [String.pushn_eq_repeat_push, Nat.repeat]
  | succ n ih =>
    rw [String.pushn_eq_repeat_push] at ih ⊢
    rw [Nat.repeat, String.toList_push, ih, List.append_assoc, ← List.replicate_succ']

theorem toList_spaces (n : Int) : (spaces n).toList = List.replicate n.toNat ' ' := by
  simp [spaces, toList_pushn]

theorem length_spaces (n : Int) : (spaces n).length = n.toNat := by
  simp [spaces, String.length_pushn]

/-- Whether a line has room for three texts with a space between two of them. -/
def HasRoom (width : Int) (left middle right : String) : Prop :=
  left.length + middle.length + right.length + 2 ≤ width

instance (width : Int) (left middle right : String) :
    Decidable (HasRoom width left middle right) :=
  inferInstanceAs (Decidable (_ ≤ width))

/-- A line of three texts, with a space or more between two of them. -/
def IsSpread (line left middle right : String) : Prop :=
  ∃ m n : Int, 0 < m ∧ 0 < n ∧ line = left ++ spaces m ++ middle ++ spaces n ++ right

/-- Where the last text ends if it stands one space behind the middle one, and that is centred. -/
def leastEnd (width : Int) (middle right : String) : Int :=
  (width - middle.length) / 2 + middle.length + 1 + right.length

theorem length_spread {m n : Int} (hm : 0 < m) (hn : 0 < n) (left middle right : String) :
    ((left ++ spaces m ++ middle ++ spaces n ++ right).length : Int) =
      left.length + m + middle.length + n + right.length := by
  simp only [String.length_append, length_spaces]
  omega

theorem formatTitle_fills (width : Int) (left middle right : String) :
    (HasRoom width left middle right →
      IsSpread (formatTitle width left middle right) left middle right ∧
        (formatTitle width left middle right).length = max width (leastEnd width middle right)) ∧
    (¬HasRoom width left middle right →
      formatTitle width left middle right = left ++ "  " ++ middle ++ "  " ++ right) := by
  constructor
  · intro hroom
    have hinner : ¬width - left.length - right.length < middle.length + 2 := by
      unfold HasRoom at hroom
      omega
    have hbefore : 0 < max ((width - middle.length) / 2 - left.length) 1 := by omega
    have hafter : 0 < max (width - left.length - right.length -
        max ((width - middle.length) / 2 - left.length) 1 - middle.length) 1 := by omega
    rw [formatTitle, if_neg hinner]
    refine ⟨⟨_, _, hbefore, hafter, rfl⟩, ?_⟩
    rw [length_spread hbefore hafter, leastEnd]
    -- The middle text is centred, or stands one space behind a first text that reaches so far.
    unfold HasRoom at hroom
    omega
  · intro hroom
    have hinner : width - left.length - right.length < middle.length + 2 := by
      unfold HasRoom at hroom
      omega
    rw [formatTitle, if_pos hinner]

theorem formatTitle_fills_struct :
    (HasRoom 40 "a::B" "rustdoc-man" "Struct" ∧
      IsSpread (formatTitle 40 "a::B" "rustdoc-man" "Struct") "a::B" "rustdoc-man" "Struct" ∧
      (formatTitle 40 "a::B" "rustdoc-man" "Struct").length =
        max 40 (leastEnd 40 "rustdoc-man" "Struct")) ∧
    ¬HasRoom 10 "a::B" "rustdoc-man" "Struct" ∧
      formatTitle 10 "a::B" "rustdoc-man" "Struct" =
        "a::B" ++ "  " ++ "rustdoc-man" ++ "  " ++ "Struct" := by
  have hroom : HasRoom 40 "a::B" "rustdoc-man" "Struct" := by decide
  have hnone : ¬HasRoom 10 "a::B" "rustdoc-man" "Struct" := by decide
  exact ⟨⟨hroom, (formatTitle_fills 40 "a::B" "rustdoc-man" "Struct").1 hroom⟩, hnone,
    (formatTitle_fills 10 "a::B" "rustdoc-man" "Struct").2 hnone⟩

/-- A title with room for its texts that is six characters too long. -/
theorem not_formatTitle_fills_constant :
    ¬∀ (width : Int) (left middle right : String), HasRoom width left middle right →
      (formatTitle width left middle right).length = width ∧
        IsSpread (formatTitle width left middle right) left middle right := by
  intro hall
  have hlength := (hall 33 "a::B" "rustdoc-man" "Associated Const" (by decide)).1
  exact absurd hlength (by decide)

end CrateDocs.View
