import CrateDocs.Proofs.Markup.Shape

/-!
What a reader sees of a tree: all characters of the texts that are shown, in order and up to blanks,
and blocks of documentation on lines of their own. The output is made of pieces, none of them empty,
so that the last piece tells whether a line has been ended.
-/

namespace CrateDocs

namespace Text

/-- The characters of a text that are no blanks. -/
def marks (s : List Char) : List Char := s.filter fun c => !isBlank c

theorem marks_append (s t : List Char) : marks (s ++ t) = marks s ++ marks t :=
  List.filter_append ..

theorem marks_reverse (s : List Char) : marks s.reverse = (marks s).reverse :=
  List.filter_reverse ..

theorem marks_blank {c : Char} (h : isBlank c = true) (r : List Char) :
    marks (c :: r) = marks r := by
  simp [marks, h]

theorem marks_trimStart (s : List Char) : marks (trimStart s) = marks s := by
  unfold trimStart
  induction s with
  | nil => rfl
  | cons c r ih =>
    rw [List.dropWhile_cons]
    split
    · next h => rw [ih, marks_blank h]
    · rfl

theorem marks_trimEnd (s : List Char) : marks (trimEnd s) = marks s := by
  induction s with
  | nil => rfl
  | cons c r ih =>
    have hc : marks (c :: trimEnd r) = marks (c :: r) := by
      rw [← List.singleton_append, ← List.singleton_append (l := r), marks_append, marks_append, ih]
    rw [trimEnd, ← hc]
    split
    · next h =>
      rw [h]
      split
      · next hb => rw [marks_blank hb]
      · rfl
    · next h => rw [h]

theorem marks_trim (s : List Char) : marks (trim s) = marks s := by
  rw [trim, marks_trimEnd, marks_trimStart]

end Text

namespace Markup

open Text (marks)

mutual

/-- What is left of a node without the elements that are skipped, if it is not skipped itself. -/
def Node.shown : Node → List Node
  | .text k s => [.text k s]
  | .element name as cs =>
    if (Node.element name as cs).isSkipped then [] else [.element name as (shownOf cs)]

def shownOf : List Node → List Node
  | [] => []
  | n :: r => n.shown ++ shownOf r

end

theorem stringsOf_append (counts : TextKind → Bool) (ns ms : List Node) :
    stringsOf counts (ns ++ ms) = stringsOf counts ns ++ stringsOf counts ms := by
  induction ns with
  | nil => rfl
  | cons n r ih => rw [List.cons_append, stringsOf, stringsOf, ih, List.append_assoc]

/-- The texts of a node one after the other, those that are content and stand in no element that is
skipped. -/
def Node.shownText (n : Node) : String := String.join (stringsOf (fun k => !k.isHidden) n.shown)

namespace Visible

def EndsLine (out : List Char) : Prop := out = [] ∨ out.head? = some '\n'

theorem endLine_eq (out : List Char) :
    endLine out = if out.isEmpty || out.head? == some '\n' then out else '\n' :: out := by
  cases out with
  | nil => rfl
  | cons c r =>
    by_cases hc : c = '\n'
    · subst hc
      rfl
    · simp [endLine, hc]

theorem endsLine_endLine (out : List Char) : EndsLine (endLine out) := by
  rw [endLine_eq]
  split
  · next h => simpa [EndsLine] using h
  · exact .inr rfl

theorem endsLine_enter {n : Node} (h : n.isDocblock = true) (out : List Char) :
    EndsLine (enter n out) := by
  unfold enter
  split
  · exact .inr rfl
  · rw [if_pos (by simp [h])]
    exact endsLine_endLine out

theorem endsLine_node {n : Node} (hd : n.isDocblock = true) (hs : n.isSkipped = false)
    (out : List Char) : EndsLine (node out n) := by
  cases n with
  | text => cases hd
  | element name as cs =>
    rw [node, if_neg (by simp [hs]), leave, if_pos hd]
    exact endsLine_endLine _

theorem isBlank_newline : Text.isBlank '\n' = true := by decide

theorem marks_endLine (out : List Char) : marks (endLine out) = marks out := by
  unfold endLine
  split
  · rfl
  · rfl
  · exact Text.marks_blank isBlank_newline _

theorem marks_enter (n : Node) (out : List Char) : marks (enter n out) = marks out := by
  unfold enter
  split
  · exact Text.marks_blank isBlank_newline _
  · split
    · exact marks_endLine out
    · rfl

theorem marks_leave (n : Node) (out : List Char) : marks (leave n out) = marks out := by
  unfold leave
  split
  · exact marks_endLine out
  · rfl

mutual

theorem marks_node (out : List Char) (n : Node) :
    marks (node out n) =
      (marks ((stringsOf (fun k => !k.isHidden) n.shown).flatMap String.toList)).reverse ++
        marks out := by
  cases n with
  | text k s =>
    rw [node, Node.shown]
    cases hk : k.isHidden
    · simp [stringsOf, Node.strings, hk, Text.marks_append, Text.marks_reverse]
    · simp [stringsOf, Node.strings, hk, marks]
  | element name as cs =>
    rw [node, Node.shown]
    split
    · simp [stringsOf, marks]
    · rw [marks_leave, marks_nodes _ cs, marks_enter]
      simp [stringsOf, Node.strings]

theorem marks_nodes (out : List Char) (ns : List Node) :
    marks (nodes out ns) =
      (marks ((stringsOf (fun k => !k.isHidden) (shownOf ns)).flatMap String.toList)).reverse ++
        marks out := by
  cases ns with
  | nil => simp [nodes, shownOf, stringsOf, marks]
  | cons n r =>
    rw [nodes, marks_nodes _ r, marks_node out n, shownOf, stringsOf_append, List.flatMap_append,
      Text.marks_append, List.reverse_append, List.append_assoc]

end

/-- An output in pieces, the last one first. -/
abbrev Pieces := List (List Char)

namespace Pieces

def joined (out : Pieces) : List Char := out.flatMap List.reverse

def endsLine : Pieces → Bool
  | [] => false
  | s :: _ => s.getLast? == some '\n'

def endLine (out : Pieces) : Pieces :=
  if out.isEmpty || out.endsLine then out else ['\n'] :: out

def enter (n : Node) (out : Pieces) : Pieces :=
  if isBreak n then ['\n'] :: out
  else if n.hasClass "fmt-newline" || n.isDocblock then out.endLine
  else out

def leave (n : Node) (out : Pieces) : Pieces := if n.isDocblock then out.endLine else out

mutual

def node (out : Pieces) : Node → Pieces
  | .text k s => if k.isHidden || s.isEmpty then out else s.toList :: out
  | .element name as cs =>
    if (Node.element name as cs).isSkipped then out
    else leave (.element name as cs) (nodes (enter (.element name as cs) out) cs)

def nodes (out : Pieces) : List Node → Pieces
  | [] => out
  | n :: r => nodes (node out n) r

end

/-- The nodes that are come to from a node on, each with the output before it. -/
inductive Comes : Pieces → Node → Pieces → Node → Prop where
  | here {out : Pieces} {n : Node} (h : n.isSkipped = false) : Comes out n out n
  | inside {out before : Pieces} {name : String} {as : List Attribute} {front rest : List Node}
      {c n : Node} (hs : (Node.element name as (front ++ c :: rest)).isSkipped = false)
      (h : Comes (nodes (enter (.element name as (front ++ c :: rest)) out) front) c before n) :
      Comes out (.element name as (front ++ c :: rest)) before n

def IsSolid (out : Pieces) : Prop := [] ∉ out

theorem IsSolid.endsLine_eq {out : Pieces} (h : out.IsSolid) :
    out.endsLine = (out.joined.head? == some '\n') := by
  cases out with
  | nil => rfl
  | cons s r =>
    have hs : s.reverse ≠ [] := fun hs => h (List.reverse_eq_nil_iff.mp hs ▸ List.mem_cons_self)
    rw [endsLine, joined, List.flatMap_cons, List.head?_append_of_ne_nil _ hs, List.head?_reverse]

theorem IsSolid.isEmpty_joined {out : Pieces} (h : out.IsSolid) :
    out.joined.isEmpty = out.isEmpty := by
  cases out with
  | nil => rfl
  | cons s r =>
    have hs : s ≠ [] := fun hs => h (hs ▸ List.mem_cons_self)
    simp [joined, hs]

structure Make (out : Pieces) (text : List Char) : Prop where
  solid : out.IsSolid
  joined : out.joined = text

namespace Make

variable {out : Pieces} {text : List Char}

theorem cons (h : out.Make text) {s : List Char} (hs : s ≠ []) :
    Make (s :: out) (s.reverse ++ text) where
  solid := by simpa [IsSolid, Ne.symm hs] using h.solid
  joined := congrArg (s.reverse ++ ·) h.joined

theorem endLine (h : out.Make text) : out.endLine.Make (Visible.endLine text) := by
  obtain ⟨hs, rfl⟩ := h
  rw [endLine_eq, Pieces.endLine, hs.isEmpty_joined, hs.endsLine_eq]
  split
  · exact ⟨hs, rfl⟩
  · exact cons ⟨hs, rfl⟩ (List.cons_ne_nil _ _)

theorem enter (h : out.Make text) (n : Node) : (out.enter n).Make (Visible.enter n text) := by
  unfold Pieces.enter Visible.enter
  split
  · exact h.cons (List.cons_ne_nil _ _)
  · split
    · exact h.endLine
    · exact h

theorem leave (h : out.Make text) (n : Node) : (out.leave n).Make (Visible.leave n text) := by
  unfold Pieces.leave Visible.leave
  split
  · exact h.endLine
  · exact h

end Make

mutual

theorem make_node {out : Pieces} {text : List Char} (h : out.Make text) (n : Node) :
    (out.node n).Make (Visible.node text n) := by
  cases n with
  | text k s =>
    rw [node, Visible.node]
    cases hk : k.isHidden
    · by_cases hs : s = ""
      · simpa [hs] using h
      · simpa [hs] using h.cons (by simpa using hs)
    · simpa using h
  | element name as cs =>
    rw [node, Visible.node]
    split
    · exact h
    · exact (make_nodes (h.enter _) cs).leave _

theorem make_nodes {out : Pieces} {text : List Char} (h : out.Make text) (ns : List Node) :
    (out.nodes ns).Make (Visible.nodes text ns) := by
  cases ns with
  | nil => exact h
  | cons n r => exact make_nodes (make_node h n) r

end

theorem suffix_endLine (out : Pieces) : out <:+ out.endLine := by
  unfold endLine
  split
  · exact List.suffix_rfl
  · exact List.suffix_cons ..

theorem suffix_enter (n : Node) (out : Pieces) : out <:+ out.enter n := by
  unfold enter
  split
  · exact List.suffix_cons ..
  · split
    · exact suffix_endLine out
    · exact List.suffix_rfl

theorem suffix_leave (n : Node) (out : Pieces) : out <:+ out.leave n := by
  unfold leave
  split
  · exact suffix_endLine out
  · exact List.suffix_rfl

mutual

theorem suffix_node (out : Pieces) (n : Node) : out <:+ out.node n := by
  cases n with
  | text k s =>
    rw [node]
    split
    · exact List.suffix_rfl
    · exact List.suffix_cons ..
  | element name as cs =>
    rw [node]
    split
    · exact List.suffix_rfl
    · exact (suffix_enter _ out).trans ((suffix_nodes _ cs).trans (suffix_leave _ _))

theorem suffix_nodes (out : Pieces) (ns : List Node) : out <:+ out.nodes ns := by
  cases ns with
  | nil => exact List.suffix_rfl
  | cons n r => exact (suffix_node out n).trans (suffix_nodes _ r)

end

theorem enter_suffix_node {n : Node} (h : n.isSkipped = false) (out : Pieces) :
    out.enter n <:+ out.node n := by
  cases n with
  | text => exact suffix_node out _
  | element name as cs =>
    rw [node, if_neg (by simp [h])]
    exact (suffix_nodes _ cs).trans (suffix_leave _ _)

theorem nodes_append (out : Pieces) (ns ms : List Node) :
    out.nodes (ns ++ ms) = (out.nodes ns).nodes ms := by
  induction ns generalizing out with
  | nil => rfl
  | cons n r ih => exact ih (out.node n)

namespace Comes

variable {out before : Pieces} {n m : Node}

theorem isSkipped (h : Comes out n before m) : m.isSkipped = false := by
  induction h with
  | here h => exact h
  | inside _ _ ih => exact ih

theorem isSolid (h : Comes out n before m) (hout : out.IsSolid) : before.IsSolid := by
  induction h with
  | here => exact hout
  | inside _ _ ih => exact ih (make_nodes (Make.enter ⟨hout, rfl⟩ _) _).solid

theorem suffix (h : Comes out n before m) : before.node m <:+ out.node n := by
  induction h with
  | here => exact List.suffix_rfl
  | inside hs _ ih =>
    rw [node, if_neg (by simp [hs]), nodes_append, nodes]
    exact ih.trans ((suffix_nodes _ _).trans (suffix_leave _ _))

end Comes

end Pieces

end Visible

/-- A reader sees all texts that are shown, in order and up to blanks. The output is made of pieces,
none of them empty, so that whether the last one ends a line is whether the output does; and a block
of documentation has the start of a line before it and after it. A document is like an element that
adds nothing to what is in it. The trees are no deeper than `visibleLimit`; a page with a deeper one
does not pass `Page.check`, and its texts are not collected. -/
theorem visible_keepsText :
    (∀ n : Node,
      Text.marks n.visible.toList = Text.marks n.shownText.toList ∧
      (Visible.Pieces.node [] n).Make (Visible.node [] n) ∧
      ∀ before m, Visible.Pieces.Comes [] n before m →
        before.enter m <:+ before.node m ∧ before.node m <:+ Visible.Pieces.node [] n ∧
        before.endsLine = (before.joined.head? == some '\n') ∧
        ((before.enter m).nodes m.children).endsLine =
          (((before.enter m).nodes m.children).joined.head? == some '\n') ∧
        (m.isDocblock = true →
          Visible.EndsLine (before.enter m).joined ∧ Visible.EndsLine (before.node m).joined)) ∧
    ∀ d : Document, d.visible = (Node.element "[document]" [] d.children).visible := by
  have hdocument (d : Document) : d.visible = (Node.element "[document]" [] d.children).visible :=
    have hbreak : Visible.isBreak (Node.element "[document]" [] d.children) = false := rfl
    (Node.visible_of_element rfl rfl hbreak).symm
  refine ⟨fun n => ?_, hdocument⟩
  have hnil : Visible.Pieces.Make [] [] := ⟨List.not_mem_nil, rfl⟩
  refine ⟨?_, Visible.Pieces.make_node hnil n, fun before m h => ?_⟩
  · rw [Node.visible, String.toList_ofList, Text.marks_trim, Text.marks_reverse,
      Visible.marks_node, Node.shownText, String.toList_join]
    simp [marks]
  · have hbefore : before.Make before.joined := ⟨h.isSolid hnil.solid, rfl⟩
    have hcontent := Visible.Pieces.make_nodes (hbefore.enter m) m.children
    refine ⟨Visible.Pieces.enter_suffix_node h.isSkipped before, h.suffix,
      hbefore.solid.endsLine_eq, hcontent.solid.endsLine_eq, fun hd => ?_⟩
    rw [(hbefore.enter m).joined, (Visible.Pieces.make_node hbefore m).joined]
    exact ⟨Visible.endsLine_enter hd _, Visible.endsLine_node hd h.isSkipped _⟩

def innerBlock : Node :=
  .element "div" [⟨"class", "docblock"⟩] [.text .comment "no content", .text .plain "b"]

def outerBlock : Node :=
  .element "div" [⟨"class", "docblock"⟩] [.text .plain "a",
    .element "a" [⟨"class", "anchor"⟩] [.text .plain "#"], innerBlock, .text .plain "c"]

theorem visible_keepsText_nested :
    outerBlock.visible = "a\nb\nc" ∧ outerBlock.shownText = "abc" ∧
      Text.marks outerBlock.visible.toList = Text.marks outerBlock.shownText.toList ∧
      Visible.Pieces.Comes [] outerBlock [['a']] innerBlock ∧
      Visible.EndsLine (Visible.Pieces.enter innerBlock [['a']]).joined ∧
      Visible.EndsLine (Visible.Pieces.node [['a']] innerBlock).joined := by
  obtain ⟨hmarks, -, hcomes⟩ := visible_keepsText.1 outerBlock
  have hskipped : innerBlock.isSkipped = false := by decide
  have hinner : Visible.Pieces.Comes [] outerBlock [['a']] innerBlock := by
    change Visible.Pieces.Comes [] (.element "div" [⟨"class", "docblock"⟩]
      (outerBlock.children.take 2 ++ innerBlock :: outerBlock.children.drop 3)) _ _
    exact .inside rfl (.here hskipped)
  obtain ⟨-, -, -, -, hline⟩ := hcomes _ _ hinner
  exact ⟨by decide, by decide, hmarks, hinner, hline (by decide)⟩

end Markup

end CrateDocs
