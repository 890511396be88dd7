/-!
Progress reports. What a reading of documentation does is told as a list of events; a program that
was asked for them writes those of a level.
-/

namespace CrateDocs

inductive Level where
  | debug
  | info
  | warning
  deriving DecidableEq

namespace Level

def rank : Level → Nat
  | debug => 10
  | info => 20
  | warning => 30

def name : Level → String
  | debug => "DEBUG"
  | info => "INFO"
  | warning => "WARNING"

end Level

inductive Area where
  | encoding
  | page
  | layout
  | listing
  | source
  | index
  | schema
  | suggestion
  | toolchain
  | viewer
  | highlighting
  | session
  deriving DecidableEq

def Area.name : Area → String
  | encoding => "bs4.dammit"
  | page => "rustdoc_man.parser.html"
  | layout => "rustdoc_man.parser.strategies"
  | listing => "rustdoc_man.parser.members"
  | source => "rustdoc_man.sources"
  | index => "rustdoc_man.index.search_index"
  | schema => "rustdoc_man.index.schemas"
  | suggestion => "rustdoc_man.fuzzy_resolver"
  | toolchain => "rustdoc_man.sysroot_detector"
  | viewer => "rustdoc_man.viewer.base"
  | highlighting => "rustdoc_man.viewer.rich"
  | session => "rustdoc_man.cli"

structure Event where
  level : Level
  area : Area
  message : String
  deriving DecidableEq

namespace Event

def line (e : Event) : String := e.level.name ++ " " ++ e.area.name ++ ": " ++ e.message

def detailed (level : Level) (area : Area) (what : String) (details : List (String × String)) :
    Event :=
  ⟨level, area, " ".intercalate (("event", "'" ++ what ++ "'") :: details |>.map fun d =>
    d.1 ++ "=" ++ d.2)⟩

end Event

/-- Findings in the order in which they were made, with the events between them. -/
abbrev Trail (α : Type) := List (Event ⊕ α)

namespace Trail

def items (t : Trail α) : List α := t.filterMap fun x => match x with
  | .inr a => some a
  | .inl _ => none

def events (t : Trail α) : List Event := t.filterMap fun x => match x with
  | .inl e => some e
  | .inr _ => none

def note (e : Event) : Trail α := [.inl e]

def found (a : α) : Trail α := [.inr a]

@[simp] theorem items_nil : items ([] : Trail α) = [] := rfl

@[simp] theorem items_append (s t : Trail α) : items (s ++ t) = items s ++ items t :=
  List.filterMap_append

@[simp] theorem items_note (e : Event) : items (note e : Trail α) = [] := rfl

@[simp] theorem items_found (a : α) : items (found a) = [a] := rfl

theorem items_flatMap (f : β → Trail α) (l : List β) :
    items (l.flatMap f) = l.flatMap fun b => items (f b) := by
  induction l with
  | nil => rfl
  | cons b r ih => simp [ih]

end Trail

end CrateDocs
