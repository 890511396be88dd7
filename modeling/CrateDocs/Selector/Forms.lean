import CrateDocs.Selector.Basic

namespace CrateDocs.Selector.Forms

def onPage (options : List Selector) : Choice := .mk false true options

def oneOf (options : List Selector) : Simple := .choices [.mk false false options]

def noneOf (options : List Selector) : Simple := .choices [.mk true false options]

def element (name : String) : Simple := .named (some "html") name

def tag (name : String) : Selector := .all [.named none name]

def tags (names : List String) : Simple := oneOf (names.map tag)

def given (name : String) : Simple := .attribute name .present false

def valued (name value : String) : Simple := .attribute name (.equals value) (name == "type")

def ofTypes (types : List String) : List Selector := types.map fun t => .all [valued "type" t]

def untyped : List Selector := [.all [noneOf [.all [given "type"]]], .all [valued "type" ""]]

def link : Choice := onPage [.all [element "*", given "href", tags ["a", "area"]]]

def inputOf (type : String) : Selector := .all [.named none "input", valued "type" type]

def checked : Choice :=
  onPage [.all [element "*", given "checked", oneOf [inputOf "checkbox", inputOf "radio"]],
    .all [element "option", given "selected"]]

/-- The first button of a form that submits it counts as one that is chosen beforehand. -/
def default : Choice :=
  onPage [.all [.choices [checked]],
    .all [element "*", valued "type" "submit",
      oneOf [.all [element "button"], .all [element "input"]],
      .behind .descendant (.all [element "form"]), .firstSubmit]]

/-- Check boxes that say so, buttons of a group without a choice, and unmeasured progress. -/
def indeterminate : Choice :=
  let unchecked := noneOf [.all [given "checked"]]
  onPage [.all [element "input", valued "type" "checkbox", given "indeterminate"],
    .all [element "input", valued "type" "radio",
      oneOf [.all [noneOf [.all [given "name"]]], .all [valued "name" ""]], unchecked],
    .all [element "progress", noneOf [.all [given "value"]]],
    .all [element "input", valued "type" "radio", given "name",
      noneOf [.all [valued "name" ""]], unchecked, .undecided]]

def shownInput : Selector := .all [.named none "input", noneOf [inputOf "hidden"]]

def controls : List Selector := shownInput :: ["button", "select", "textarea", "fieldset"].map tag

def switches : List Selector := controls ++ ["optgroup", "option"].map tag

/-- Controls are disabled by themselves, by their group of options, or by a group of fields unless
they are in its first legend. -/
def disabled : Choice :=
  let off (name : String) : Selector := .all [element name, given "disabled"]
  let count : Simple := .count ⟨.only 1, true, false⟩ none
  let legend : Selector := .all [.named none "legend", count]
  onPage [.all [element "*", given "disabled", oneOf switches],
    .all [element "option", .behind .child (off "optgroup")],
    .all [element "*", oneOf controls, .behind .child (off "fieldset")],
    .all [element "*", oneOf controls,
      .behind .descendant
        (.all [element "*", noneOf [legend], .behind .descendant (off "fieldset")])]]

def enabled : Choice :=
  onPage [.all [element "*", .choices [.mk false false switches,
    .mk true false [.all [.choices [disabled]]]]]]

def fields : Simple := tags ["input", "select", "textarea"]

def required : Choice := onPage [.all [element "*", given "required", fields]]

def optional : Choice :=
  onPage [.all [element "*", .choices [.mk false false (["input", "select", "textarea"].map tag),
    .mk true false [.all [given "required"]]]]]

def editableInput : Selector :=
  .all [.named none "input", oneOf (untyped ++ ofTypes ["date", "datetime-local", "email", "month",
    "number", "password", "search", "tel", "text", "time", "url", "week"])]

def writable : Choice :=
  onPage [.all [element "*", .choices [.mk false false [tag "textarea", editableInput],
      .mk true false [.all [given "readonly"], .all [.choices [disabled]]]]],
    .all [element "*", oneOf [.all [valued "contenteditable" ""],
      .all [.attribute "contenteditable" (.equals "true") true]]]]

def readOnly : Choice := onPage [.all [element "*", noneOf [.all [.choices [writable]]]]]

def placeholderShown : Choice :=
  let unnamed : Choice := .mk true false [.all [valued "placeholder" ""]]
  onPage [.all [element "input", given "placeholder", .choices [
      .mk false false (untyped ++ ofTypes ["text", "search", "url", "tel", "email", "password",
        "number"]),
      unnamed,
      .mk false false [.all [noneOf [.all [given "value"]]], .all [valued "value" ""]]]],
    .all [element "textarea", .blank, given "placeholder", .choices [unnamed]]]

def range (within : Bool) : Choice :=
  onPage [.all [element "input", .range within, .choices [
    .mk false false
      (ofTypes ["date", "month", "week", "time", "datetime-local", "number", "range"]),
    .mk false false [.all [given "min"], .all [given "max"]]]]]

def isOpen : Choice := onPage [.all [element "*", given "open", tags ["details", "dialog"]]]

def muted : Choice := onPage [.all [element "*", given "muted", tags ["video", "audio"]]]

end CrateDocs.Selector.Forms
