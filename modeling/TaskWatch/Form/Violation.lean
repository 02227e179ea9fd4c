/-! Rules of the form that an entry breaks. -/

namespace TaskWatch

/-- Field of the form for new tasks. -/
inductive Field where
  | name
  | kind
  | priority
  deriving DecidableEq, Repr

namespace Field

/-- Every field, in order. -/
def all : List Field := [.name, .kind, .priority]

/-- The word that names the field. -/
def label : Field → String
  | .name => "name"
  | .kind => "type"
  | .priority => "priority"

/-- The field a label names. -/
def ofLabel? (s : String) : Option Field := all.find? (fun f => f.label == s)

/-- The field after this one, the first after the last. -/
def next : Field → Field
  | .name => .kind
  | .kind => .priority
  | .priority => .name

/-- The field before this one, the last before the first. -/
def previous : Field → Field
  | .name => .priority
  | .kind => .name
  | .priority => .kind

end Field

/-- A rule that one field breaks. -/
structure Violation where
  field : Field
  message : String
  deriving DecidableEq, Repr

/-- The violation as a text. -/
def Violation.text (v : Violation) : String := v.field.label ++ ": " ++ v.message

namespace Violations

/-- The violations as one text. -/
def text (vs : List Violation) : String :=
  "Validation failed: " ++ "; ".intercalate (vs.map Violation.text)

/-- The first message for the field, if there is one. -/
def messageFor (vs : List Violation) (f : Field) : Option String :=
  (vs.find? (fun v => v.field == f)).map Violation.message

end Violations

end TaskWatch
