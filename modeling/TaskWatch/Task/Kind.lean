/-! The kinds of work a task performs.

    The four kinds have a fixed order. A form steps through them in that order, forwards or
    backwards, and wraps around at either end. -/

namespace TaskWatch

/-- Kind of work a task performs. -/
inductive Kind where
  | email
  | notification
  | report
  | maintenance
  deriving DecidableEq, Repr

namespace Kind

/-- Every kind, in order. -/
def all : List Kind := [.email, .notification, .report, .maintenance]

/-- The word that stands for the kind in records and on the screen. -/
def word : Kind → String
  | .email => "email"
  | .notification => "notification"
  | .report => "report"
  | .maintenance => "maintenance"

/-- The kind after this one, the first after the last. -/
def next : Kind → Kind
  | .email => .notification
  | .notification => .report
  | .report => .maintenance
  | .maintenance => .email

/-- The kind before this one, the last before the first. -/
def previous : Kind → Kind
  | .email => .maintenance
  | .notification => .email
  | .report => .notification
  | .maintenance => .report

/-- The kind a word stands for. -/
def ofWord? (w : String) : Option Kind :=
  all.find? (fun k => k.word == w)

/-- Stepping forwards and back again ends where it began. -/
theorem previous_next (k : Kind) : k.next.previous = k := by cases k <;> rfl

/-- Stepping backwards and forwards again ends where it began. -/
theorem next_previous (k : Kind) : k.previous.next = k := by cases k <;> rfl

end Kind

end TaskWatch
