import SqlText.Render.Course

/-!
# What is noted

Three things are noted while statements are built: that a statement was rendered, that a dialect
was found through an engine, and that a factory was made.
-/

set_option autoImplicit false

namespace SqlText

/-- Something worth a line in a log. -/
inductive Event where
  /-- A statement was rendered. -/
  | rendered (record : Record)
  /-- The dialect of the given name was found through an engine. -/
  | resolved (shown : Text) (dialect : Value)
  /-- A factory was made for the dialect of the given name. -/
  | factory (dialect : Value)

/-- What is noted in the course of a rendering. -/
def Course.events (course : Course) : List Event := course.records.map Event.rendered

end SqlText
