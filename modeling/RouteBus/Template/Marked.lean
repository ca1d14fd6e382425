import RouteBus.Template.Token

/-!
# Marked texts

A text with a mark at each of its places: before each character and at its end.
What can be read from a place on is such a mark. One more token in front changes
all marks in a single pass over the text, however many readings there are.
-/

namespace RouteBus

inductive Marked (α : Type) where
  | last (mark : α)
  | next (mark : α) (c : Char) (rest : Marked α)

namespace Marked

variable {α β : Type}

def mark : Marked α → α
  | .last mark | .next mark _ _ => mark

def map (f : α → β) : Marked α → Marked β
  | .last mark => .last (f mark)
  | .next mark c rest => .next (f mark) c (rest.map f)

/-- A text on whose end alone there is something to read. -/
def ofText (atEnd : α) : List Char → Marked (Option α)
  | [] => .last (some atEnd)
  | c :: cs => .next none c (ofText atEnd cs)

/-- The mark behind `text`, if the marked text begins with it. -/
def behind : List Char → Marked (Option α) → Option α
  | [], m => m.mark
  | _ :: _, .last _ => none
  | t :: ts, .next _ c rest => if t == c then behind ts rest else none

def literal (text : List Char) : Marked (Option α) → Marked (Option α)
  | .last mark => .last (behind text (.last mark))
  | .next mark c rest => .next (behind text (.next mark c rest)) c (rest.literal text)

/-- Marks each place with the longest non-empty text without separators that leads
to a mark, and with that mark. -/
def segment : Marked (Option α) → Marked (Option (List Char × α))
  | .last _ => .last none
  | .next _ c rest =>
    let later := rest.segment
    let reading :=
      if isSeparator c then none
      else
        match later.mark with
        | some (value, mark) => some (c :: value, mark)
        | none => rest.mark.map ([c], ·)
    .next reading c later

/-- Marks each place with the shortest text without line feed that leads to a
mark, and with that mark. -/
def line : Marked (Option α) → Marked (Option (List Char × α))
  | .last mark => .last (mark.map ([], ·))
  | .next mark c rest =>
    let later := rest.line
    let reading :=
      match mark with
      | some mark => some ([], mark)
      | none => if c == '\n' then none else later.mark.map fun (value, mark) => (c :: value, mark)
    .next reading c later

end Marked

end RouteBus
