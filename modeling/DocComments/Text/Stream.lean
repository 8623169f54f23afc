import DocComments.Text.Cursor

/-!
# Streams of characters

A `Stream` is a text together with the number of the character that is read next and with a
line and a column.  It can be set up with any three numbers.  A number below zero counts
back from the end of the text when a character is read, so reading can run through the end
of the text into its start.

Where the number of a `Cursor` is known, a cursor is a stream that costs no search
(`Cursor.next_toStream`).
-/

namespace DocComments.Text

/-- **A stream of characters.** -/
structure Stream where
  /-- The text. -/
  source : List Char
  /-- The number of the character that is read next. -/
  position : Int
  /-- The line of that character. -/
  line : Int
  /-- The column of that character. -/
  column : Int
  deriving DecidableEq, Repr

/-- **Why no character can be read** from a stream. -/
inductive StreamFault where
  /-- The position is at the end of the text or beyond. -/
  | pastEnd (position line : Int)
  /-- The position lies so far below zero that no character has its number. -/
  | beforeStart
  deriving DecidableEq, Repr

/-- The wording of a fault. -/
def StreamFault.message : StreamFault → String
  | pastEnd position line =>
      "CharacterStreamError: Attempted to read past end of source " ++
        s!"at position=<{position}>, line=<{line}>"
  | beforeStart => "string index out of range"

namespace Stream

/-- The position lies at the end of the text or beyond. -/
def atEnd (s : Stream) : Bool :=
  (s.source.length : Int) ≤ s.position

/-- The character with a given number; one below zero counts back from the end. -/
def charAt? (s : Stream) (number : Int) : Option Char :=
  let index := if number < 0 then s.source.length + number else number
  if index < 0 then none else s.source[index.toNat]?

/-- The stream behind one character. -/
def moved (s : Stream) (c : Char) : Stream where
  source := s.source
  position := s.position + 1
  line := if c = '\n' then s.line + 1 else s.line
  column := if c = '\n' then 1 else s.column + 1

/-- **Reads one character** and moves behind it. -/
def next (s : Stream) : Except StreamFault (Char × Stream) :=
  if s.atEnd then .error (.pastEnd s.position s.line)
  else
    match s.charAt? s.position with
    | none => .error .beforeStart
    | some c => .ok (c, s.moved c)

/-- The character `distance` places ahead, or behind if negative.  No place before the start
of the text or behind its end has one. -/
def peek (s : Stream) (distance : Int) : Option Char :=
  let index := s.position + distance
  if index < 0 then none else s.source[index.toNat]?

/-- The text continues with `text` from the position on, or from its start if the position
lies before it.  Beyond the end nothing continues the text, not even the empty text. -/
def startsWith (s : Stream) (text : List Char) : Bool :=
  let start := if s.position < 0 then s.source.length + s.position else s.position
  start ≤ s.source.length && text.isPrefixOf (s.source.drop start.toNat)

end Stream

namespace Cursor

/-- A cursor as a stream. -/
def toStream (c : Cursor) : Stream :=
  ⟨c.source, c.offset, c.line, c.column⟩

/-- **Reading at a cursor** gives the first character that is still to come, and moves the
cursor forward. -/
theorem next_toStream {c : Cursor} {ch : Char} {rest : List Char} (h : c.rest = ch :: rest) :
    c.toStream.next = .ok (ch, c.forward.toStream) := by
  have hlen : ¬((c.source.length : Int) ≤ c.offset) := by
    simp only [source, h, c.offset_eq, List.length_append, List.length_reverse, List.length_cons]
    omega
  have hneg : ¬((c.offset : Int) < 0) := by omega
  have hget : c.source[c.offset]? = some ch := by
    simp [source, h, c.offset_eq]
  have hmove : c.toStream.moved ch = c.forward.toStream := by
    have hsource := c.source_forward
    simp only [toStream, Stream.moved, hsource]
    simp [forward, h]
  simp [Stream.next, Stream.atEnd, Stream.charAt?, toStream, hlen, hneg, hget]
  simpa [toStream] using hmove

end Cursor

end DocComments.Text
