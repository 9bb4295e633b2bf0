/-
**Reading a JSON text.**

The words of the text are taken one at a time.  The values that have been opened and not closed
are kept on a stack, so that nesting of any depth is read with no more than a list; a closed value
goes to the one that holds it.  The text is accepted if its words make exactly one value.

Main definitions:

* `ZoneKeeper.Json.Frame` — an open array or object, waiting for a value;
* `ZoneKeeper.Json.Expecting` — what may come next;
* `ZoneKeeper.Json.ReadState.step` — the effect of one word;
* `ZoneKeeper.Json.read?` — the value of a text.
-/

import ZoneKeeper.Json.Token
import ZoneKeeper.Json.Value

set_option autoImplicit false

namespace ZoneKeeper.Json

/-- The members of an object that have been read, latest first. -/
abbrev Members := List (Option String × Value)

/-- An open array or object that waits for a value. -/
inductive Frame
  | item (done : List Value)
  | member (done : Members) (key : Option String)

/-- What may come next. -/
inductive Expecting
  | value
  | firstItem
  | afterItem (done : List Value)
  | firstKey
  | key (done : Members)
  | colon (done : Members) (key : Option String)
  | afterMember (done : Members)
  | nothing (v : Value)

/-- The open values, innermost first, and what may come next. -/
structure ReadState where
  frames : List Frame
  expecting : Expecting

namespace ReadState

/-- Gives a finished value to the innermost open one. -/
def deliver : List Frame → Value → ReadState
  | [], v => ⟨[], .nothing v⟩
  | .item done :: fs, v => ⟨fs, .afterItem (v :: done)⟩
  | .member done key :: fs, v => ⟨fs, .afterMember ((key, v) :: done)⟩

/-- The effect of the first word of a value. -/
def beginValue (fs : List Frame) : Token → Option ReadState
  | .null => some (deliver fs .null)
  | .bool b => some (deliver fs (.bool b))
  | .number numeral => some (deliver fs (.number numeral))
  | .string text => some (deliver fs (.string text))
  | .openBracket => some ⟨fs, .firstItem⟩
  | .openBrace => some ⟨fs, .firstKey⟩
  | _ => none

/-- The effect of one word. -/
def step (s : ReadState) (t : Token) : Option ReadState :=
  match s.expecting, t with
  | .value, t => beginValue s.frames t
  | .firstItem, .closeBracket => some (deliver s.frames (.array []))
  | .firstItem, t => beginValue (.item [] :: s.frames) t
  | .afterItem done, .comma => some ⟨.item done :: s.frames, .value⟩
  | .afterItem done, .closeBracket => some (deliver s.frames (.array done.reverse))
  | .firstKey, .closeBrace => some (deliver s.frames (.object []))
  | .firstKey, .string key => some ⟨s.frames, .colon [] key⟩
  | .key done, .string key => some ⟨s.frames, .colon done key⟩
  | .colon done key, .colon => some ⟨.member done key :: s.frames, .value⟩
  | .afterMember done, .comma => some ⟨s.frames, .key done⟩
  | .afterMember done, .closeBrace => some (deliver s.frames (.object done.reverse))
  | _, _ => none

/-- The value, if one has been read and nothing is open. -/
def finish (s : ReadState) : Option Value :=
  match s.expecting with
  | .nothing v => some v
  | _ => none

/-- The state after the words. -/
def steps (s : ReadState) : List Token → Option ReadState
  | [] => some s
  | t :: ts =>
      match s.step t with
      | none => none
      | some next => next.steps ts

end ReadState

/-- The value that the words make. -/
def valueOfTokens? (ts : List Token) : Option Value :=
  ((ReadState.mk [] .value).steps ts).bind ReadState.finish

/-- The value of a text, given by its bytes. -/
def read? (bs : List UInt8) : Option Value :=
  (tokens? bs).bind valueOfTokens?

end ZoneKeeper.Json
