/-
**Labels of a host name.**

A label is what stands between the dots.  One that begins with `xn--` is the written form of a label
with characters beyond ASCII.  Such characters may stand in a label if folding keeps them, if there
are not too many, if the first one is no mark, if joiners stand only where they change the look of a
text, and if the label reads in one direction.

Main definitions:

* `ZoneKeeper.Host.Label` — a label in ASCII and what it stands for;
* `ZoneKeeper.Host.Label.read?` — the label that folded characters denote;
* `ZoneKeeper.Host.joinersFit` — the rule on joiners;
* `ZoneKeeper.Host.readsOneWay` — the rule on directions.
-/

import ZoneKeeper.Host.Folding
import ZoneKeeper.Host.Punycode
import ZoneKeeper.Unicode.Direction
import ZoneKeeper.Unicode.Joining

set_option autoImplicit false

namespace ZoneKeeper.Host

open ZoneKeeper.Unicode

/-! ### Joiners -/

/-- The first character that is not passed over has the property. -/
def nextJoins (joins : Char → Bool) (cs : List Char) : Bool :=
  match cs.dropWhile isTransparent with
  | c :: _ => joins c
  | [] => false

/-- A joiner, with the characters before it, nearest first, and those after it: it stands behind a
mark that takes the vowel away, or, if it keeps letters apart, between letters that would join. -/
def joinerFits (joiner : Char) (before after : List Char) : Bool :=
  (before.head?.map isVirama).getD false ||
    (joiner == '\u200C' && nextJoins joinsNext before && nextJoins joinsPrevious after)

/-- Every joiner stands where it may; `before` are the characters in front, nearest first. -/
def joinersFit (before : List Char) : List Char → Bool
  | [] => true
  | c :: r =>
      (!(c == '\u200C' || c == '\u200D') || joinerFits c before r) && joinersFit (c :: before) r

/-! ### Directions -/

/-- The directions that may occur in a label from left to right. -/
def mayStandLeft : Direction → Bool
  | .right | .arabicNumber => false
  | _ => true

/-- The directions that may occur in a label from right to left. -/
def mayStandRight : Direction → Bool
  | .left => false
  | _ => true

/-- The label reads in one direction: that of its first letter, up to its last character that is no
mark.  Numbers of both kinds do not mix in a label from right to left. -/
def readsOneWay (label : List Char) : Bool :=
  let ds := label.map direction
  let last := (ds.reverse.dropWhile (· == .nonspacing)).head?
  match ds with
  | [] => true
  | .left :: _ =>
      ds.all mayStandLeft && (last == some .left || last == some .europeanNumber)
  | .right :: _ =>
      ds.all mayStandRight && last != some .neutral &&
        !(ds.contains .europeanNumber && ds.contains .arabicNumber)
  | _ => false

/-- The character makes a name one of two directions. -/
def isRightward (c : Char) : Bool :=
  direction c == .right || direction c == .arabicNumber

/-! ### Labels -/

/-- A label in ASCII and the characters that it stands for. -/
structure Label where
  ascii : List Char
  letters : List Char
  deriving DecidableEq, Repr

/-- What the written form of a label with characters beyond ASCII begins with. -/
def writtenMark : List Char := "xn--".toList

/-- The length that a label with characters beyond ASCII may have. -/
def lengthLimit : Nat := 1000

/-- The length that the written form of a label may have after its mark. -/
def writtenLimit : Nat := 2000

/-- Characters beyond ASCII may stand together in a label. -/
def isWellFormed (letters : List Char) : Bool :=
  letters.length ≤ lengthLimit && !(letters.head?.map isMark).getD true && joinersFit [] letters

/-- The label whose written form is the mark and then `written`. -/
def Label.ofWritten? (written : List Char) : Option Label :=
  if writtenLimit < written.length then none
  else
    match Punycode.decode? written with
    | none => none
    | some letters =>
        if letters.all isAscii then none
        else if letters.all isFolded ∧ normalize letters = letters ∧ isWellFormed letters then
          some ⟨writtenMark ++ written, letters⟩
        else none

/-- The label that folded characters denote. -/
def Label.read? (cs : List Char) : Option Label :=
  if cs.take 4 = writtenMark then
    if cs.all isAscii then Label.ofWritten? (cs.drop 4) else none
  else if cs.all isAscii then some ⟨cs, cs⟩
  else if isWellFormed cs then
    some ⟨writtenMark ++ Punycode.encode cs, cs⟩
  else none

end ZoneKeeper.Host
