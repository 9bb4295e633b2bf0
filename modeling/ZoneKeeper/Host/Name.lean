/-
**Host names.**

A host name is labels with dots between them.  It is brought into ASCII: folded, cut at the dots,
and each label with characters beyond ASCII written with ASCII ones.  Where any label holds letters
from right to left, every label has to read in one direction.

Main definitions:

* `ZoneKeeper.Host.standsInName` — the ASCII characters that may stand in a name;
* `ZoneKeeper.Host.asciiName?` — the name in ASCII.
-/

import ZoneKeeper.Host.Label

set_option autoImplicit false

namespace ZoneKeeper.Host

open ZoneKeeper.Text ZoneKeeper.Unicode

/-- May stand in a folded name: anything but the controls, the space and the characters with a
meaning of their own in an address. -/
def standsInName (c : Char) : Bool :=
  0x20 < c.toNat && c.toNat != 0x7F &&
    !(['%', '#', '/', ':', '<', '>', '?', '@', '[', '\\', ']', '^', '|'].contains c)

/-- The labels may stand together in a name. -/
def agreeInDirection (labels : List Label) : Bool :=
  !labels.any (·.letters.any isRightward) || labels.all (readsOneWay ·.letters)

/-- The name in ASCII. -/
def asciiName? (cs : List Char) : Option (List Char) :=
  match fold? cs with
  | none => none
  | some folded =>
      if !folded.all standsInName then none
      else
        match (fields '.' folded).mapM Label.read? with
        | none => none
        | some labels =>
            if agreeInDirection labels then some (joinFields '.' (labels.map Label.ascii))
            else none

end ZoneKeeper.Host
