/-
**Domain names.**

A domain name is a sequence of labels separated by dots, 1 to 253 bytes long.  A label has 1 to 63
bytes, all of them ASCII letters, digits or hyphens, and neither begins nor ends with a hyphen.
The check reports the first thing that is wrong: the name as a whole comes first, then its labels
from the left, and within a label its presence, its length, its characters and its ends.

Main definitions:

* `ZoneKeeper.DomainName.labels` — the labels of a name;
* `ZoneKeeper.DomainName.Fault` — what can be wrong with a name;
* `ZoneKeeper.DomainName.fault?` — the first thing wrong with a name;
* `ZoneKeeper.DomainName.WellFormed` — the grammar, without reference to the check.
-/

import ZoneKeeper.Text.Decimal
import ZoneKeeper.Text.Fields

set_option autoImplicit false

namespace ZoneKeeper.DomainName

open ZoneKeeper.Text

/-- The greatest length of a name in bytes. -/
def maxLength : Nat := 253

/-- The greatest length of a label in bytes. -/
def maxLabelLength : Nat := 63

/-- The labels of a name, from the left. -/
def labels (name : String) : List (List Char) :=
  fields '.' name.toList

/-- An ASCII letter or digit. -/
def isLetterOrDigit (c : Char) : Bool :=
  ('a' ≤ c && c ≤ 'z') || ('A' ≤ c && c ≤ 'Z') || ('0' ≤ c && c ≤ '9')

/-- A character that a label may hold. -/
def isLabelChar (c : Char) : Bool :=
  isLetterOrDigit c || c == '-'

/-- The number of bytes of the characters. -/
def byteLength (cs : List Char) : Nat :=
  (String.ofList cs).utf8ByteSize

/-! ### Faults -/

/-- What can be wrong with a name. -/
inductive Fault
  | empty
  | tooLong (length : Nat) (name : String)
  | emptyLabel (name : String)
  | labelTooLong (length : Nat) (label : String)
  | invalidCharacter (label : String)
  | outerHyphen (label : String)
  deriving DecidableEq, Repr

/-- The text of a fault. -/
def Fault.message : Fault → String
  | .empty => "Zone name cannot be empty"
  | .tooLong length name =>
      "Domain name too long: " ++ natText length ++ " chars (max 253). Got: " ++ name
  | .emptyLabel name => "Domain name has empty label: '" ++ name ++ "'"
  | .labelTooLong length label =>
      "Domain label too long: " ++ natText length ++ " chars (max 63). Label: '" ++ label ++ "'"
  | .invalidCharacter label =>
      "Domain label contains invalid characters. Label: '" ++ label ++ "'"
  | .outerHyphen label =>
      "Domain label cannot start or end with hyphen. Label: '" ++ label ++ "'"

/-- The first thing wrong with a label of the name. -/
def labelFault? (name : String) (label : List Char) : Option Fault :=
  if label = [] then some (.emptyLabel name)
  else if maxLabelLength < byteLength label then
    some (.labelTooLong (byteLength label) (String.ofList label))
  else if !label.all isLabelChar then some (.invalidCharacter (String.ofList label))
  else if label.head? = some '-' ∨ label.getLast? = some '-' then
    some (.outerHyphen (String.ofList label))
  else none

/-- The first thing wrong with a name. -/
def fault? (name : String) : Option Fault :=
  if name = "" then some .empty
  else if maxLength < name.utf8ByteSize then some (.tooLong name.utf8ByteSize name)
  else (labels name).findSome? (labelFault? name)

/-! ### The grammar -/

/-- A label: 1 to 63 letters, digits and hyphens, with a letter or digit at each end. -/
structure Label (cs : List Char) : Prop where
  length_pos : 0 < cs.length
  length_le : cs.length ≤ maxLabelLength
  chars : ∀ c ∈ cs, isLabelChar c = true
  first : ∀ c ∈ cs.head?, isLetterOrDigit c = true
  last : ∀ c ∈ cs.getLast?, isLetterOrDigit c = true

/-- A name: at least one label, dots between the labels, at most 253 characters in all. -/
structure WellFormed (name : String) : Prop where
  length_le : name.length ≤ maxLength
  parts : ∃ ls : List (List Char), ls ≠ [] ∧ (∀ l ∈ ls, Label l) ∧ name.toList = joinFields '.' ls

end ZoneKeeper.DomainName
