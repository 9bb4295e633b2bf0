/-
**The check of a domain name decides the grammar.**

The check works in bytes and cuts the name at its dots, while the grammar speaks of characters and
puts labels together.  The two agree because a name that passes holds nothing but ASCII characters,
each of which is one byte, and because no label holds a dot, so that the labels a name is made of are
the ones it is cut into.  A name that does not pass is refused for the first thing that is wrong with
it: a breach of the whole name comes before those of its labels, and a label's breach counts only if
all labels to its left are in order.

Main definitions:

* `ZoneKeeper.DomainName.LabelBreach` — the first thing wrong with a label;
* `ZoneKeeper.DomainName.FirstBreach` — the first thing wrong with a name.

Main results:

* `ZoneKeeper.DomainName.labelFault?_eq_none_iff`, `ZoneKeeper.DomainName.labelFault?_eq_some_iff` —
  the check of a label;
* `ZoneKeeper.DomainName.check_decides_grammar` — **which names pass, and which fault the others are
  refused for**.
-/

import ZoneKeeper.Reconciler

set_option autoImplicit false

namespace ZoneKeeper.DomainName

open ZoneKeeper.Text

/-! ### Bytes and characters -/

/-- Characters of one byte each have as many bytes as they are. -/
theorem byteLength_of_forall {cs : List Char} (h : ∀ c ∈ cs, c.utf8Size = 1) :
    byteLength cs = cs.length := by
  rw [byteLength]
  induction cs with
  | nil => rfl
  | cons c cs ih =>
      obtain ⟨hc, hcs⟩ := List.forall_mem_cons.1 h
      rw [String.ofList_cons, String.utf8ByteSize_append, String.utf8ByteSize_singleton, hc, ih hcs,
        List.length_cons]
      omega

theorem utf8ByteSize_eq (name : String) : name.utf8ByteSize = byteLength name.toList := by
  rw [byteLength, String.ofList_toList]

/-- Letters, digits and hyphens are up to U+007A. -/
theorem utf8Size_of_isLabelChar {c : Char} (h : isLabelChar c = true) : c.utf8Size = 1 := by
  rw [Char.utf8Size_eq_one_iff, UInt32.le_iff_toNat_le]
  simp only [isLabelChar, isLetterOrDigit, Bool.or_eq_true, Bool.and_eq_true, decide_eq_true_eq,
    beq_iff_eq, Char.le_def, UInt32.le_iff_toNat_le] at h
  rcases h with ((⟨-, h⟩ | ⟨-, h⟩) | ⟨-, h⟩) | rfl
  · exact Nat.le_trans h (by decide)
  · exact Nat.le_trans h (by decide)
  · exact Nat.le_trans h (by decide)
  · decide

/-- A character of a label that is no hyphen is a letter or a digit. -/
theorem isLetterOrDigit_iff {c : Char} :
    isLetterOrDigit c = true ↔ isLabelChar c = true ∧ c ≠ '-' := by
  constructor
  · intro h
    refine ⟨by simp [isLabelChar, h], ?_⟩
    rintro rfl
    exact absurd h (by decide)
  · rintro ⟨h, hne⟩
    simpa [isLabelChar, hne] using h

/-! ### Labels -/

namespace Label

variable {l : List Char} (h : Label l)

include h

theorem ne_nil : l ≠ [] :=
  List.length_pos_iff.1 h.length_pos

theorem byteLength_eq : byteLength l = l.length :=
  byteLength_of_forall fun c hc => utf8Size_of_isLabelChar (h.chars c hc)

theorem dot_not_mem : '.' ∉ l := by
  intro hdot
  exact absurd (h.chars '.' hdot) (by decide)

end Label

/-- The first thing wrong with a label of the name. -/
inductive LabelBreach (name : String) (l : List Char) : Fault → Prop
  | empty : l = [] → LabelBreach name l (.emptyLabel name)
  | tooLong : maxLabelLength < byteLength l →
      LabelBreach name l (.labelTooLong (byteLength l) (String.ofList l))
  | invalidCharacter : l ≠ [] → byteLength l ≤ maxLabelLength → (∃ c ∈ l, isLabelChar c = false) →
      LabelBreach name l (.invalidCharacter (String.ofList l))
  | outerHyphen : l ≠ [] → byteLength l ≤ maxLabelLength → (∀ c ∈ l, isLabelChar c = true) →
      (l.head? = some '-' ∨ l.getLast? = some '-') →
      LabelBreach name l (.outerHyphen (String.ofList l))

/-- Nothing is wrong with a label exactly if it is one of the grammar. -/
theorem label_iff_forall_not_breach (name : String) {l : List Char} :
    Label l ↔ ∀ fault, ¬ LabelBreach name l fault := by
  constructor
  · intro h fault hbreach
    cases hbreach with
    | empty hempty => exact h.ne_nil hempty
    | tooLong hlong => exact Nat.not_lt.2 h.length_le (h.byteLength_eq ▸ hlong)
    | invalidCharacter _ _ hinvalid =>
        obtain ⟨c, hc, hnot⟩ := hinvalid
        rw [h.chars c hc] at hnot
        cases hnot
    | outerHyphen _ _ _ hends =>
        rcases hends with hfirst | hlast
        · exact (isLetterOrDigit_iff.1 (h.first _ hfirst)).2 rfl
        · exact (isLetterOrDigit_iff.1 (h.last _ hlast)).2 rfl
  · intro h
    have hne : l ≠ [] := fun hempty => h _ (.empty hempty)
    have hshort : byteLength l ≤ maxLabelLength :=
      Nat.le_of_not_lt fun hlong => h _ (.tooLong hlong)
    have hall : ∀ c ∈ l, isLabelChar c = true := by
      intro c hc
      refine Bool.of_not_eq_false fun hnot => ?_
      exact h _ (.invalidCharacter hne hshort ⟨c, hc, hnot⟩)
    have hends : ¬ (l.head? = some '-' ∨ l.getLast? = some '-') := fun hhyphen =>
      h _ (.outerHyphen hne hshort hall hhyphen)
    have hbytes := byteLength_of_forall fun c hc => utf8Size_of_isLabelChar (hall c hc)
    refine ⟨List.length_pos_iff.2 hne, hbytes ▸ hshort, hall, ?_, ?_⟩
    · intro c hc
      refine isLetterOrDigit_iff.2 ⟨hall c (List.mem_of_mem_head? hc), ?_⟩
      rintro rfl
      exact hends (.inl hc)
    · intro c hc
      refine isLetterOrDigit_iff.2 ⟨hall c (List.mem_of_getLast? hc), ?_⟩
      rintro rfl
      exact hends (.inr hc)

/-- The check of a label reports the first thing that is wrong with it. -/
theorem labelFault?_eq_some_iff {name : String} {l : List Char} {fault : Fault} :
    labelFault? name l = some fault ↔ LabelBreach name l fault := by
  have hnil : byteLength [] ≤ maxLabelLength := by decide
  constructor
  · intro h
    rw [labelFault?] at h
    split at h
    · next hempty =>
        obtain rfl := Option.some.inj h
        exact .empty hempty
    · next hne =>
        split at h
        · next hlong =>
            obtain rfl := Option.some.inj h
            exact .tooLong hlong
        · next hlong =>
            have hshort := Nat.le_of_not_lt hlong
            split at h
            · next hinvalid =>
                obtain rfl := Option.some.inj h
                exact .invalidCharacter hne hshort (by simpa using hinvalid)
            · next hvalid =>
                split at h
                · next hends =>
                    obtain rfl := Option.some.inj h
                    exact .outerHyphen hne hshort (by simpa using hvalid) hends
                · cases h
  · intro h
    rw [labelFault?]
    cases h with
    | empty hempty => rw [if_pos hempty]
    | tooLong hlong =>
        have hne : l ≠ [] := by
          rintro rfl
          omega
        rw [if_neg hne, if_pos hlong]
    | invalidCharacter hne hshort hinvalid =>
        have hall : (!l.all isLabelChar) = true := by simpa using hinvalid
        rw [if_neg hne, if_neg (by omega), if_pos hall]
    | outerHyphen hne hshort hvalid hends =>
        have hall : ¬ (!l.all isLabelChar) = true := by simpa using hvalid
        rw [if_neg hne, if_neg (by omega), if_neg hall, if_pos hends]

/-- The check of a label passes the labels of the grammar. -/
theorem labelFault?_eq_none_iff {name : String} {l : List Char} :
    labelFault? name l = none ↔ Label l := by
  rw [Option.eq_none_iff_forall_ne_some, label_iff_forall_not_breach name]
  exact forall_congr' fun fault => not_congr labelFault?_eq_some_iff

/-! ### Names -/

/-- The first thing wrong with a name: with the whole of it, or else with the leftmost label that
anything is wrong with. -/
inductive FirstBreach (name : String) : Fault → Prop
  | empty : name = "" → FirstBreach name .empty
  | tooLong : maxLength < name.utf8ByteSize →
      FirstBreach name (.tooLong name.utf8ByteSize name)
  | label {before after : List (List Char)} {l : List Char} {fault : Fault} :
      name ≠ "" → name.utf8ByteSize ≤ maxLength →
      name.toList = joinFields '.' (before ++ l :: after) →
      (∀ l' ∈ before ++ l :: after, '.' ∉ l') → (∀ l' ∈ before, Label l') →
      LabelBreach name l fault → FirstBreach name fault

/-- The labels that a name is made of are the ones it is cut into. -/
theorem labels_eq_iff {name : String} {ls : List (List Char)} (hne : ls ≠ [])
    (hdot : ∀ l ∈ ls, '.' ∉ l) : labels name = ls ↔ name.toList = joinFields '.' ls := by
  constructor
  · rintro rfl
    rw [labels, joinFields_fields]
  · intro h
    rw [labels, h, fields_joinFields hne hdot]

theorem labels_ne_nil (name : String) : labels name ≠ [] :=
  fields_ne_nil '.' name.toList

theorem dot_not_mem_of_mem_labels {name : String} {l : List Char} (hl : l ∈ labels name) :
    '.' ∉ l :=
  not_mem_of_mem_fields '.' name.toList l hl

/-- A name passes if it is neither empty nor too long and all its labels pass. -/
theorem fault?_eq_none_iff {name : String} :
    fault? name = none ↔
      name ≠ "" ∧ name.utf8ByteSize ≤ maxLength ∧ ∀ l ∈ labels name, Label l := by
  rw [fault?]
  by_cases hempty : name = ""
  · simp [hempty]
  · by_cases hlong : maxLength < name.utf8ByteSize
    · simp [hempty, hlong, Nat.not_le.2 hlong]
    · simp [hempty, hlong, Nat.le_of_not_lt hlong, List.findSome?_eq_none_iff,
        labelFault?_eq_none_iff]

/-- A name that does not pass is refused for the first thing that is wrong with it. -/
theorem fault?_eq_some_iff {name : String} {fault : Fault} :
    fault? name = some fault ↔ FirstBreach name fault := by
  constructor
  · intro h
    rw [fault?] at h
    split at h
    · next hempty =>
        obtain rfl := Option.some.inj h
        exact .empty hempty
    · next hne =>
        split at h
        · next hlong =>
            obtain rfl := Option.some.inj h
            exact .tooLong hlong
        · next hlong =>
            obtain ⟨before, l, after, hlabels, hl, hbefore⟩ := List.findSome?_eq_some_iff.1 h
            have hdot : ∀ l' ∈ before ++ l :: after, '.' ∉ l' := by
              intro l' hl'
              exact dot_not_mem_of_mem_labels (hlabels ▸ hl')
            refine .label hne (Nat.le_of_not_lt hlong) ?_ hdot ?_ (labelFault?_eq_some_iff.1 hl)
            · exact (labels_eq_iff (by simp) hdot).1 hlabels
            · intro l' hl'
              exact labelFault?_eq_none_iff.1 (hbefore l' hl')
  · intro h
    rw [fault?]
    cases h with
    | empty hempty => rw [if_pos hempty]
    | tooLong hlong =>
        have hne : name ≠ "" := by
          rintro rfl
          exact absurd hlong (by decide)
        rw [if_neg hne, if_pos hlong]
    | @label before after l _ hne hshort hname hdot hbefore hl =>
        rw [if_neg hne, if_neg (by omega), (labels_eq_iff (by simp) hdot).2 hname]
        refine List.findSome?_eq_some_iff.2 ⟨before, l, after, rfl, ?_, ?_⟩
        · exact labelFault?_eq_some_iff.2 hl
        · intro l' hl'
          exact labelFault?_eq_none_iff.2 (hbefore l' hl')

/-- All labels of a name are in order exactly if it is made of such labels. -/
theorem forall_labels_iff {name : String} :
    (∀ l ∈ labels name, Label l) ↔
      ∃ ls : List (List Char), ls ≠ [] ∧ (∀ l ∈ ls, Label l) ∧ name.toList = joinFields '.' ls := by
  constructor
  · intro h
    exact ⟨labels name, labels_ne_nil name, h, (joinFields_fields '.' name.toList).symm⟩
  · rintro ⟨ls, hne, hls, hname⟩
    rw [(labels_eq_iff hne fun l hl => (hls l hl).dot_not_mem).2 hname]
    exact hls

/-- A name that is made of labels has as many bytes as characters, and is not empty. -/
theorem utf8ByteSize_of_forall_labels {name : String} (h : ∀ l ∈ labels name, Label l) :
    name.utf8ByteSize = name.length ∧ name ≠ "" := by
  have hname : name.toList = joinFields '.' (labels name) :=
    (joinFields_fields '.' name.toList).symm
  constructor
  · rw [utf8ByteSize_eq, byteLength_of_forall, String.length_toList]
    intro c hc
    rw [hname] at hc
    rcases mem_joinFields hc with rfl | ⟨l, hl, hc⟩
    · decide
    · exact utf8Size_of_isLabelChar ((h l hl).chars c hc)
  · rintro rfl
    exact (h [] (by decide)).ne_nil rfl

/-- **The check decides the grammar.**  A name passes exactly if it has 1 to 253 bytes and consists
of labels with dots between them, that is, if it is well formed.  Any other name is refused for the
first thing that is wrong with it, and a reconciler is bound to none of these, whatever its provider
is: binding fails with the text of that fault, without a call and without an entry in the log.  The
text of each of the six faults says what is wrong, and with which name or label. -/
theorem check_decides_grammar {m : Type → Type} [Monad m] (p : Provider m) (log : LogSink m)
    (name : String) :
    (fault? name = none ↔
        (1 ≤ name.utf8ByteSize ∧ name.utf8ByteSize ≤ 253) ∧
          ∃ ls : List (List Char), ls ≠ [] ∧ (∀ l ∈ ls, Label l) ∧
            name.toList = joinFields '.' ls) ∧
      (fault? name = none ↔ WellFormed name) ∧
      (∀ fault, fault? name = some fault ↔ FirstBreach name fault) ∧
      (∀ fault, FirstBreach name fault →
        Reconciler.bind p name log = pure (.error (.config fault.message))) ∧
      ∀ (length : Nat) (text : String),
        Fault.empty.message = "Zone name cannot be empty" ∧
          (Fault.tooLong length text).message =
            "Domain name too long: " ++ natText length ++ " chars (max 253). Got: " ++ text ∧
          (Fault.emptyLabel text).message = "Domain name has empty label: '" ++ text ++ "'" ∧
          (Fault.labelTooLong length text).message =
            "Domain label too long: " ++ natText length ++ " chars (max 63). Label: '" ++ text ++
              "'" ∧
          (Fault.invalidCharacter text).message =
            "Domain label contains invalid characters. Label: '" ++ text ++ "'" ∧
          (Fault.outerHyphen text).message =
            "Domain label cannot start or end with hyphen. Label: '" ++ text ++ "'" := by
  have hpos : name ≠ "" ↔ 1 ≤ name.utf8ByteSize := by
    rw [Nat.one_le_iff_ne_zero, Ne, Ne, String.utf8ByteSize_eq_zero_iff]
  refine ⟨?_, ?_, fun fault => fault?_eq_some_iff, ?_, fun _ _ => ⟨rfl, rfl, rfl, rfl, rfl, rfl⟩⟩
  · rw [fault?_eq_none_iff, forall_labels_iff, hpos, maxLength, and_assoc]
  · rw [fault?_eq_none_iff]
    constructor
    · rintro ⟨-, hlength, hlabels⟩
      rw [(utf8ByteSize_of_forall_labels hlabels).1] at hlength
      exact ⟨hlength, forall_labels_iff.1 hlabels⟩
    · intro h
      have hlabels := forall_labels_iff.2 h.parts
      obtain ⟨hbytes, hne⟩ := utf8ByteSize_of_forall_labels hlabels
      exact ⟨hne, hbytes ▸ h.length_le, hlabels⟩
  · intro fault hfault
    rw [Reconciler.bind, fault?_eq_some_iff.2 hfault]

/-- The leftmost label that is not in order counts, not the worst. -/
example : fault? "-a..b" = some (.outerHyphen "-a") := by decide

end ZoneKeeper.DomainName
