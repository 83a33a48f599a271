import Logbook.Proofs.Text.Blank
import Logbook.Proofs.Text.Digits
import Logbook.Time.Layout

/-! Reading a time that is written in the layout: digits behind digits, each number as long as it may
be or with something else behind it, and single spaces. -/

namespace Logbook

namespace Text

theorem words_intercalate {tokens : List (List Char)} (h : ∀ w ∈ tokens, IsToken w) :
    words ([' '].intercalate tokens) = tokens := by
  induction tokens with
  | nil => rfl
  | cons w tokens ih =>
    have hw : IsToken w := h w (by simp)
    cases tokens with
    | nil => simpa using words_of_not_blank hw.ne_nil hw.notBlank
    | cons v tokens =>
      have hrest := ih fun u hu => h u (List.mem_cons_of_mem w hu)
      rw [List.intercalate_cons_cons, List.append_assoc, words_token_append hw isGap_space, hrest]

theorem collapse_intercalate {tokens : List (List Char)} (h : ∀ w ∈ tokens, IsToken w) :
    collapse ([' '].intercalate tokens) = [' '].intercalate tokens := by
  rw [collapse, words_intercalate h]

theorem trimStart_of_head {c : Char} (s : List Char) (h : isBlank c = false) :
    trimStart (c :: s) = c :: s := by
  simp [trimStart, h]

end Text

namespace Time

variable {w rest : List Char} {width : Nat} {stamp : Stamp}

/-- Digits that are read up to their end as a number of some width: no more than that, and all of them
or nothing that goes on with a digit. -/
structure IsNumber (width : Nat) (w rest : List Char) : Prop where
  ne_nil : w ≠ []
  digits : ∀ c ∈ w, c.isDigit = true
  length_le : w.length ≤ width
  stops : w.length = width ∨ ∀ c ∈ rest.head?, c.isDigit = false

theorem IsNumber.number? (h : IsNumber width w rest) :
    number? width (w ++ rest) = some (Text.digitsValue w, rest) := by
  have hdigits : ((w ++ rest).take width).takeWhile Char.isDigit = w := by
    rw [List.take_append, List.take_of_length_le h.length_le, List.takeWhile_append_of_pos h.digits]
    rcases h.stops with hlength | hhead
    · simp [hlength]
    · cases rest with
      | nil => simp
      | cons c rest => cases width - w.length <;> simp [hhead c rfl]
  simp [Time.number?, hdigits, h.ne_nil]

/-- White space in front of a number is skipped, and there is none. -/
theorem IsNumber.trimStart (h : IsNumber width w rest) : Text.trimStart (w ++ rest) = w ++ rest := by
  obtain ⟨c, w, rfl⟩ := List.exists_cons_of_ne_nil h.ne_nil
  exact Text.trimStart_of_head _ (Text.isBlank_of_isDigit (h.digits c (by simp)))

/-- The items that are numbers: how wide they are at most, and the field they set. -/
def Item.field? : Item → Option (Nat × (Nat → Stamp → Stamp))
  | year => some (4, fun n stamp => { stamp with year := n })
  | month => some (2, fun n stamp => { stamp with month := n })
  | day => some (2, fun n stamp => { stamp with day := n })
  | hour => some (2, fun n stamp => { stamp with hour := n })
  | minute => some (2, fun n stamp => { stamp with minute := n })
  | second => some (2, fun n stamp => { stamp with second := n })
  | literal _ | blanks | monthName | millis | offset => none

theorem read?_field {item : Item} {set : Nat → Stamp → Stamp} (hitem : item.field? = some (width, set))
    (h : IsNumber width w rest) (stamp : Stamp) :
    item.read? stamp (w ++ rest) = some (set (Text.digitsValue w) stamp, rest) := by
  have htrim := h.trimStart
  have hnumber := h.number?
  cases item <;> cases hitem <;> simp [Item.read?, htrim, hnumber]

theorem readStamp?_field {item : Item} {items : List Item} {set : Nat → Stamp → Stamp}
    (hitem : item.field? = some (width, set)) (h : IsNumber width w rest) :
    readStamp? (item :: items) stamp (w ++ rest) =
      readStamp? items (set (Text.digitsValue w) stamp) rest := by
  simp [readStamp?, read?_field hitem h]

theorem readStamp?_literal (items : List Item) (c : Char) :
    readStamp? (.literal c :: items) stamp (c :: rest) = readStamp? items stamp rest := by
  simp [readStamp?, Item.read?]

theorem readStamp?_space {items : List Item} (h : ∀ c ∈ rest.head?, Text.isBlank c = false) :
    readStamp? (.blanks :: items) stamp (' ' :: rest) = readStamp? items stamp rest := by
  have htrim : Text.trimStart (' ' :: rest) = rest := by
    cases rest with
    | nil => rfl
    | cons c rest => simp [Text.trimStart, h c rfl]
  simp [readStamp?, Item.read?, htrim]

end Time

end Logbook
