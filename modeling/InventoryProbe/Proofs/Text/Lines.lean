import Mathlib.Algebra.GroupWithZero.Nat
import InventoryProbe.Binary64.Shortest
import InventoryProbe.HardwareVersion

/-!
# Lines of texts

Who reads a text line by line ends a line at every line feed, wherever it came from.

* **`length_lines`**: every line feed of a text adds a line to it.
* **`lines_intercalate`**: texts without line feeds, joined by line feeds, are the lines again.
* **`feeds_hundredths`**, **`feeds_version`**: no number is written with a line feed.
-/

namespace InventoryProbe

namespace Text

/-! ## Lines and line feeds -/

/-- The lines of a text. -/
def lines (s : String) : List String := (s.toList.splitOn '\n').map String.ofList

/-- How often a text ends a line. -/
def feeds (s : String) : Nat := s.toList.count '\n'

/-- Line feeds add up. -/
@[simp] theorem feeds_append (a b : String) : feeds (a ++ b) = feeds a + feeds b := by
  unfold feeds
  rw [String.toList_append, List.count_append]

/-- A text has no line feed exactly if it has none among its characters. -/
theorem feeds_eq_zero_iff {s : String} : feeds s = 0 ↔ '\n' ∉ s.toList :=
  List.count_eq_zero

/-- Texts that are joined have their own line feeds, and those of the separators between them. -/
theorem feeds_intercalate (separator : String) (texts : List String) :
    feeds (separator.intercalate texts)
      = (texts.length - 1) * feeds separator + (texts.map feeds).sum := by
  induction texts with
  | nil => simp [feeds]
  | cons s rest ih =>
    cases rest with
    | nil => simp
    -- There is a separator in front of every text but the first.
    | cons t rest =>
      rw [String.intercalate_cons_cons, feeds_append, feeds_append, ih]
      simp only [List.length_cons, Nat.add_sub_cancel, List.map_cons, List.sum_cons, Nat.add_mul,
        Nat.one_mul]
      omega

/-- Each line feed begins another part. -/
theorem length_splitOn_feed (cs : List Char) : (cs.splitOn '\n').length = cs.count '\n' + 1 := by
  -- From its end, a text is put together of line feeds, which open a line, and of characters that only make
  -- the first line longer.
  rw [List.splitOn_eq_splitOnP]
  induction cs with
  | nil => rfl
  | cons c cs ih =>
    rw [List.splitOnP_cons_eq_if_modifyHead, List.count_cons]
    split
    · rw [List.length_cons, ih]
    · rw [List.length_modifyHead, ih, Nat.add_zero]

theorem length_lines (s : String) : (lines s).length = feeds s + 1 := by
  unfold lines feeds
  rw [List.length_map, length_splitOn_feed]

/-- Texts without line feeds are the lines of what they are joined to. -/
theorem lines_intercalate {texts : List String} (hne : texts ≠ [])
    (hfeeds : ∀ s ∈ texts, feeds s = 0) : lines ("\n".intercalate texts) = texts := by
  have hsplit : (['\n'].intercalate (texts.map String.toList)).splitOn '\n'
      = texts.map String.toList := by
    apply List.splitOn_intercalate
    · rw [List.forall_mem_map]
      exact fun s hs => feeds_eq_zero_iff.1 (hfeeds s hs)
    · simpa using hne
  have hfeed : "\n".toList = ['\n'] := by decide
  unfold lines
  rw [String.toList_intercalate, hfeed, hsplit, List.map_map]
  simp [Function.comp_def]

/-! ## Numbers

They are written with digits, signs and points, and with a few words. -/

theorem feed_not_mem_toDigits (n : Nat) : '\n' ∉ Nat.toDigits 10 n := by
  intro hmem
  have hdigit := Nat.isDigit_of_mem_toDigits (by decide) (by decide) hmem
  exact absurd hdigit (by decide)

@[simp] theorem feeds_repr (n : Nat) : feeds n.repr = 0 := by
  rw [feeds_eq_zero_iff, Nat.toList_repr]
  exact feed_not_mem_toDigits n

theorem feed_not_mem_zeros (n : Nat) : '\n' ∉ List.replicate n '0' := fun hmem =>
  absurd (List.eq_of_mem_replicate hmem) (by decide)

theorem feed_not_mem_padded (width n : Nat) : '\n' ∉ padded width n :=
  List.not_mem_append (feed_not_mem_zeros _) (feed_not_mem_toDigits n)

/-- There is no line feed in a decimal. -/
theorem feed_not_mem_positional (d : Decimal) : '\n' ∉ Binary64.positional d := by
  have hdigits : '\n' ∉ Binary64.digitText d.digits := feed_not_mem_toDigits d.digits
  unfold Binary64.positional
  cases d.exponent with
  | ofNat e => exact List.not_mem_append hdigits (feed_not_mem_zeros e)
  | negSucc e =>
    have hpadded : '\n' ∉ List.replicate (e + 2 - (Binary64.digitText d.digits).length) '0'
        ++ Binary64.digitText d.digits := List.not_mem_append (feed_not_mem_zeros _) hdigits
    apply List.not_mem_append
    · exact fun hwhole => hpadded (List.mem_of_mem_take hwhole)
    · apply List.not_mem_cons_of_ne_of_not_mem (by decide)
      exact fun hfraction => hpadded (List.mem_of_mem_drop hfraction)

theorem feeds_signed (negative : Bool) {cs : List Char} (h : '\n' ∉ cs) :
    feeds (Binary64.signed negative cs) = 0 := by
  rw [feeds_eq_zero_iff]
  unfold Binary64.signed
  rw [String.toList_ofList]
  split
  · exact List.not_mem_cons_of_ne_of_not_mem (by decide) h
  · exact h

/-- A double takes one line, in whatever form it is written. -/
@[simp] theorem feeds_hundredths (x : Binary64) : feeds x.hundredths = 0 := by
  cases x with
  | nan => decide
  | infinite negative => exact feeds_signed negative (by decide)
  | finite negative units fits => exact feeds_signed negative (feed_not_mem_positional _)

/-- A version takes one line. -/
@[simp] theorem feeds_version (v : HardwareVersion) : feeds v.text = 0 := by
  rw [feeds_eq_zero_iff]
  unfold HardwareVersion.text
  rw [String.toList_ofList]
  exact List.not_mem_append (by decide) (feed_not_mem_padded _ _)

end Text

end InventoryProbe
