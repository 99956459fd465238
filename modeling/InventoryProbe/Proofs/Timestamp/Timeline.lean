import InventoryProbe.Timestamp.Basic

/-!
# The line of time

Moments outside of inserted seconds lie on one line, counted in nanoseconds, on which every day is as long
as any other. Their order is that of the line, and what has passed from one to the other is the distance
between them. While an inserted second is under way neither need be so.
-/

namespace InventoryProbe.Timestamp

variable {a b c now : Timestamp}

/-- The nanoseconds from the beginning of the line of time. -/
def instant (t : Timestamp) : Int := (t.date.number * 86400 + t.second) * 1000000000 + t.nanosecond

/-- Only an inserted second has more nanoseconds than a second. -/
theorem nanosecond_lt_of_not_isInserted (h : ¬ a.isInserted) : a.nanosecond < 1000000000 := by
  unfold isInserted at h
  simpa using h

/-! ## Order -/

theorem not_lt_iff : ¬ a < b ↔ b ≤ a := Int.not_lt

theorem le_refl (a : Timestamp) : a ≤ a := Int.le_refl a.place

theorem le_of_lt (h : a < b) : a ≤ b := Int.le_of_lt h

theorem lt_of_lt_of_le (hab : a < b) (hbc : b ≤ c) : a < c := Int.lt_of_lt_of_le hab hbc

/-- Outside of inserted seconds moments are in order as their numbers are. -/
theorem le_iff_instant_le (ha : ¬ a.isInserted) (hb : ¬ b.isInserted) :
    a ≤ b ↔ a.instant ≤ b.instant := by
  have ha := nanosecond_lt_of_not_isInserted ha
  have hb := nanosecond_lt_of_not_isInserted hb
  -- Places leave room for twice the nanoseconds of a second. Those that are no longer than one do not
  -- come near it.
  show a.place ≤ b.place ↔ a.instant ≤ b.instant
  unfold place instant
  omega

/-! ## Distance -/

/-- Outside of inserted seconds the time between two moments is the distance of their numbers. -/
theorem nanosecondsSince_eq (hnow : ¬ now.isInserted) (ha : ¬ a.isInserted) :
    now.nanosecondsSince a = now.instant - a.instant := by
  -- The seconds are put right only for an inserted second, of which there is none.
  have hapart : secondsApart now a = (now.second : Int) - a.second := by
    simp [secondsApart, hnow, ha]
  unfold nanosecondsSince instant
  rw [hapart]
  omega

/-- The seconds that have passed are those of the distance, cut off at the point. -/
theorem secondsSince_eq (hnow : ¬ now.isInserted) (ha : ¬ a.isInserted) :
    (now.secondsSince a : Int) = max 0 ((now.instant - a.instant).tdiv 1000000000) := by
  unfold secondsSince
  rw [nanosecondsSince_eq hnow ha, Int.toNat_eq_max, Int.max_comm]
  rcases Int.le_total 0 (now.instant - a.instant) with hpast | hahead
  · rw [Int.tdiv_eq_ediv_of_nonneg hpast]
  · -- Nothing has passed, however the quotient is rounded.
    have hquotient : (now.instant - a.instant).tdiv 1000000000 ≤ 0 := by
      have hneg := Int.tdiv_nonneg (Int.neg_nonneg_of_nonpos hahead)
        (show (0 : Int) ≤ 1000000000 by decide)
      rw [Int.neg_tdiv] at hneg
      omega
    omega

/-- Since an earlier moment no fewer seconds have passed. -/
theorem secondsSince_le_of_le (hnow : ¬ now.isInserted) (ha : ¬ a.isInserted) (hb : ¬ b.isInserted)
    (h : a ≤ b) : now.secondsSince b ≤ now.secondsSince a := by
  have hinstant := (le_iff_instant_le ha hb).1 h
  unfold secondsSince
  rw [nanosecondsSince_eq hnow ha, nanosecondsSince_eq hnow hb]
  omega

/-- Since a moment that is yet to come no second has passed. -/
theorem secondsSince_eq_zero (hnow : ¬ now.isInserted) (ha : ¬ a.isInserted) (h : now < a) :
    now.secondsSince a = 0 := by
  have hinstant := (le_iff_instant_le hnow ha).1 (le_of_lt h)
  unfold secondsSince
  rw [nanosecondsSince_eq hnow ha]
  omega

end InventoryProbe.Timestamp
