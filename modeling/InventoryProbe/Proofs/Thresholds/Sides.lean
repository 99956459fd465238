import InventoryProbe.Proofs.Binary64
import InventoryProbe.Proofs.Thresholds

/-!
# The two sides of a scale

A metric is the more severe the further out it lies, on whichever side things are bad, for boundaries of any
kind: in order or not, infinite, or no numbers at all. The two sides are alike, since the other sign turns one
into the other.

* **`classify_mirrored`**: low metrics are classified as high ones are on the scale that is turned around.
* **`classify_sides`**: order, symmetry, and what becomes of a metric that is no number.
-/

namespace InventoryProbe.Thresholds

/-- The boundaries on the scale that is turned around. -/
def mirrored (t : Thresholds Binary64) : Thresholds Binary64 := ⟨-t.warning, -t.critical⟩

/-- A metric below falling boundaries is as bad as its mirror image above the mirrored ones. -/
theorem classify_mirrored (t : Thresholds Binary64) (metric : Binary64) :
    t.mirrored.classify .higher (-metric) = t.classify .lower metric := by
  -- No order of the boundaries is needed, for each is looked at by itself.
  have hreaches (boundary : Binary64) :
      WorseSide.higher.reaches (-metric) (-boundary) = WorseSide.lower.reaches metric boundary :=
    decide_eq_decide.2 Binary64.neg_le_neg_iff
  exact classify_congr (hreaches t.critical) (hreaches t.warning)

/-- What is no number reaches no boundary. -/
theorem classify_nan (t : Thresholds Binary64) (side : WorseSide) : t.classify side .nan = .ok := by
  apply classify_eq_ok
  intro boundary
  cases side with
  | higher => exact Binary64.not_le_nan boundary
  | lower => exact Binary64.not_nan_le boundary

/-- **A metric is the more severe the further out it lies, and the sides are alike.** For boundaries of any
kind, the greater of two metrics is no less severe where higher is worse, and no more severe where lower is;
no metric says that a run could not be carried out; a metric that is no number is well; and a metric of which
lower is worse is as severe as its negative among the negatives of the boundaries, of which higher is worse. -/
theorem classify_sides (t : Thresholds Binary64) :
    (∀ a b : Binary64, a ≤ b →
      t.classify .higher a ≤ t.classify .higher b ∧ t.classify .lower b ≤ t.classify .lower a) ∧
    (∀ side metric, t.classify side metric ≠ .unknown) ∧
    (∀ side, t.classify side .nan = .ok) ∧
    ∀ metric : Binary64, t.classify .lower metric
      = (⟨-t.warning, -t.critical⟩ : Thresholds Binary64).classify .higher (-metric) := by
  refine ⟨fun a b h => ⟨?_, ?_⟩, t.classify_ne_unknown, t.classify_nan, fun metric => ?_⟩
  · exact t.classify_mono .higher h
  · exact t.classify_mono .lower h
  · exact (t.classify_mirrored metric).symm

/-! ## A critical boundary on the mild side

The critical boundary is 4 and the warning boundary is 25, so that where higher is worse no metric is merely a
warning: what reaches 25 has reached 4 before. -/

/-- With boundaries in the wrong order more is still worse: a metric that reaches the critical boundary
only is critical. -/
theorem classify_sides_inverted :
    (3 : Binary64) ≤ 5 ∧
    (⟨25, 4⟩ : Thresholds Binary64).classify .higher 3 = .ok ∧
    (⟨25, 4⟩ : Thresholds Binary64).classify .higher 5 = .critical ∧
    (⟨25, 4⟩ : Thresholds Binary64).classify .lower 5
      ≤ (⟨25, 4⟩ : Thresholds Binary64).classify .lower 3 := by
  have hle : (3 : Binary64) ≤ 5 := by decide +kernel
  refine ⟨hle, by decide +kernel, by decide +kernel, ?_⟩
  exact ((classify_sides ⟨25, 4⟩).1 3 5 hle).2

end InventoryProbe.Thresholds
