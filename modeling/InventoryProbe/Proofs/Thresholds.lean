import Mathlib.Order.Defs.Unbundled
import InventoryProbe.Proofs.Severity
import InventoryProbe.Thresholds

/-!
# Classification by thresholds

A metric is placed on the scale of severities by two boundaries, which need not be in order. That it
is placed higher the worse it is rests on nothing but that lying beyond a boundary is inherited by
everything that lies further out.
-/

namespace InventoryProbe

variable {α : Type} [LE α]

namespace WorseSide

/-- That a value lies on another one or further out, to the side on which things are bad. -/
def Beyond (side : WorseSide) (a b : α) : Prop :=
  match side with
  | .higher => b ≤ a
  | .lower => a ≤ b

/-- To reach a boundary is to be beyond it, or at it, on the worse side. -/
theorem reaches_iff [DecidableLE α] {side : WorseSide} {metric boundary : α} :
    side.reaches metric boundary ↔ side.Beyond metric boundary := by
  cases side <;> exact decide_eq_true_iff

/-- What is beyond something is beyond all that this is beyond. -/
theorem Beyond.trans [IsTrans α (· ≤ ·)] {side : WorseSide} {a b c : α} (hab : side.Beyond a b)
    (hbc : side.Beyond b c) : side.Beyond a c := by
  cases side with
  | higher => exact IsTrans.trans (r := (· ≤ ·)) c b a hbc hab
  | lower => exact IsTrans.trans (r := (· ≤ ·)) a b c hab hbc

end WorseSide

namespace Thresholds

variable [DecidableLE α]

/-- A metric says nothing about a run that could not be carried out. -/
theorem classify_ne_unknown (t : Thresholds α) (side : WorseSide) (metric : α) :
    t.classify side metric ≠ .unknown := by
  unfold classify
  split
  · exact nofun
  · split
    · exact nofun
    · exact nofun

/-- A metric that reaches its boundaries only where another reaches its own is no more severe. The two may be
measured by different boundaries. -/
theorem classify_le_of_reaches {t s : Thresholds α} {side : WorseSide} {mild bad : α}
    (hcritical : side.reaches mild t.critical → side.reaches bad s.critical)
    (hwarning : side.reaches mild t.warning → side.reaches bad s.warning) :
    t.classify side mild ≤ s.classify side bad := by
  unfold classify
  -- The critical boundary is looked at first on both sides, and then the warning one.
  by_cases hc : side.reaches mild t.critical
  · rw [if_pos hc, if_pos (hcritical hc)]
    exact Severity.le_refl _
  · rw [if_neg hc]
    by_cases hw : side.reaches mild t.warning
    · rw [if_pos hw, if_pos (hwarning hw)]
      split
      · show Severity.rank .warning ≤ Severity.rank .critical
        decide
      · exact Severity.le_refl _
    · rw [if_neg hw]
      exact Severity.ok_le _

/-- Where higher is worse, a boundary is reached from below. -/
theorem reaches_higher_iff {metric boundary : α} :
    WorseSide.higher.reaches metric boundary ↔ boundary ≤ metric := WorseSide.reaches_iff

/-- What a metric reaches is reached by every metric that lies further out. -/
theorem classify_mono [IsTrans α (· ≤ ·)] (t : Thresholds α) (side : WorseSide) {mild bad : α}
    (h : side.Beyond bad mild) : t.classify side mild ≤ t.classify side bad := by
  have hreaches (boundary : α) (hreached : side.reaches mild boundary) :
      side.reaches bad boundary :=
    WorseSide.reaches_iff.2 (h.trans (WorseSide.reaches_iff.1 hreached))
  exact classify_le_of_reaches (hreaches _) (hreaches _)

/-- A metric that reaches what another reaches of other boundaries, be it on the other side, is as severe. -/
theorem classify_congr {β : Type} [LE β] [DecidableLE β] {t : Thresholds α} {s : Thresholds β}
    {side otherSide : WorseSide} {metric : α} {other : β}
    (hcritical : side.reaches metric t.critical = otherSide.reaches other s.critical)
    (hwarning : side.reaches metric t.warning = otherSide.reaches other s.warning) :
    t.classify side metric = s.classify otherSide other := by
  unfold classify
  rw [hcritical, hwarning]

/-- A metric that reaches nothing is well. -/
theorem classify_eq_ok {t : Thresholds α} {side : WorseSide} {metric : α}
    (h : ∀ boundary, ¬ side.Beyond metric boundary) : t.classify side metric = .ok := by
  unfold classify
  rw [if_neg (mt WorseSide.reaches_iff.1 (h _)), if_neg (mt WorseSide.reaches_iff.1 (h _))]

/-! ## Raised boundaries -/

/-- That both boundaries of a pair lie at least as high in another. Neither pair need be in order. -/
structure RaisedTo (t raised : Thresholds α) : Prop where
  warning : t.warning ≤ raised.warning
  critical : t.critical ≤ raised.critical

/-- A metric that has reached a raised boundary had reached the old one, and so was no less severe. -/
theorem RaisedTo.classify_le [IsTrans α (· ≤ ·)] {t raised : Thresholds α} (h : t.RaisedTo raised)
    (metric : α) : raised.classify .higher metric ≤ t.classify .higher metric := by
  apply classify_le_of_reaches
  · intro hreached
    exact reaches_higher_iff.2 (IsTrans.trans _ _ _ h.critical (reaches_higher_iff.1 hreached))
  · intro hreached
    exact reaches_higher_iff.2 (IsTrans.trans _ _ _ h.warning (reaches_higher_iff.1 hreached))

end Thresholds

end InventoryProbe
