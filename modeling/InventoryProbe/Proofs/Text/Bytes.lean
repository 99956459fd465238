/-!
# Texts cut by bytes

A text is kept as the bytes of UTF-8. It may be cut behind some number of them only where one character
ends and the next begins.

* **`prefixBytes?_append`**, **`suffixBytes?_append`**: a text can be cut between any two parts of it.
* **`exists_of_prefixBytes?`**: what is cut off is such a part.
-/

namespace InventoryProbe.Text

variable {n : Nat} {s front back : String}

/-- The first so many bytes of a text, unless a character goes on behind them. -/
def prefixBytes? (n : Nat) (s : String) : Option String :=
  if h : (⟨n⟩ : String.Pos.Raw).IsValid s then some (s.sliceTo (s.pos ⟨n⟩ h)).copy else none

/-- What follows the first so many bytes of a text, unless a character goes on behind them. -/
def suffixBytes? (n : Nat) (s : String) : Option String :=
  if h : (⟨n⟩ : String.Pos.Raw).IsValid s then some (s.sliceFrom (s.pos ⟨n⟩ h)).copy else none

/-- A text can be cut behind its front. -/
theorem prefixBytes?_append (front back : String) :
    prefixBytes? front.utf8ByteSize (front ++ back) = some front := by
  have hvalid : (⟨front.utf8ByteSize⟩ : String.Pos.Raw).IsValid (front ++ back) :=
    String.Pos.Raw.isValid_iff_exists_append.2 ⟨front, back, rfl, rfl⟩
  -- A position parts a text in one way only.
  have hsplits : ((front ++ back).pos _ hvalid).Splits front back := ⟨rfl, rfl⟩
  rw [prefixBytes?, dif_pos hvalid, ((front ++ back).pos _ hvalid).splits.eq_left hsplits]

/-- What is behind the cut is the rest. -/
theorem suffixBytes?_append (front back : String) :
    suffixBytes? front.utf8ByteSize (front ++ back) = some back := by
  have hvalid : (⟨front.utf8ByteSize⟩ : String.Pos.Raw).IsValid (front ++ back) :=
    String.Pos.Raw.isValid_iff_exists_append.2 ⟨front, back, rfl, rfl⟩
  have hsplits : ((front ++ back).pos _ hvalid).Splits front back := ⟨rfl, rfl⟩
  rw [suffixBytes?, dif_pos hvalid, ((front ++ back).pos _ hvalid).splits.eq_right hsplits]

/-- A cut is made only where a character ends. -/
theorem exists_of_prefixBytes? (h : prefixBytes? n s = some front) :
    ∃ back, s = front ++ back ∧ front.utf8ByteSize = n := by
  unfold prefixBytes? at h
  split at h
  · next hvalid =>
    obtain rfl := Option.some.inj h
    have hsplits := (s.pos ⟨n⟩ hvalid).splits
    refine ⟨_, hsplits.eq_append, ?_⟩
    -- The cut is where the part in front ends, counted in bytes.
    exact (congrArg String.Pos.Raw.byteIdx hsplits.offset_eq_rawEndPos).symm
  · cases h

end InventoryProbe.Text
