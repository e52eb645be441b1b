import FeatureLadder.Version.Basic

/-!
# The structural order of versions

Versions are compared by their major component, then by their minor component, then
by their suffix and last by their whole name.  The components are runs of digits of
any length: without leading zeros the longer run is the larger number, and of two
runs of one length the digits decide.  Suffix and name are compared by code points.

**Results**: the order is transitive, and two versions compare as equal exactly if
they are the same version (`Std.TransOrd`, `Std.LawfulEqOrd`).
-/

namespace FeatureLadder
namespace Version

/-- The keys of the structural order, one after the other. -/
def compare : Version → Version → Ordering :=
  compareLex (compareOn fun v => v.major.length) <|
  compareLex (compareOn major) <|
  compareLex (compareOn fun v => v.minor.length) <|
  compareLex (compareOn minor) <|
  compareLex (compareOn suffix) <|
  compareOn chars

instance : Ord Version := ⟨compare⟩

instance : LE Version := leOfOrd

instance : LT Version := ltOfOrd

instance : Min Version := ⟨fun v w => if v ≤ w then v else w⟩

instance : Max Version := ⟨fun v w => if v ≤ w then w else v⟩

instance : Std.TransOrd Version :=
  inferInstanceAs (Std.TransCmp (compareLex _ (compareLex _ (compareLex _ (compareLex _
    (compareLex _ (compareOn chars)))))))

instance : Std.LawfulEqOrd Version where
  eq_of_compare {v w} h := by
    change compare v w = .eq at h
    simp only [compare, compareLex, compareOn, Ordering.then_eq_eq] at h
    exact chars_injective (Std.LawfulEqOrd.eq_of_compare h.2.2.2.2.2)

def sort (versions : List Version) : List Version :=
  versions.mergeSort fun v w => v ≤ w

end Version
end FeatureLadder
