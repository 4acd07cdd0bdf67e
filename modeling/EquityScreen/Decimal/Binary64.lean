/-! Double-precision values as a sign and a magnitude. The magnitude is the biased exponent and the
fraction read as one number, so the magnitudes of numbers are ordered as the numbers are, and
neighbouring values have neighbouring magnitudes. Every finite value is a whole multiple of the
least positive one, which `units` counts, so arithmetic on values is arithmetic on naturals. -/

-- Powers of whole numbers are the core ones, whatever other powers are imported later.
attribute [instance (high), default_instance (high + 1)] instPowNat

namespace EquityScreen

/-- A double-precision value: a finite number of either sign, an infinity, or a NaN. -/
structure Binary64 where
  negative : Bool
  magnitude : Fin (2 ^ 63)
deriving DecidableEq, Repr

namespace Binary64

/-- The magnitude of the infinities. Greater magnitudes are those of the NaNs. -/
def infiniteMagnitude : Nat := 0x7FF * 2 ^ 52

/-- The value with a given sign and a magnitude, magnitudes beyond the infinities being cut to
theirs. -/
def ofMagnitude (negative : Bool) (magnitude : Nat) : Binary64 where
  negative
  magnitude := ⟨min infiniteMagnitude magnitude, by simp only [infiniteMagnitude]; omega⟩

def zero : Binary64 := ofMagnitude false 0

def infinity (negative : Bool) : Binary64 := ofMagnitude negative infiniteMagnitude

def nan (negative : Bool) : Binary64 where
  negative
  magnitude := ⟨infiniteMagnitude + 2 ^ 51, by simp only [infiniteMagnitude]; omega⟩

instance : Inhabited Binary64 := ⟨zero⟩

def isNaN (x : Binary64) : Bool := infiniteMagnitude < x.magnitude.val

def isInfinite (x : Binary64) : Bool := x.magnitude.val == infiniteMagnitude

def isFinite (x : Binary64) : Bool := x.magnitude.val < infiniteMagnitude

/-- How often the spacing has doubled between the least positive value and this magnitude. -/
def scale (magnitude : Nat) : Nat := magnitude / 2 ^ 52 - 1

/-- The significand as a whole number, below `2 ^ 53`. -/
def significand (magnitude : Nat) : Nat := magnitude - scale magnitude * 2 ^ 52

/-- The exact size of a finite magnitude, counted in the least positive value, `2 ^ -1074`. -/
def units (magnitude : Nat) : Nat := significand magnitude * 2 ^ scale magnitude

/-- Position in numeric order, where the two zeros share one place. -/
def numericKey (x : Binary64) : Int :=
  if x.negative then -(x.magnitude.val : Int) else x.magnitude.val

/-- Position in the total order, where negative zero comes just before positive zero. -/
def totalKey (x : Binary64) : Int :=
  if x.negative then -(x.magnitude.val : Int) - 1 else x.magnitude.val

/-- Numeric order. Nothing is less than a NaN, and a NaN is less than nothing. -/
def less (x y : Binary64) : Bool :=
  !x.isNaN && !y.isNaN && decide (x.numericKey < y.numericKey)

/-- Numeric equality: the zeros are equal, and a NaN is equal to nothing. -/
def same (x y : Binary64) : Bool :=
  !x.isNaN && !y.isNaN && decide (x.numericKey = y.numericKey)

/-- The total order of all values, told by their signs and magnitudes alone. -/
def compareTotal (x y : Binary64) : Ordering := compare x.totalKey y.totalKey

end Binary64

end EquityScreen
