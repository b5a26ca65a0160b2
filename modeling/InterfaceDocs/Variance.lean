import InterfaceDocs.Flag

/-!
# Computed variance

A compiled declaration records the computed variance of a type parameter as a set of flags
in one byte.  `Variance.mark` is the mark that an author would have written for it: a
parameter that may only occur positively is covariant, one that may only occur negatively is
contravariant, and all others are unmarked.
-/

namespace InterfaceDocs

/-- The flags of a computed variance. -/
inductive VarianceFlag where
  | mayPos
  | mayNeg
  | mayWeak
  | inj
  | pos
  | neg
  | inv
  deriving DecidableEq

/-- The bit of a flag. -/
def VarianceFlag.bit : VarianceFlag → UInt8
  | .mayPos => 1
  | .mayNeg => 2
  | .mayWeak => 4
  | .inj => 8
  | .pos => 16
  | .neg => 32
  | .inv => 64

/-- All flags, by increasing bit. -/
def VarianceFlag.all : List VarianceFlag :=
  [.mayPos, .mayNeg, .mayWeak, .inj, .pos, .neg, .inv]

/-- A computed variance. -/
structure Variance where
  bits : UInt8
  deriving DecidableEq

namespace Variance

/-- No flag is set. -/
def null : Variance := ⟨0⟩

/-- All flags are set, as for an invariant parameter. -/
def full : Variance := ⟨127⟩

/-- The variance of a covariant parameter. -/
def covariant : Variance :=
  ⟨VarianceFlag.mayPos.bit ||| VarianceFlag.pos.bit ||| VarianceFlag.inj.bit⟩

/-- The variance of a contravariant parameter. -/
def contravariant : Variance :=
  ⟨VarianceFlag.mayNeg.bit ||| VarianceFlag.neg.bit ||| VarianceFlag.inj.bit⟩

/-- The variance with a flag set or cleared. -/
def set (v : Variance) (flag : VarianceFlag) (value : Bool) : Variance :=
  if value then ⟨v.bits ||| flag.bit⟩ else ⟨v.bits &&& ~~~flag.bit⟩

/-- Whether a flag is set. -/
def mem (v : Variance) (flag : VarianceFlag) : Bool :=
  v.bits &&& flag.bit != 0

/-- The mark that an author would have written. -/
def mark (v : Variance) : VarianceMark :=
  match v.mem .mayPos, v.mem .mayNeg with
  | true, false => .covariant
  | false, true => .contravariant
  | _, _ => .unmarked

/-- The injectivity mark that an author would have written. -/
def injectivity (v : Variance) : Injectivity :=
  if v.mem .inj then .injective else .unmarked

/-- The variance as it is shown before a type parameter. -/
def text (v : Variance) : String :=
  match v.mark with
  | .covariant => "+"
  | .contravariant => "-"
  | .unmarked => ""

end Variance

end InterfaceDocs
