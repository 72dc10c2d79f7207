import Mathlib.Data.UInt
import Mathlib.Tactic.Common

/-!
Resource vectors and their arithmetic, as `scheduler-go/state` computes it. The
four integer dimensions are 64-bit machine words. Accelerator units are doubles; their arithmetic, like
SHA-256 and the rendering of times, is what the Go runtime supplies (`Platform`),
and nothing is assumed of it: every result holds for every such arithmetic.
-/
namespace TgsRl.Resources

/-- What the Go runtime supplies to the store: arithmetic on the values of
    `accelerator_units` up to `proto.Equal`, the hexadecimal text of the first
    twelve bytes of the SHA-256 of length-prefixed parts, and RFC 3339 times. -/
class Platform (F : Type) where
  zero : F
  add : F → F → F
  sub : F → F → F
  min : F → F → F
  max : F → F → F
  /-- Neither a NaN nor an infinity. -/
  finite : F → Bool
  negative : F → Bool
  /-- The first value is at most the second plus `1e-12`. -/
  within : F → F → Bool
  digest : List String → String
  formatTime : Int → String

/-- Accelerator units that are whole numbers: doubles below `2^53` add and
    compare exactly, and the tolerance of `1e-12` never matters. -/
instance : Platform Int where
  zero := 0
  add := (· + ·)
  sub := (· - ·)
  min := Min.min
  max := Max.max
  finite _ := true
  negative a := decide (a < 0)
  within a b := decide (a ≤ b)
  digest parts := String.intercalate "/" parts
  formatTime t := toString t

/-- `stableID` of `helpers.go`. -/
def stableID (F : Type) [Platform F] (kind : String) (parts : List String) : String :=
  kind ++ "-" ++ Platform.digest F parts

structure ResourceVector (F : Type) where
  cpuMillis : UInt64
  memoryBytes : UInt64
  acceleratorUnits : F
  ephemeralStorageBytes : UInt64
  networkBandwidthBps : UInt64
  deriving DecidableEq, Repr, Inhabited

variable {F : Type} [Platform F]

/-- The empty vector, which the nil-safe getters of a missing vector read. -/
def ResourceVector.empty : ResourceVector F := ⟨0,0,Platform.zero,0,0⟩

/-- What the getters of a possibly missing vector read. -/
def orEmpty (v : Option (ResourceVector F)) : ResourceVector F := v.getD .empty

def resourcesFit (requested available : ResourceVector F) : Bool :=
  Platform.finite requested.acceleratorUnits &&
    decide (requested.cpuMillis ≤ available.cpuMillis) &&
    decide (requested.memoryBytes ≤ available.memoryBytes) &&
    Platform.within requested.acceleratorUnits available.acceleratorUnits &&
    decide (requested.ephemeralStorageBytes ≤ available.ephemeralStorageBytes) &&
    decide (requested.networkBandwidthBps ≤ available.networkBandwidthBps)

def subtractResources (available requested : ResourceVector F) : ResourceVector F where
  cpuMillis := available.cpuMillis - requested.cpuMillis
  memoryBytes := available.memoryBytes - requested.memoryBytes
  acceleratorUnits := Platform.sub available.acceleratorUnits requested.acceleratorUnits
  ephemeralStorageBytes := available.ephemeralStorageBytes - requested.ephemeralStorageBytes
  networkBandwidthBps := available.networkBandwidthBps - requested.networkBandwidthBps

/-- The sum, or the limit when the sum would pass it. -/
def cappedAdd (left right limit : UInt64) : UInt64 :=
  if left ≥ limit ∨ right > limit - left then limit else left + right

def addResourcesCapped (available returned capacity : ResourceVector F) : ResourceVector F where
  cpuMillis := cappedAdd available.cpuMillis returned.cpuMillis capacity.cpuMillis
  memoryBytes := cappedAdd available.memoryBytes returned.memoryBytes capacity.memoryBytes
  acceleratorUnits := Platform.min capacity.acceleratorUnits
    (Platform.add available.acceleratorUnits returned.acceleratorUnits)
  ephemeralStorageBytes :=
    cappedAdd available.ephemeralStorageBytes returned.ephemeralStorageBytes capacity.ephemeralStorageBytes
  networkBandwidthBps :=
    cappedAdd available.networkBandwidthBps returned.networkBandwidthBps capacity.networkBandwidthBps

/-- Addition without a cap: the machine words wrap around. -/
def addResources (available returned : ResourceVector F) : ResourceVector F where
  cpuMillis := available.cpuMillis + returned.cpuMillis
  memoryBytes := available.memoryBytes + returned.memoryBytes
  acceleratorUnits := Platform.add available.acceleratorUnits returned.acceleratorUnits
  ephemeralStorageBytes := available.ephemeralStorageBytes + returned.ephemeralStorageBytes
  networkBandwidthBps := available.networkBandwidthBps + returned.networkBandwidthBps

def positiveUint64Delta (left right : UInt64) : UInt64 := if left ≤ right then 0 else left - right

/-- The excess of `left` over `right` in each dimension. -/
def positiveResourceDelta (left right : ResourceVector F) : ResourceVector F where
  cpuMillis := positiveUint64Delta left.cpuMillis right.cpuMillis
  memoryBytes := positiveUint64Delta left.memoryBytes right.memoryBytes
  acceleratorUnits := Platform.max Platform.zero (Platform.sub left.acceleratorUnits right.acceleratorUnits)
  ephemeralStorageBytes := positiveUint64Delta left.ephemeralStorageBytes right.ephemeralStorageBytes
  networkBandwidthBps := positiveUint64Delta left.networkBandwidthBps right.networkBandwidthBps

end TgsRl.Resources
