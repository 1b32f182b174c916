import Mathlib

/-!
# The retry schedule

`Backoff`, and the delays that `connect_with_backoff` makes of it. Each retry
multiplies the delay by `multiplier` with `Duration::mul_f64`, which panics when
the product is negative, not a number or beyond the range of a duration, and
takes the reconnecting task with it. `f64` is `Float`.
-/

namespace ZakuraGrpc

/-! ## Durations -/

/-- `std::time::Duration`. -/
structure Duration where
  secs : UInt64
  nanos : Fin 1000000000
  deriving DecidableEq, Repr

namespace Duration

def fromMillis (millis : Nat) : Duration where
  secs := (millis / 1000).toUInt64
  nanos := ⟨millis % 1000 * 1000000, by omega⟩

def fromNanos (nanos : Nat) : Duration where
  secs := (nanos / 1000000000).toUInt64
  nanos := ⟨nanos % 1000000000, Nat.mod_lt _ (by decide)⟩

def asSecsF64 (duration : Duration) : Float :=
  duration.secs.toFloat + duration.nanos.val.toUInt64.toFloat / (1000000000 : Nat).toUInt64.toFloat

/-- The quotient rounded to nearest, ties to even. -/
def divRound (numerator denominator : Nat) : Nat :=
  let quotient := numerator / denominator
  let rest := numerator % denominator
  if 2 * rest < denominator ∨ (2 * rest = denominator ∧ quotient % 2 = 0) then quotient
  else quotient + 1

/-- A number of seconds read off its bits, rounded to nanoseconds. The exponent of
infinity and NaN lies beyond the range too. -/
def tryFromSecsF64 (secs : Float) : Option Duration :=
  if secs < 0 then none
  else
    let bits := secs.toBits.toNat
    let mantissa := bits % 2 ^ 52 + 2 ^ 52
    let exponent := bits / 2 ^ 52 % 2 ^ 11
    if exponent < 1023 + 64 then
      some (fromNanos (divRound (mantissa * 1000000000 * 2 ^ (exponent - (1023 + 52)))
        (2 ^ (1023 + 52 - exponent))))
    else none

/-- `none` is the panic. -/
def mulF64 (duration : Duration) (rhs : Float) : Option Duration :=
  tryFromSecsF64 (rhs * duration.asSecsF64)

end Duration

/-! ## The schedule -/

structure Backoff where
  initialInterval : Duration := .fromMillis 100
  multiplier : Float := 2.0
  maxRetries : Nat := 8
  deriving DecidableEq, Repr

namespace Backoff

/-- The local `delay` of `connect_with_backoff` when it makes its attempt of this
number, the first being zero. -/
def delay (backoff : Backoff) : Nat → Option Duration
  | 0 => some backoff.initialInterval
  | attempt + 1 => (backoff.delay attempt).bind fun delay => delay.mulF64 backoff.multiplier

/-- The schedule has a delay for every retry. -/
def Sustains (backoff : Backoff) : Prop :=
  ∀ attempt ≤ backoff.maxRetries, backoff.delay attempt ≠ none

instance (backoff : Backoff) : Decidable backoff.Sustains :=
  inferInstanceAs (Decidable (∀ attempt ≤ backoff.maxRetries, backoff.delay attempt ≠ none))

theorem sustains_default : Sustains {} := by
  decide +kernel

/-- A negative multiplier panics before the first retry. -/
example : ¬ Sustains { multiplier := -2.0 } := by decide +kernel

end Backoff

end ZakuraGrpc
