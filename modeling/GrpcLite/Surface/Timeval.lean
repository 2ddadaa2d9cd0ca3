import GrpcLite.Core.Checked

/-!
# Timeval

The value object of the user for instants and durations: a signed number of
microseconds of 64 bits with saturating arithmetic. Every signed operation of the
source is a checked one, so an overflow would be visible as a missing result.
-/

namespace GrpcLite

open Checked

/-- `zend_long`. -/
abbrev ZendLong := Word 64

/-- `ZEND_LONG_MAX`. -/
def zendLongMax : ZendLong := ⟨maxValue 64, by decide⟩

/-- `ZEND_LONG_MIN`. -/
def zendLongMin : ZendLong := ⟨minValue 64, by decide⟩

/-- `grpc_lite_saturating_add`. -/
def saturatingAdd (left right : ZendLong) : Option ZendLong :=
  if right.val > 0 then do
    let bound ← sub zendLongMax right
    if left.val > bound.val then some zendLongMax else add left right
  else if right.val < 0 then do
    let bound ← sub zendLongMin right
    if left.val < bound.val then some zendLongMin else add left right
  else add left right

/-- `grpc_lite_saturating_subtract`. -/
def saturatingSubtract (left right : ZendLong) : Option ZendLong :=
  if right.val = zendLongMin.val then
    if left.val ≥ 0 then some zendLongMax else saturatingAdd left zendLongMax
  else do
    let opposite ← neg right
    saturatingAdd left opposite

/-- `grpc_lite_timeval_obj`. -/
structure Timeval where
  /-- Microseconds of the monotonic clock, or of a duration. -/
  microseconds : ZendLong
  deriving DecidableEq

namespace Timeval

/-- `Timeval::infFuture`. -/
def infFuture : Timeval := ⟨zendLongMax⟩

/-- `Timeval::infPast`. -/
def infPast : Timeval := ⟨zendLongMin⟩

/-- `Timeval::zero`. -/
def zero : Timeval := ⟨⟨0, by decide⟩⟩

/-- `Timeval::add`. -/
def add (this other : Timeval) : Option Timeval :=
  (saturatingAdd this.microseconds other.microseconds).map Timeval.mk

/-- `Timeval::subtract`. -/
def subtract (this other : Timeval) : Option Timeval :=
  (saturatingSubtract this.microseconds other.microseconds).map Timeval.mk

end Timeval

end GrpcLite
