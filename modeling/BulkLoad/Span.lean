/-!
Spans of time, in nanoseconds.
-/
namespace BulkLoad.Span

def nanosPerMilli : Nat := 1000000

def nanosPerSecond : Nat := 1000000000

def ofMillis (ms : Nat) : Nat := ms * nanosPerMilli

/-- A span that is missing when it is zero. -/
def ofMillis? (ms : Nat) : Option Nat := if ms = 0 then none else some (ofMillis ms)

/-- Whole milliseconds. -/
def millis (span : Nat) : Nat := span / nanosPerMilli

/-- Seconds: the whole ones and the rest are rounded one after the other. -/
def seconds (span : Nat) : Float :=
  Float.ofNat (span / nanosPerSecond)
    + Float.ofNat (span % nanosPerSecond) / Float.ofNat nanosPerSecond

end BulkLoad.Span
