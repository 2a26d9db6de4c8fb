import TrafficShaping.Error
import TrafficShaping.Number.Binary64
import TrafficShaping.Text.Blank

/-!
The clock of the packet scheduler.

The kernel counts time in ticks and publishes four words that relate them to microseconds. A `Clock`
holds the ratios that follow from the words, and converts times and, at a rate in bytes per second,
sizes. All results are words: fractions are cut off, and a result that is out of range becomes the
nearest word.
-/

namespace TrafficShaping

open Number

/-- The ratios between ticks, microseconds and the timer. -/
structure Clock where
  /-- Ticks in a microsecond. -/
  ticksPerMicrosecond : Binary64
  /-- The resolution of the kernel's clock over that of microseconds. -/
  resolutionRatio : Binary64
  timerFrequency : Binary64
  deriving DecidableEq, Repr

namespace Clock

/-- Microseconds in a second. -/
def microsecondsPerSecond : Binary64 := .ofNat 1000000

/-- The clock of four published words. A resolution of nanoseconds makes the first word stale, which
is then replaced by the second; only a resolution of microseconds makes the last word the frequency
of the timer. -/
def ofWords (ticksWord microsecondsWord resolution frequency : UInt32) : Clock :=
  let ticksWord := if resolution = 1000000000 then microsecondsWord else ticksWord
  let ratio := .ofNat resolution.toNat / microsecondsPerSecond
  { ticksPerMicrosecond :=
      if microsecondsWord = 0 then .ofNat 1
      else .ofNat ticksWord.toNat / .ofNat microsecondsWord.toNat * ratio
    resolutionRatio := ratio
    timerFrequency := if resolution = 1000000 then .ofNat frequency.toNat else .ofNat 100 }

/-- The clock of a kernel with timers of high resolution. -/
def highResolution : Clock := ofWords 0x3E8 0x40 0x000F4240 0x3B9ACA00

/-- The clock published as four hexadecimal words, behind which more may follow. -/
def parse (text : String) : Except Error Clock := do
  let words ← (((Text.words text).take 4).mapM fun word =>
    Text.Hexadecimal.read UInt32.size word.toList).mapError fun fault => .config (.clockWord fault)
  match words with
  | [ticksWord, microsecondsWord, resolution, frequency] =>
    .ok (ofWords (UInt32.ofNat ticksWord) (UInt32.ofNat microsecondsWord) (UInt32.ofNat resolution)
      (UInt32.ofNat frequency))
  | found => .error (.config (.clockWords found.length))

/-- The ticks of a time in microseconds. -/
def ticksOfTime (clock : Clock) (microseconds : UInt32) : UInt32 :=
  (.ofNat microseconds.toNat * clock.ticksPerMicrosecond).toUInt32

/-- The time of ticks in microseconds. -/
def timeOfTicks (clock : Clock) (ticks : UInt32) : UInt32 :=
  (.ofNat ticks.toNat / clock.ticksPerMicrosecond).toUInt32

/-- The ticks that it takes to send `size` bytes at a rate, zero at no rate. -/
def ticksToSend (clock : Clock) (rate : UInt64) (size : UInt32) : UInt32 :=
  if rate = 0 then 0
  else
    clock.ticksOfTime
      (microsecondsPerSecond * (.ofNat size.toNat / .ofNat rate.toNat)).toUInt32

/-- The bytes that are sent at a rate in some ticks. -/
def bytesSent (clock : Clock) (rate : UInt64) (ticks : UInt32) : UInt32 :=
  let microseconds := .ofNat ticks.toNat / clock.ticksPerMicrosecond
  (.ofNat rate.toNat * microseconds / microsecondsPerSecond).toUInt32

end Clock

end TrafficShaping
