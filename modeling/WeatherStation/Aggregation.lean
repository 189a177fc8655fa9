/-!
# `WeatherStation.Aggregation`: statistics of one channel over one cycle

A buffer takes samples with their times in seconds and keeps their number, their sum, both
extrema and the first sample. After a warm-up, a sample that lies further beyond the extrema
than a threshold is rejected as a glitch and only counted. `flush` hands out the statistics
and empties the buffer.

Samples are 32-bit numbers and their sum has 64 bits. Thresholds are compared in 64 bits,
where nothing can overflow.
-/

set_option autoImplicit false

namespace WeatherStation.Aggregation

/-- Samples beyond this number are checked against the extrema. -/
def warmUpSamples : UInt32 := 4

/-- Threshold of the temperature, in tenths of a degree. -/
def temperatureThreshold : UInt32 := 8

/-- Threshold of the humidity, in tenths of a percent. -/
def humidityThreshold : UInt32 := 40

/-- The first sample of a cycle. -/
structure FirstSample where
  value : Int32
  /-- Start of the publish period that the sample falls into. -/
  time : UInt32
  deriving DecidableEq, Repr, Inhabited

/-- Statistics of a cycle. -/
structure Summary where
  /-- Sum over number, cut off toward zero. -/
  average : Int32
  firstValue : Int32
  firstTime : UInt32
  min : Int32
  /-- Start of the minute in which the minimum was first reached. -/
  minTime : UInt32
  max : Int32
  /-- Start of the minute in which the maximum was first reached. -/
  maxTime : UInt32
  count : UInt32
  deriving DecidableEq, Repr, Inhabited

/-- Running statistics of one channel. -/
structure Buffer where
  /-- Length of the publish period in minutes. -/
  period : UInt32
  sum : Int64
  count : UInt32
  min : Int32
  minTime : UInt32
  max : Int32
  maxTime : UInt32
  first : Option FirstSample
  /-- Samples rejected in this cycle. -/
  rejected : UInt32
  deriving DecidableEq, Repr, Inhabited

/-- The start of the minute that a time falls into. -/
def minuteStart (time : UInt32) : UInt32 := time - time % 60

/-- The start of the publish period that a time falls into. -/
def periodStart (period time : UInt32) : UInt32 := time - time % (60 * period)

namespace Buffer

/-- An empty buffer. A period of zero minutes counts as one minute. -/
def new (period : UInt32) : Buffer where
  period := if period = 0 then 1 else period
  sum := 0
  count := 0
  min := Int32.maxValue
  minTime := 0
  max := Int32.minValue
  maxTime := 0
  first := none
  rejected := 0

/-- Whether no sample has been accepted. -/
def isEmpty (b : Buffer) : Bool := b.count == 0

/-- Smallest and largest sample. -/
def extrema (b : Buffer) : Option (Int32 × Int32) :=
  if 0 < b.count then some (b.min, b.max) else none

/-- The empty buffer of the same period. -/
def reset (b : Buffer) : Buffer := new b.period

/-- Whether a sample lies further beyond the extrema than the threshold, once the warm-up is
over. -/
def isOutlier (b : Buffer) (value : Int32) (threshold : UInt32) : Bool :=
  let value := value.toInt64
  let threshold := Int64.ofNat threshold.toNat
  warmUpSamples < b.count &&
    (b.max.toInt64 < value - threshold || value + threshold < b.min.toInt64)

/-- Take a sample into the statistics. An extremum moves only when it is exceeded. -/
def accept (b : Buffer) (value : Int32) (time : UInt32) : Buffer where
  period := b.period
  sum := b.sum + value.toInt64
  count := b.count + 1
  min := if value < b.min then value else b.min
  minTime := if value < b.min then minuteStart time else b.minTime
  max := if b.max < value then value else b.max
  maxTime := if b.max < value then minuteStart time else b.maxTime
  first := b.first <|> some ⟨value, periodStart b.period time⟩
  rejected := b.rejected

/-- Offer a sample, and learn whether it was accepted. -/
def commit (b : Buffer) (value : Int32) (time threshold : UInt32) : Bool × Buffer :=
  if b.isOutlier value threshold then (false, { b with rejected := b.rejected + 1 })
  else (true, b.accept value time)

/-- The statistics so far, none if no sample has been accepted. -/
def summary? (b : Buffer) : Option Summary :=
  if b.count = 0 then none
  else b.first.map fun first =>
    { average := (b.sum / Int64.ofNat b.count.toNat).toInt32
      firstValue := first.value
      firstTime := first.time
      min := b.min
      minTime := b.minTime
      max := b.max
      maxTime := b.maxTime
      count := b.count }

/-- Hand out the statistics and start a new cycle. -/
def flush (b : Buffer) : Option Summary × Buffer := (b.summary?, b.reset)

end Buffer

end WeatherStation.Aggregation
