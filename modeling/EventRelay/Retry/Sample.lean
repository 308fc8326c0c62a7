/-!
# How many attempts it took

Every retried piece of work leaves one sample: how it ended and how many attempts
were made. Samples of one ending are summed up in a histogram.
-/

namespace EventRelay.Retry

/-- How retried work ended. -/
inductive Ending
  | success
  | notRetryable
  | exhausted
  | cancelled
  deriving DecidableEq, Repr

/-- The label that samples of an ending are published under. -/
def Ending.label : Ending → String
  | .success => "success"
  | .notRetryable => "not_retryable"
  | .exhausted => "exhausted"
  | .cancelled => "cancelled"

/-- Every ending. -/
def Ending.all : List Ending :=
  [.success, .notRetryable, .exhausted, .cancelled]

/-- How one piece of work ended, after how many attempts. -/
structure Sample where
  ending : Ending
  attempts : Nat
  deriving DecidableEq, Repr

/-- The upper bounds of the histogram's buckets. -/
def bucketBounds : List Nat := [1, 2, 3, 4, 5, 8, 13, 21]

/-- The samples of one ending, summed up. They are counted by words, and the sum of their attempts
is kept in a double. -/
structure Histogram where
  tally : UInt64
  total : Float
  /-- For every bound, how many samples do not exceed it. -/
  tallies : List UInt64
  deriving DecidableEq, Repr

namespace Histogram

/-- Sum up numbers of attempts, the latest of which is the first. -/
def ofAttempts (attempts : List Nat) : Histogram where
  tally := .ofNat attempts.length
  total := attempts.foldr (fun attempts total => total + Float.ofNat attempts) 0
  tallies := bucketBounds.map fun bound => .ofNat (attempts.countP (· ≤ bound))

/-- Sum up the samples of one ending. -/
def ofSamples (samples : List Sample) (ending : Ending) : Histogram :=
  ofAttempts ((samples.filter fun sample => sample.ending = ending).map Sample.attempts)

/-- The histograms of those endings that came about. -/
def all (samples : List Sample) : List (Ending × Histogram) :=
  (Ending.all.filter fun ending => samples.any fun sample => sample.ending = ending).map
    fun ending => (ending, ofSamples samples ending)

variable (histogram : Histogram)

/-- How many samples there are. -/
def count : Nat :=
  histogram.tally.toNat

/-- The sum of their attempts, in whole numbers. -/
def sum : Nat :=
  histogram.total.toUInt64.toNat

/-- For every bound, how many samples do not exceed it. -/
def buckets : List Nat :=
  histogram.tallies.map UInt64.toNat

end Histogram

end EventRelay.Retry
