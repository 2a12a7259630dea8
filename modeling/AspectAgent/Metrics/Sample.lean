import AspectAgent.Archive

/-!
# Metric samples

A sample is one measured value of an instrument at a time, with its labels. A metric archive hands
out the samples it keeps in the order in which they were written.
-/

namespace AspectAgent

structure MetricSample where
  name : String
  timestamp : Value
  value : Value
  labels : Table Value
  deriving Inhabited

/-- All samples that an archive keeps, in the order of writing. -/
def Archive.samples (a : Archive MetricSample) : List MetricSample := a.items

end AspectAgent
