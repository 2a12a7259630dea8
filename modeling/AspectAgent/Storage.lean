import AspectAgent.Diagnostics.Record
import AspectAgent.Metrics.Sample

/-!
# Storages

A storage is an archive of log entries or of metric samples. It takes what is written to it, of
whatever sort: what does not belong there is found out only when it is handed out. A log storage is
read by time, a metric storage is scraped as a whole.
-/

namespace AspectAgent

/-- What is written to a storage. -/
inductive StoredItem where
  | entry (e : LogEntry)
  | sample (m : MetricSample)
  deriving Inhabited

namespace StoredItem

def timestamp : StoredItem → Value
  | .entry e => e.timestamp
  | .sample m => m.timestamp

/-- The item as an entry, which a sample is not: it has no level. -/
def entry? : StoredItem → Except Failure LogEntry
  | .entry e => .ok e
  | .sample _ => .error (.outside (.noMember (.object "MetricSample") "level"))

/-- The item as a sample, which an entry is not: it has no name. -/
def sample? : StoredItem → Except Failure MetricSample
  | .sample m => .ok m
  | .entry _ => .error (.outside (.noMember (.object "LogEntry") "name"))

end StoredItem

/-- A storage, and whether it is one of log entries. -/
structure Storage where
  holdsLog : Bool := true
  archive : Archive StoredItem := .unbounded
  deriving Inhabited

namespace Storage

def write (x : StoredItem) (s : Storage) : Storage := { s with archive := s.archive.write x }

/-- Reads the entries of a log storage later than a time. -/
def read (s : Storage) (since : Value) : Except Failure (List LogEntry) := do
  if !s.holdsLog then throw (.outside (.noMember (.object "storage") "read"))
  (← s.archive.readSince StoredItem.timestamp since).mapM StoredItem.entry?

/-- All samples of a metric storage, in the order of writing. -/
def scrape (s : Storage) : Except Failure (List MetricSample) := do
  if s.holdsLog then throw (.outside (.noMember (.object "storage") "scrape"))
  s.archive.items.mapM StoredItem.sample?

end Storage

end AspectAgent
