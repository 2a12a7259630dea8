import AspectAgent.Act
import AspectAgent.Diagnostics.Record

/-!
# Storing handlers

A storing handler turns each record that reaches its level into an entry and writes the entry to its
store. An ordinary failure, be it of the context, the message or the store, is kept inside the
handler; any other failure goes through to the logging call.
-/

namespace AspectAgent

namespace EntryFormat

/-- Builds the entry of a record and stores it; an ordinary failure is handed to `dropped`. -/
def deliver {σ : Type} (f : EntryFormat) (store : LogEntry → Act σ Unit)
    (dropped : Failure → Act σ Unit) (r : LogRecord) : Act σ Unit :=
  Act.orElse (do store (← Act.ofExcept (f.entry r))) dropped

end EntryFormat

/-- Where a storing handler writes its entries. -/
inductive EntryStore where
  | archive (a : Archive LogEntry)
  /-- Every writing fails. -/
  | failing (f : Failure)
  deriving Inhabited

namespace EntryStore

def write (e : LogEntry) : Act EntryStore Unit := fun s =>
  match s with
  | .archive a => (.returned (), .archive (a.write e))
  | .failing f => (.raised f, s)

/-- Reads the entries later than a time, in ascending order of time. -/
def readSince (since : Value) : EntryStore → Except Failure (List LogEntry)
  | .archive a => a.readSince LogEntry.timestamp since
  | .failing _ => .ok []

end EntryStore

/-- A handler with its level, the form of its entries, its store, and the ordinary failures it has
kept to itself. -/
structure StoringHandler where
  level : Int := 0
  format : EntryFormat := {}
  store : EntryStore := .archive .unbounded
  kept : List Failure := []

namespace StoringHandler

def handle (r : LogRecord) : Act StoringHandler Unit := do
  let h ← Act.read
  if ← Act.ofExcept (r.isBelow h.level) then return ()
  h.format.deliver
    (fun e =>
      Act.within StoringHandler.store (fun s h => { h with store := s }) (EntryStore.write e))
    (fun f => Act.change fun h => { h with kept := h.kept ++ [f] }) r

/-- Takes records in order and then reads the entries later than a time. -/
def handleAll (records : List LogRecord) (since : Value) : Act StoringHandler (List LogEntry) := do
  Act.forEach records handle
  Act.ofExcept ((← Act.read).store.readSince since)

end StoringHandler

end AspectAgent
