import Tether.Calendar.Instant

/-!
# Tether.Stats — counters of the traffic with a camera

Speeds and response times are measured by a clock and their values are not kept; the counters tell whether any were
measured since the last reset.
-/

namespace Tether

open Calendar (Instant)

/-- Counters since the last reset.

They are numbers here, although a counter that is kept has 64 bits: it goes up by one, or by bytes that were
really moved through memory, and begins at 0 with every device, so that no run is long enough to count to 2^64.
Nothing but a report reads them. -/
structure Stats where
  filesRead : Nat := 0
  filesWritten : Nat := 0
  bytesRead : Nat := 0
  bytesWritten : Nat := 0
  cacheHits : Nat := 0
  cacheMisses : Nat := 0
  ptpOperations : Nat := 0
  ptpErrors : Nat := 0
  /-- Time of the last exchange. -/
  lastOperation : Option Instant := none
  /-- Whether a read from the camera was timed. -/
  readSpeedKnown : Bool := false
  /-- Whether an upload was timed. -/
  writeSpeedKnown : Bool := false
deriving DecidableEq

namespace Stats

/-- Whether an exchange was timed: every exchange is. -/
def responseTimeKnown (s : Stats) : Bool :=
  s.lastOperation.isSome

/-- Counters that begin anew. -/
def reset (_ : Stats) : Stats :=
  {}

/-- Counts an exchange. -/
def recordExchange (now : Instant) (succeeded : Bool) (s : Stats) : Stats :=
  { s with
    ptpOperations := s.ptpOperations + 1
    ptpErrors := if succeeded then s.ptpErrors else s.ptpErrors + 1
    lastOperation := some now }

/-- Counts a read from the cache. -/
def recordCacheHit (bytes : Nat) (s : Stats) : Stats :=
  { s with cacheHits := s.cacheHits + 1, bytesRead := s.bytesRead + bytes }

/-- Counts a read from the camera; one without content has no speed. -/
def recordCacheMiss (bytes : Nat) (s : Stats) : Stats :=
  { s with
    cacheMisses := s.cacheMisses + 1
    bytesRead := s.bytesRead + bytes
    readSpeedKnown := s.readSpeedKnown || bytes ≠ 0 }

/-- Counts the reading of a file from its start. -/
def recordFileRead (s : Stats) : Stats :=
  { s with filesRead := s.filesRead + 1 }

/-- Counts an upload; one without content has no speed. -/
def recordWrite (bytes : Nat) (s : Stats) : Stats :=
  { s with
    filesWritten := s.filesWritten + 1
    bytesWritten := s.bytesWritten + bytes
    writeSpeedKnown := s.writeSpeedKnown || bytes ≠ 0 }

end Stats

end Tether
