import Tether.Settings.Document
import Tether.StorageError
import Tether.Text.Blank

/-!
# Tether.Config — the configuration of an attached camera

The defaults hold unless a settings file says otherwise, and that unless a variable of the environment does.  A
file that is not there says nothing; one that is there has to be readable.  A variable that cannot be read is
ignored.
-/

namespace Tether

open Settings Text

/-- The configuration of an attached camera. -/
structure Config where
  /-- Bytes of content that may be cached. -/
  cacheMaxBytes : UInt64 := 64 * 1024 * 1024
  /-- Seconds after its last change from which on cached content is stale. -/
  cacheTimeoutSecs : UInt64 := 300
  /-- Seconds between two searches for stale content. -/
  cleanupIntervalSecs : UInt64 := 60
  /-- Seconds between two readings of the mounted cards. -/
  refreshIntervalSecs : UInt64 := 30
  /-- Seconds before the first of these readings. -/
  refreshInitialDelaySecs : UInt64 := 10
  /-- Largest transfer to ask for. -/
  maxPacketSize : UInt64 := 512 * 1024
  /-- Bytes in a block of a file system. -/
  blockSize : UInt32 := 4096
deriving DecidableEq

/-- A settings file as it is found. -/
inductive SettingsFile where
  /-- There is none. -/
  | missing
  /-- It is there and is no text. -/
  | unreadable
  /-- It is there and holds this text. -/
  | text (content : String)
deriving DecidableEq

namespace Config

/-- Names of the settings, in order. -/
def fieldNames : List String :=
  ["cacheMaxBytes", "cacheTimeoutSecs", "cleanupIntervalSecs", "refreshIntervalSecs", "refreshInitialDelaySecs",
    "maxPacketSize", "blockSize"]

/-- The configuration in a document; what the document does not tell has its default. -/
def ofDocument (d : Document) : Option Config := do
  match ← d.fields fieldNames with
  | [bytes, timeout, cleanup, refresh, delay, packet, block] =>
    let default : Config := {}
    return {
      cacheMaxBytes := ← Document.orDefault Document.u64? default.cacheMaxBytes bytes
      cacheTimeoutSecs := ← Document.orDefault Document.u64? default.cacheTimeoutSecs timeout
      cleanupIntervalSecs := ← Document.orDefault Document.u64? default.cleanupIntervalSecs cleanup
      refreshIntervalSecs := ← Document.orDefault Document.u64? default.refreshIntervalSecs refresh
      refreshInitialDelaySecs := ← Document.orDefault Document.u64? default.refreshInitialDelaySecs delay
      maxPacketSize := ← Document.orDefault Document.u64? default.maxPacketSize packet
      blockSize := ← Document.orDefault Document.u32? default.blockSize block }
  | _ => none

/-- The configuration in a settings file that has to be there. -/
def ofFile : SettingsFile → Except StorageError Config
  | .missing => .error (.io "there is no settings file")
  | .unreadable => .error (.io "the settings file is no text")
  | .text content =>
    match (Document.read content).bind ofDocument with
    | some config => .ok config
    | none => .error (.invalidArgument .malformedSettings)

/-- The configuration in a settings file that need not be there. -/
def ofOptionalFile : SettingsFile → Except StorageError Config
  | .missing => .ok {}
  | file => ofFile file

/-- The number that a variable overrides a setting by. -/
def override64 (lookup : String → Option String) (key : String) (setting : UInt64) : UInt64 :=
  (((lookup key).bind fun raw => readNatural limit64 (trim raw.toList)).map UInt64.ofNat).getD setting

/-- The number of 32 bits that a variable overrides a setting by. -/
def override32 (lookup : String → Option String) (key : String) (setting : UInt32) : UInt32 :=
  (((lookup key).bind fun raw => readNatural limit32 (trim raw.toList)).map UInt32.ofNat).getD setting

/-- The configuration with the settings overridden that variables tell. -/
def withOverrides (lookup : String → Option String) (c : Config) : Config where
  cacheMaxBytes := override64 lookup "CAMFS_CACHE_MAX_BYTES" c.cacheMaxBytes
  cacheTimeoutSecs := override64 lookup "CAMFS_CACHE_TIMEOUT_SECS" c.cacheTimeoutSecs
  cleanupIntervalSecs := override64 lookup "CAMFS_CLEANUP_INTERVAL_SECS" c.cleanupIntervalSecs
  refreshIntervalSecs := override64 lookup "CAMFS_REFRESH_INTERVAL_SECS" c.refreshIntervalSecs
  refreshInitialDelaySecs := override64 lookup "CAMFS_REFRESH_INITIAL_DELAY_SECS" c.refreshInitialDelaySecs
  maxPacketSize := override64 lookup "CAMFS_MAX_PACKET_SIZE" c.maxPacketSize
  blockSize := override32 lookup "CAMFS_BLOCK_SIZE" c.blockSize

/-- The configuration of a settings file, if there is one, and the variables. -/
def load (file : SettingsFile) (lookup : String → Option String) : Except StorageError Config :=
  (ofOptionalFile file).map (withOverrides lookup)

/-- Seconds between two searches for stale content, at least one. -/
def cleanupInterval (c : Config) : UInt64 :=
  max c.cleanupIntervalSecs 1

/-- Seconds between two readings of the mounted cards, at least one. -/
def refreshInterval (c : Config) : UInt64 :=
  max c.refreshIntervalSecs 1

end Config

end Tether
