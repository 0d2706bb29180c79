import RelayTunnel.Config.Basic
import RelayTunnel.Json.Skipped
import RelayTunnel.Json.Writer

/-!
# Configuration files

A configuration file is a JSON object with a member for each setting, or an array of the settings'
values in order. Settings that are not given keep their defaults. `Config.ofJson` reads such a file and
`Config.toJson` writes one; durations are whole milliseconds in it.
-/

set_option autoImplicit false

namespace RelayTunnel

namespace Config

open Json

/-- The settings, in the order in which a file lists them. -/
inductive Setting where
  | url
  | maxConnections
  | idleTimeout
  | retryCount
  | retryDelay
  | destinationTimeout
  | disconnectIsFatal
  | insecure
  | headers
  deriving DecidableEq

def Setting.all : List Setting :=
  [.url, .maxConnections, .idleTimeout, .retryCount, .retryDelay, .destinationTimeout,
    .disconnectIsFatal, .insecure, .headers]

/-- The name of a setting in a file. -/
def Setting.key : Setting → String
  | .url => "url"
  | .maxConnections => "maxConnections"
  | .idleTimeout => "idleTimeout"
  | .retryCount => "retryCount"
  | .retryDelay => "retryDelay"
  | .destinationTimeout => "destinationTimeout"
  | .disconnectIsFatal => "disconnectIsFatal"
  | .insecure => "insecure"
  | .headers => "headers"

/-- Numbers from here on are not read as a count of connections or of milliseconds. -/
def countBound : Nat := UInt64.size

/-- Numbers from here on are not read as a count of retries. -/
def retryBound : Nat := UInt32.size

def readDuration : Reader Duration := do return .ofMillis (← natural countBound)

/-- The extra header fields: an object whose values are strings. -/
def readHeaders : Reader ExtraFields := do
  if (← Reader.token) == some openBrace then
    Reader.advance 1
    let fields ← foldMembers (fun name fields => do
      colon
      return fields.insert name (← string)) .empty
    close closeBrace
    return fields
  else wrongType

/-- Reads the value of a setting into a configuration. -/
def readSetting (config : Config) : Setting → Reader Config
  | .url => do return { config with url := ← string }
  | .maxConnections => do return { config with maxConnections := (← natural countBound).toUInt64 }
  | .idleTimeout => do return { config with idleTimeout := ← readDuration }
  | .retryCount => do return { config with retryCount := (← natural retryBound).toUInt32 }
  | .retryDelay => do return { config with retryDelay := ← readDuration }
  | .destinationTimeout => do return { config with destinationTimeout := ← readDuration }
  | .disconnectIsFatal => do return { config with disconnectIsFatal := ← bool }
  | .insecure => do return { config with insecure := ← bool }
  | .headers => do return { config with headers := ← readHeaders }

/-- A configuration as far as it has been read, and the settings that were given. -/
structure Filled where
  config : Config
  given : List Setting

/-- Reads a member of a configuration. A setting may be given only once; members that are no settings
are passed over. -/
def readMember (key : String) (state : Filled) : Reader Filled :=
  match Setting.all.find? (·.key == key) with
  | none => do
      colon
      skipValue
      return state
  | some setting =>
      if setting ∈ state.given then Reader.fail .typeFault
      else do
        colon
        return ⟨← readSetting state.config setting, setting :: state.given⟩

/-- Reads the values of settings in order until the array ends. -/
def readElements (first : Bool) (config : Config) : List Setting → Reader Config
  | [] => return config
  | setting :: more => do
      if ← hasElement first then readElements false (← readSetting config setting) more
      else return config

/-- A configuration as an object or as an array. -/
def reader : Reader Config := do
  match ← Reader.token with
  | none => Reader.fail .endFault
  | some b =>
      if b == openBrace then
        Reader.advance 1
        let state ← foldMembers readMember ⟨{}, []⟩
        close closeBrace
        return state.config
      else if b == openBracket then
        Reader.advance 1
        let config ← readElements true {} Setting.all
        close closeBracket
        return config
      else wrongType

/-- Reads the content of a configuration file. -/
def ofJson (content : Bytes) : Except ConfigError Config :=
  match reader content with
  | .error fault => .error (.malformedFile fault)
  | .ok read =>
      if read.rest.all Reader.isBlank then .ok read.value
      else .error (.malformedFile .syntaxFault)

/-- The milliseconds that a duration is written as. -/
def writtenMillis (d : Duration) : Nat := min d.wholeMillis (countBound - 1)

/-- The value of a setting as it is written in a file. -/
def writeSetting (config : Config) : Setting → Bytes
  | .url => writeString config.url
  | .maxConnections => Text.decimalBytes config.maxConnections.toNat
  | .idleTimeout => Text.decimalBytes (writtenMillis config.idleTimeout)
  | .retryCount => Text.decimalBytes config.retryCount.toNat
  | .retryDelay => Text.decimalBytes (writtenMillis config.retryDelay)
  | .destinationTimeout => Text.decimalBytes (writtenMillis config.destinationTimeout)
  | .disconnectIsFatal => writeBool config.disconnectIsFatal
  | .insecure => writeBool config.insecure
  | .headers => writeObject (config.headers.toList.map fun f => writeMember f.1 (writeString f.2))

/-- The content of a file with every setting of a configuration. -/
def toJson (config : Config) : Bytes :=
  writeObject (Setting.all.map fun setting => writeMember setting.key (writeSetting config setting))

end Config

end RelayTunnel
