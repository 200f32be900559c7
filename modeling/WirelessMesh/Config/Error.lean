import WirelessMesh.Decimal.Shortest

namespace WirelessMesh

/-- The frames whose size is configured. -/
inductive ProbeKind where
  | first
  | second
  | discovery
  deriving DecidableEq

def ProbeKind.name : ProbeKind → String
  | first => "first"
  | second => "second"
  | discovery => "discovery"

/-- The periods that a configuration sets. -/
inductive PeriodSetting where
  | probing
  | discovery
  | adverts
  | routeTimeout
  | routeDump
  deriving DecidableEq

/-- The name of the setting in a configuration file. -/
def PeriodSetting.name : PeriodSetting → String
  | probing => "ett.period_ms"
  | discovery => "linkstat.period_ms"
  | adverts => "routes.period_ms"
  | routeTimeout => "routes.timeout_ms"
  | routeDump => "routes.log_dump_ms"

/-- What makes a configuration contradict itself. -/
inductive ConfigFlaw where
  /-- The sample margin is negative or no number. -/
  | sampleMargin (margin : Float)
  /-- The time over which rates are taken is shorter than a period. -/
  | windowBelowPeriod (windowMillis periodMillis : Nat)
  | emptyPacket
  | noNodes
  | tooManyNodes (count : Nat)
  /-- A link names a node that is not there, or joins a node to itself. -/
  | linkOutOfRange (a b nodes : Nat)
  | noBandwidth
  | emptyLine
  | emptyGrid (rows cols : Nat)
  /-- The nodes do not fill rows of the given length. -/
  | raggedGrid (nodes cols : Nat)

def ConfigFlaw.message : ConfigFlaw → String
  | sampleMargin margin =>
    "ett.sample_margin must be a non-negative number, got " ++ renderFloat margin
  | windowBelowPeriod window period =>
    "linkstat.tau_ms (" ++ toString window ++ ") must be at least linkstat.period_ms ("
      ++ toString period ++ ")"
  | emptyPacket => "metric.packet_size must be positive"
  | noNodes => "topology has no nodes"
  | tooManyNodes count => "too many nodes: " ++ toString count
  | linkOutOfRange a b nodes =>
    "link " ++ toString a ++ "-" ++ toString b ++ " is out of range for " ++ toString nodes
      ++ " nodes"
  | noBandwidth => "link.bandwidth_kbps must be positive"
  | emptyLine => "line topology needs at least one node"
  | emptyGrid rows cols =>
    "grid topology " ++ toString rows ++ "x" ++ toString cols ++ " has no nodes"
  | raggedGrid nodes cols =>
    "--nodes " ++ toString nodes ++ " is not a multiple of --cols " ++ toString cols

/-- Why a configuration is refused. -/
inductive ConfigError where
  | packetTooSmall (kind : ProbeKind) (size least : Nat)
  | zeroSamples
  | unknownSampleFunction (code : Nat)
  /-- Probes need a source address. -/
  | missingLocalAddress
  | zeroPeriod (setting : PeriodSetting)
  | invalid (flaw : ConfigFlaw)
  /-- The file could not be read. -/
  | unreadable
  /-- The text is no configuration. -/
  | malformed

/-- The message for people. -/
def ConfigError.message : ConfigError → String
  | packetTooSmall kind size least =>
    kind.name ++ " probe size " ++ toString size ++ " is less than the minimum probe size of "
      ++ toString least
  | zeroSamples => "cannot have a zero sample count"
  | unknownSampleFunction code =>
    "sample function must be either 0 (MIN) or 1 (EWMA), got " ++ toString code
  | missingLocalAddress => "source link-layer address must be specified to send probes"
  | zeroPeriod setting => "`" ++ setting.name ++ "` must be positive"
  | invalid flaw => "invalid configuration: " ++ flaw.message
  | unreadable => "failed to read configuration"
  | malformed => "failed to parse configuration"

end WirelessMesh
