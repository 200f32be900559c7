import WirelessMesh.Address.Ether
import WirelessMesh.Address.IPv4
import WirelessMesh.Air.Medium
import WirelessMesh.Air.Transcript
import WirelessMesh.Command.MeshRun
import WirelessMesh.Command.Options
import WirelessMesh.Command.Outcome
import WirelessMesh.Command.PairRun
import WirelessMesh.Config.Error
import WirelessMesh.Config.Reader
import WirelessMesh.Config.Scenario
import WirelessMesh.Config.Settings
import WirelessMesh.Config.Writer
import WirelessMesh.Decimal.Shortest
import WirelessMesh.DeliveryRates
import WirelessMesh.Directory
import WirelessMesh.Json.Number
import WirelessMesh.Json.Printer
import WirelessMesh.Json.Reader
import WirelessMesh.Json.Record
import WirelessMesh.Json.Value
import WirelessMesh.Main
import WirelessMesh.Metric.Basic
import WirelessMesh.Metric.Estimate
import WirelessMesh.Network.Basic
import WirelessMesh.Network.Link
import WirelessMesh.Network.World
import WirelessMesh.Node
import WirelessMesh.Probing.Delay
import WirelessMesh.Probing.Prober
import WirelessMesh.Probing.Rounds
import WirelessMesh.Random
import WirelessMesh.Route.Log
import WirelessMesh.Route.Row
import WirelessMesh.Route.Table
import WirelessMesh.Simulation.Queue
import WirelessMesh.Simulation.Script
import WirelessMesh.Simulation.Simulator
import WirelessMesh.Simulation.Timer
import WirelessMesh.Text
import WirelessMesh.Time
import WirelessMesh.Topology
import WirelessMesh.Wire.Advert
import WirelessMesh.Wire.Bytes
import WirelessMesh.Wire.Discovery
import WirelessMesh.Wire.Frame
import WirelessMesh.Wire.Probe
import WirelessMesh.Proofs.Simulation.Heap
import WirelessMesh.Proofs.Simulation.LiveEvents
import WirelessMesh.Proofs.Simulation.Agenda
import WirelessMesh.Proofs.Simulation.History
import WirelessMesh.Proofs.Simulation.Refinement
import WirelessMesh.Proofs.Simulation.Slices
import WirelessMesh.Proofs.Simulation.Ownership
import WirelessMesh.Proofs.Simulation.Holding
import WirelessMesh.Proofs.Route.Row
import WirelessMesh.Proofs.Route.Writing
import WirelessMesh.Proofs.Route.Invariant
import WirelessMesh.Proofs.Route.Upkeep
import WirelessMesh.Proofs.Route.Listening
import WirelessMesh.Proofs.Route.Expiry
import WirelessMesh.Proofs.Air.Arrivals
import WirelessMesh.Proofs.Route.Timers
import WirelessMesh.Proofs.Route.Run
import WirelessMesh.Proofs.Route.Steps
import WirelessMesh.Proofs.Route.Tending
import WirelessMesh.Proofs.Route.Spacing
import WirelessMesh.Proofs.Route.Refusal
import WirelessMesh.Proofs.Route.Scripts
import WirelessMesh.Proofs.Node.Deeds
import WirelessMesh.Proofs.Node.Parts
import WirelessMesh.Proofs.Node.Run
import WirelessMesh.Proofs.Node.Scripts
import WirelessMesh.Proofs.Node.Settled
import WirelessMesh.Proofs.Mesh.Run
import WirelessMesh.Proofs.Mesh.Timers
import WirelessMesh.Proofs.Mesh.Fates
import WirelessMesh.Proofs.Forwarding.Standing
import WirelessMesh.Proofs.Forwarding.Advance
import WirelessMesh.Proofs.Forwarding.Ordered
import WirelessMesh.Proofs.Wire.Records
import WirelessMesh.Proofs.Wire.Advert
import WirelessMesh.Proofs.Wire.Lossless
import WirelessMesh.Proofs.Forwarding.Traffic
import WirelessMesh.Proofs.Forwarding.Hearing
import WirelessMesh.Proofs.Air.Channels
import WirelessMesh.Proofs.Air.Line
import WirelessMesh.Proofs.Probing.Samples
import WirelessMesh.Proofs.Probing.Replies
import WirelessMesh.Proofs.Forwarding.Telling
import WirelessMesh.Proofs.Forwarding.Fabric
import WirelessMesh.Proofs.Authentic.Sources
import WirelessMesh.Proofs.Authentic.Assembly
import WirelessMesh.Proofs.Mesh.Lane
import WirelessMesh.Proofs.Probing.Pairs
import WirelessMesh.Proofs.Mesh.Operation
import WirelessMesh.Proofs.Mesh.PairGap
import WirelessMesh.Proofs.Route.Stages
import WirelessMesh.Proofs.Route.Turns
import WirelessMesh.Proofs.Route.Occasions
import WirelessMesh.Proofs.Route.Routewise
import WirelessMesh.Proofs.Route.Freshness
import WirelessMesh.Proofs.Route.Memory
import WirelessMesh.Proofs.Route.Notice
import WirelessMesh.Proofs.Route.Honesty
import WirelessMesh.Proofs.Discovery.Frames
import WirelessMesh.Proofs.Discovery.Agreement
import WirelessMesh.Proofs.Route.Chronicle
import WirelessMesh.Proofs.Route.History
import WirelessMesh.Proofs.Simulation.Onward
import WirelessMesh.Proofs.Node.Dated
import WirelessMesh.Proofs.Mesh.Clock
import WirelessMesh.Proofs.Wire.Usable
import WirelessMesh.Proofs.Probing.Prober
import WirelessMesh.Proofs.Node.Honest
import WirelessMesh.Proofs.Mesh.Honest
import WirelessMesh.Proofs.Topology.Building
import WirelessMesh.Proofs.Route.Cascade
import WirelessMesh.Proofs.Route.Acceptance
import WirelessMesh.Proofs.Node.Malformed
import WirelessMesh.Proofs.Node.Tandem
import WirelessMesh.Proofs.Route.Tandem
import WirelessMesh.Proofs.Node.Twins
import WirelessMesh.Proofs.Simulation.Outline
import WirelessMesh.Proofs.Mesh.Reach
import WirelessMesh.Proofs.Mesh.Abreast
import WirelessMesh.Proofs.Mesh.Islands
import WirelessMesh.Proofs.Mesh.Isolation
import WirelessMesh.Proofs.Route.Accounts
import WirelessMesh.Proofs.Route.Insertion
import WirelessMesh.Proofs.Route.Listing
import WirelessMesh.Proofs.Route.Relaying
import WirelessMesh.Proofs.Route.Readings
import WirelessMesh.Proofs.Discovery.Counting
import WirelessMesh.Proofs.Discovery.Reporting
import WirelessMesh.Proofs.Probing.Reports
import WirelessMesh.Proofs.Probing.Gaps
import WirelessMesh.Proofs.Probing.Staggered
import WirelessMesh.Proofs.Topology.Copies
import WirelessMesh.Proofs.Topology.Assembly
import WirelessMesh.Proofs.Topology.Buildable
import WirelessMesh.Proofs.Topology.Links
import WirelessMesh.Proofs.Topology.Neighborhood
import WirelessMesh.Proofs.Metric.Path
import WirelessMesh.Proofs.Route.Shuffled
import WirelessMesh.Proofs.Probing.Piggyback
import WirelessMesh.Proofs.Metric.Rounding
import WirelessMesh.Proofs.Node.LinkCost
import WirelessMesh.Proofs.Node.Creation
import WirelessMesh.Proofs.Metric.Algebra
import WirelessMesh.Proofs.Random.Seeds
import WirelessMesh.Proofs.Address.Spelling
import WirelessMesh.Proofs.Air.Watched
import WirelessMesh.Proofs.Node.Pace
import WirelessMesh.Proofs.Node.Punctual
