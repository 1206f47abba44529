import Timelines.Main
import Timelines.Number.Word
import Timelines.Proofs.Cache.Slices
import Timelines.Proofs.Cache.Staleness
import Timelines.Proofs.Post.Newest
import Timelines.Proofs.Service.Conservation
import Timelines.Proofs.Service.Pipeline
import Timelines.Proofs.Service.Recording
import Timelines.Proofs.Service.Rereading
import Timelines.Settings.Shown
import Timelines.Simulation.Folder
import Timelines.Simulation.Reading
import Timelines.Simulation.Script
import Timelines.Simulation.Transcript
import Timelines.Toml.Printer
import Timelines.Proofs.Cache.Wellformed
import Timelines.Proofs.Service.Backlog
import Timelines.Proofs.Cache.Cell
import Timelines.Proofs.Cache.Isolation
import Timelines.Proofs.Time.Calendar
import Timelines.Proofs.Time.Rfc3339
import Timelines.Proofs.Json.RoundTrip
import Timelines.Proofs.Json.Record
import Timelines.Proofs.Post.Wire
import Timelines.Proofs.Post.Clock
import Timelines.Proofs.Graph
import Timelines.Proofs.Service.CacheAside
import Timelines.Proofs.Service.SidePaths
import Timelines.Proofs.Cache.Refills
import Timelines.Proofs.Cache.Evictions
import Timelines.Proofs.Cache.Pushes
import Timelines.Proofs.Service.Converging
import Timelines.Proofs.Service.Retrying
import Timelines.Proofs.Service.Metrics
import Timelines.Proofs.Settings.Limits
import Timelines.Proofs.Settings.Overriding
import Timelines.Proofs.Settings.Rules
import Timelines.Proofs.EventLog
import Timelines.Proofs.Program.Leaving
import Timelines.Proofs.Json.Grammar
import Timelines.Proofs.Json.Lexemes
import Timelines.Proofs.Json.Members
import Timelines.Proofs.Post.Members
