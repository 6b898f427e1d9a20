import ShopTraffic.Behaviour.Engine
import ShopTraffic.Behaviour.Reach
import ShopTraffic.Behaviour.State
import ShopTraffic.Behaviour.Table
import ShopTraffic.Catalog.Products
import ShopTraffic.Catalog.Search
import ShopTraffic.Clockwork
import ShopTraffic.CommandLine.Arguments
import ShopTraffic.CommandLine.Grammar
import ShopTraffic.CommandLine.Help
import ShopTraffic.CommandLine.Program
import ShopTraffic.CommandLine.Run
import ShopTraffic.Decimal.Digits
import ShopTraffic.Decimal.Nearest
import ShopTraffic.Decimal.Reading
import ShopTraffic.Decimal.Shortest
import ShopTraffic.Event
import ShopTraffic.Event.Wire
import ShopTraffic.Json.Printer
import ShopTraffic.Json.Reader
import ShopTraffic.Json.Tree
import ShopTraffic.Json.Value
import ShopTraffic.Load.Machine
import ShopTraffic.Load.Plan
import ShopTraffic.Log
import ShopTraffic.Log.Filter
import ShopTraffic.Main
import ShopTraffic.Metrics.Counters
import ShopTraffic.Metrics.Exposition
import ShopTraffic.Metrics.Summary
import ShopTraffic.Payload.Checkout
import ShopTraffic.Payload.Generate
import ShopTraffic.Payload.Home
import ShopTraffic.Payload.Parts
import ShopTraffic.Payload.Results
import ShopTraffic.Pipeline.Life
import ShopTraffic.Pipeline.Machine
import ShopTraffic.Queue
import ShopTraffic.Random.Keystream
import ShopTraffic.Random.Source
import ShopTraffic.Random.Uniform
import ShopTraffic.Random.Weighted
import ShopTraffic.Registry
import ShopTraffic.Session
import ShopTraffic.Settings.Failure
import ShopTraffic.Settings.Fields
import ShopTraffic.Settings.Layers
import ShopTraffic.Settings.Settings
import ShopTraffic.Settings.Toml
import ShopTraffic.Settings.Written
import ShopTraffic.Simulation
import ShopTraffic.Sink.Choice
import ShopTraffic.Sink.Outlets
import ShopTraffic.Sink.Sink
import ShopTraffic.Text
import ShopTraffic.Visitors
import ShopTraffic.Proofs.Runs
import ShopTraffic.Proofs.Random.Always
import ShopTraffic.Proofs.Random.Floats
import ShopTraffic.Proofs.Random.Rounding
import ShopTraffic.Proofs.Random.Weighted
import ShopTraffic.Proofs.Random.Uniform
import ShopTraffic.Proofs.Catalog.Search
import ShopTraffic.Proofs.Catalog.Scan
import ShopTraffic.Proofs.Visitors.Growth
import ShopTraffic.Proofs.Metrics.Tallies
import ShopTraffic.Proofs.Metrics.Counting
import ShopTraffic.Proofs.Json.Fields
import ShopTraffic.Proofs.Json.Scalars
import ShopTraffic.Proofs.Json.RoundTrip
import ShopTraffic.Proofs.Event.Wire
import ShopTraffic.Proofs.Payload.Makes
import ShopTraffic.Proofs.Payload.Frame
import ShopTraffic.Proofs.Registry.Lockstep
import ShopTraffic.Proofs.Behaviour.Moves
import ShopTraffic.Proofs.Behaviour.Walks
import ShopTraffic.Proofs.Behaviour.Visits
import ShopTraffic.Proofs.Behaviour.Places
import ShopTraffic.Proofs.Behaviour.Reach
import ShopTraffic.Proofs.Behaviour.Search
import ShopTraffic.Proofs.Behaviour.WaysOut
import ShopTraffic.Proofs.Behaviour.Wander
import ShopTraffic.Proofs.Behaviour.Idle
import ShopTraffic.Proofs.Payload.Picked
import ShopTraffic.Proofs.Payload.Mentions
import ShopTraffic.Proofs.Payload.GoingBack
import ShopTraffic.Proofs.Behaviour.Histories
import ShopTraffic.Proofs.Payload.Quantities
import ShopTraffic.Proofs.Payload.Searches
import ShopTraffic.Proofs.Simulation.Parts
import ShopTraffic.Proofs.Registry.Growth
import ShopTraffic.Proofs.Registry.Turnover
import ShopTraffic.Proofs.Registry.Deletion
import ShopTraffic.Proofs.Registry.Alike
import ShopTraffic.Proofs.Registry.Renewal
import ShopTraffic.Proofs.Simulation.LookUp
import ShopTraffic.Proofs.Simulation.Sweep
import ShopTraffic.Proofs.Registry.Issue
import ShopTraffic.Proofs.Simulation.Crowd
import ShopTraffic.Proofs.Simulation.Accounts
import ShopTraffic.Proofs.Simulation.Completions
import ShopTraffic.Proofs.Simulation.Deferral
import ShopTraffic.Proofs.Simulation.Weave
import ShopTraffic.Proofs.Simulation.Removals
import ShopTraffic.Proofs.Flow.Fates
import ShopTraffic.Proofs.Flow.Items
import ShopTraffic.Proofs.Flow.Load
import ShopTraffic.Proofs.Flow.Outlets
import ShopTraffic.Proofs.Flow.Run
import ShopTraffic.Proofs.Flow.Conservation
import ShopTraffic.Proofs.Flow.Order
import ShopTraffic.Proofs.Flow.Schedule
import ShopTraffic.Proofs.Flow.Drain
import ShopTraffic.Proofs.Flow.Shutdown
import ShopTraffic.Proofs.Load.Run
import ShopTraffic.Proofs.Load.Ticks
import ShopTraffic.Proofs.Load.Tickets
import ShopTraffic.Proofs.Load.Rate
import ShopTraffic.Proofs.Load.Shares
import ShopTraffic.Proofs.Simulation.Order
import ShopTraffic.Proofs.Simulation.Agreement
import ShopTraffic.Proofs.Simulation.Visits
import ShopTraffic.Proofs.Simulation.Reproducibility
import ShopTraffic.Proofs.Simulation.Expiry
import ShopTraffic.Proofs.Simulation.Leftovers
import ShopTraffic.Proofs.Load.Ending
import ShopTraffic.Proofs.Flow.Rest
import ShopTraffic.Proofs.Flow.Limits
import ShopTraffic.Proofs.Json.Composition
import ShopTraffic.Proofs.Event.Decoding
import ShopTraffic.Proofs.Flow.Relay
