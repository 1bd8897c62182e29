import MetricsAgent.Config.Json
import MetricsAgent.Main
import MetricsAgent.Proofs.Agent.Tick
import MetricsAgent.Proofs.Agent.Timing
import MetricsAgent.Proofs.Channel.Refinement
import MetricsAgent.Proofs.Channel.WakeUp
import MetricsAgent.Proofs.Collector.Samples
import MetricsAgent.Proofs.Config.Overlay
import MetricsAgent.Proofs.Config.Startup
import MetricsAgent.Proofs.Push.Http
import MetricsAgent.Proofs.Measurement.ReadBack
import MetricsAgent.Proofs.Exposition.Grouping
import MetricsAgent.Proofs.Exposition.LabelNames
import MetricsAgent.Proofs.Exposition.ReadBack
import MetricsAgent.Proofs.Exposition.Reader
import MetricsAgent.Proofs.Exposition.Rearranged
import MetricsAgent.Proofs.Exposition.Series
import MetricsAgent.Proofs.Exposition.Written
import MetricsAgent.Proofs.Push.Conservation
import MetricsAgent.Proofs.Push.Delivery
import MetricsAgent.Proofs.Push.Envelope
import MetricsAgent.Proofs.Push.Pacing
import MetricsAgent.Proofs.Push.Firing
import MetricsAgent.Proofs.Push.Shutdown
import MetricsAgent.Proofs.Retry.Course
import MetricsAgent.Proofs.Retry.Specification
import MetricsAgent.Proofs.Retry.Window
import MetricsAgent.Proofs.Scheduler.Agreement
import MetricsAgent.Proofs.Scheduler.Cancellation
import MetricsAgent.Proofs.Scheduler.Diary
import MetricsAgent.Proofs.Scheduler.Durations
import MetricsAgent.Proofs.Scheduler.Halt
import MetricsAgent.Proofs.Scheduler.Tally
import MetricsAgent.Proofs.Scheduler.Tour
import MetricsAgent.Proofs.SelfMetrics.Scrape
import MetricsAgent.Proofs.Server.Scrapes
import MetricsAgent.Push.Http
import MetricsAgent.Simulation.Channel
import MetricsAgent.Simulation.Log
import MetricsAgent.Simulation.Pipeline
import MetricsAgent.Simulation.Retry
import MetricsAgent.Proofs.Collector.Registration
import MetricsAgent.Proofs.Collector.SeriesKey
import MetricsAgent.Proofs.Collector.Telescope
import MetricsAgent.Proofs.Collector.Collections
import MetricsAgent.Proofs.Push.Stretch
import MetricsAgent.Proofs.Push.Summary
import MetricsAgent.Proofs.Push.States
import MetricsAgent.Proofs.Config.Expansion
import MetricsAgent.Proofs.Measurement.Limits
import MetricsAgent.Proofs.Retry.Delays
import MetricsAgent.Proofs.Sampling.Fates
