import EdgeDns.Basic
import EdgeDns.Registry
import EdgeDns.PickUpstream
import EdgeDns.PendingQueries
import EdgeDns.Handler
import EdgeDns.Steps
import EdgeDns.Counters
import EdgeDns.Clients
import EdgeDns.InBounds
import EdgeDns.Timers
import EdgeDns.UniformRetry
import EdgeDns.ArmedRuns
import EdgeDns.PendingCounts
import EdgeDns.PowerOfTwo
import EdgeDns.Probes
import EdgeDns.Coalescing
import EdgeDns.Budget
import EdgeDns.Service
import EdgeDns.Destinations
import EdgeDns.Progress
