import PathWatch.Event.Describe
import PathWatch.Event.Json
import PathWatch.Hub.Silent
import PathWatch.Main
import PathWatch.Proofs.Queue.Delivery
import PathWatch.Proofs.Buffer.Drain
import PathWatch.Proofs.Closing.Escape
import PathWatch.Proofs.Closing.Window
import PathWatch.Proofs.Closing.Settled
import PathWatch.Proofs.Queue.Holding
import PathWatch.Proofs.Waiting.Hall
import PathWatch.Proofs.Waiting.Wakeup
import PathWatch.Proofs.Waiting.Handout
import PathWatch.Proofs.Buffer.Weight
import PathWatch.Proofs.Drill.Field
import PathWatch.Proofs.Drill.Ground
import PathWatch.Proofs.Queue.EarlyReset
import PathWatch.Proofs.Drill.Tally
import PathWatch.Proofs.Drill.Account
import PathWatch.Proofs.Drill.Turns
import PathWatch.Proofs.Closing.Final
import PathWatch.Proofs.Hub.Silent
import PathWatch.Proofs.Owner.Handling
import PathWatch.Proofs.Owner.Twins
import PathWatch.Proofs.Owner.Indifference
import PathWatch.Proofs.Event.RoundTrip
import PathWatch.Proofs.Matcher.Registrations
import PathWatch.Proofs.Buffer.Offer
import PathWatch.Proofs.Live.Identifiers
import PathWatch.Proofs.Owner.Independence
import PathWatch.Proofs.Live.Census
import PathWatch.Proofs.Buffer.Coalescing
import PathWatch.Proofs.Buffer.Racing
import PathWatch.Proofs.Waiting.Visit
import PathWatch.Proofs.Pattern.Spans
import PathWatch.Proofs.Regex.Anchored
import PathWatch.Proofs.Glob.Items
import PathWatch.Proofs.Glob.DoubleStar
import PathWatch.Proofs.Regex.Escaped
import PathWatch.Proofs.Event.Obtained
import PathWatch.Proofs.Config.Loading
import PathWatch.Proofs.Owner.Refusal
import PathWatch.Proofs.Buffer.Warnings
