import EventBus.Bus
import EventBus.Contract.Kinds
import EventBus.Contract.Publication
import EventBus.Event.Codec
import EventBus.Proofs.Registry.Subscriptions
import EventBus.Scenario.Inquiry
import EventBus.Subscribers.Logged
import EventBus.Subscribers.Reporter
import EventBus.Subscribers.Tracker
import EventBus.SubscriptionGroup
import EventBus.Proofs.Registry.Invariant
import EventBus.Proofs.Registry.Sections
import EventBus.Proofs.Registry.Changes
import EventBus.Proofs.Registry.Handles
import EventBus.Proofs.Dispatch.Advance
import EventBus.Proofs.Hub.Basic
import EventBus.Proofs.Hub.Operations
import EventBus.Proofs.Hub.Roster
import EventBus.Proofs.Hub.Tracking
import EventBus.Proofs.Hub.Refinement
import EventBus.Proofs.Dispatch.Collector
import EventBus.Proofs.Dispatch.Accounting
import EventBus.Proofs.Hub.Voyages
import EventBus.Proofs.Hub.Accounting
import EventBus.Proofs.Dispatch.Settling
import EventBus.Proofs.Hub.Agreement
import EventBus.Proofs.Dispatch.Lateness
import EventBus.Proofs.Dispatch.Abandonment
import EventBus.Proofs.Hub.Lateness
import EventBus.Proofs.Dispatch.Calls
import EventBus.Proofs.Registry.Handlers
import EventBus.Proofs.Hub.Delivery
import EventBus.Proofs.Hub.Attainable
import EventBus.Proofs.Hub.Representation
import EventBus.Proofs.Hub.Endings
import EventBus.Proofs.Group.Assembly
import EventBus.Proofs.Group.Deeds
import EventBus.Proofs.Group.Membership
import EventBus.Proofs.Group.Sharing
import EventBus.Proofs.Group.Recollection
import EventBus.Proofs.Hub.Activity
import EventBus.Proofs.Hub.Nesting
import EventBus.Proofs.Hub.Reentrancy
import EventBus.Proofs.Dispatch.Cancellation
import EventBus.Proofs.Hub.Cancellation
import EventBus.Proofs.Dispatch.Custody
import EventBus.Proofs.Hub.Custody
import EventBus.Proofs.Hub.Closing
import EventBus.Proofs.Hub.Isolation
import EventBus.Proofs.Hub.Tower
import EventBus.Proofs.Hub.Drain
import EventBus.Proofs.Group.Chronicle
import EventBus.Proofs.Group.Strides
import EventBus.Proofs.Group.Walks
import EventBus.Proofs.Group.Handles
import EventBus.Proofs.Contract.Payloads
import EventBus.Proofs.Contract.Deliveries
import EventBus.Proofs.Registry.Holdings
import EventBus.Proofs.Registry.Grants
import EventBus.Proofs.Network.Basic
import EventBus.Proofs.Network.Steps
import EventBus.Proofs.Network.Ownership
import EventBus.Proofs.Text.Hex
import EventBus.Proofs.Text.Numerals
import EventBus.Proofs.Event.Id
import EventBus.Proofs.Calendar.Days
import EventBus.Proofs.Calendar.Offsets
import EventBus.Proofs.Calendar.Forms
import EventBus.Proofs.Calendar.Reading
import EventBus.Proofs.Calendar.Spelling
import EventBus.Proofs.Event.Codec
import EventBus.Proofs.Event.NormalForm
import EventBus.Proofs.Dispatch.Punctuality
import EventBus.Proofs.Serial.Routine
import EventBus.Proofs.Serial.Conduct
import EventBus.Proofs.Serial.Mirrors
import EventBus.Proofs.Serial.Stage
import EventBus.Proofs.Serial.Crew
import EventBus.Proofs.Serial.Lockstep
import EventBus.Proofs.Serial.Progress
import EventBus.Proofs.Serial.Agreement
import EventBus.Proofs.Registry.Batches
import EventBus.Proofs.Hub.Batches
import EventBus.Proofs.Hub.Remnants
import EventBus.Proofs.Network.Isolation
import EventBus.Proofs.Contract.Gate
import EventBus.Proofs.Contract.Refusals
import EventBus.Proofs.Group.Roll
import EventBus.Proofs.Group.Withdrawal
import EventBus.Proofs.Group.Clearing
import EventBus.Proofs.Lock.Procedure
import EventBus.Proofs.Lock.Operations
import EventBus.Proofs.Lock.Contracts
import EventBus.Proofs.Lock.Sections
import EventBus.Proofs.Lock.Queries
import EventBus.Proofs.Lock.Services
import EventBus.Proofs.Lock.Duties
import EventBus.Proofs.Lock.Stages
import EventBus.Proofs.Lock.Machine
import EventBus.Proofs.Lock.Discipline
import EventBus.Proofs.Lock.Progress
import EventBus.Proofs.Lock.Settling
import EventBus.Proofs.Lock.Reentrancy
import EventBus.Proofs.Tracker.Window
import EventBus.Proofs.Tracker.Watch
import EventBus.Proofs.Tracker.History
import EventBus.Proofs.Tracker.Calls
import EventBus.Proofs.Tracker.Log
import EventBus.Proofs.Tracker.Waits
import EventBus.Proofs.Tracker.Order
import EventBus.Proofs.Json.Fields
import EventBus.Proofs.Reporter.Record
import EventBus.Proofs.Json.Numbers
import EventBus.Proofs.Json.Texts
import EventBus.Proofs.Json.Quotation
import EventBus.Proofs.Logged.Line
import EventBus.Proofs.Hub.Log
import EventBus.Proofs.Logged.Layers
import EventBus.Proofs.Logged.Troupe
import EventBus.Proofs.Logged.Pairs
import EventBus.Proofs.Logged.Transparency
