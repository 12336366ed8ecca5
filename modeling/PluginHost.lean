import PluginHost.GuestKit.Build
import PluginHost.Handle
import PluginHost.Host
import PluginHost.Log.Line
import PluginHost.Wasm.Engine
import PluginHost.Proofs.Running
import PluginHost.Proofs.Ticks
import PluginHost.Proofs.Record
import PluginHost.Proofs.Calls
import PluginHost.Proofs.Cleanup
import PluginHost.Proofs.Deadline
import PluginHost.Proofs.Leak
import PluginHost.Proofs.Message
import PluginHost.Proofs.Delay
import PluginHost.Proofs.Lifetime
import PluginHost.Proofs.Isolation
import PluginHost.Proofs.Binding
import PluginHost.Proofs.Growth
import PluginHost.Proofs.History
import PluginHost.Proofs.Agreement
import PluginHost.Proofs.Entries
import PluginHost.Proofs.Supervision
import PluginHost.Proofs.Callables
import PluginHost.Proofs.Aftermath
import PluginHost.Proofs.Sharing
import PluginHost.Proofs.Delivery
import PluginHost.Proofs.Introspection
import PluginHost.Proofs.Phases
import PluginHost.Proofs.Installation
import PluginHost.Proofs.Context
import PluginHost.Proofs.Reading
import PluginHost.Proofs.Course
import PluginHost.Proofs.Releases
import PluginHost.Proofs.Storing
import PluginHost.Proofs.Shortage
import PluginHost.Proofs.Handover
import PluginHost.Proofs.Stubs
import PluginHost.Proofs.Extent
import PluginHost.Proofs.Overview
import PluginHost.Proofs.Exports
import PluginHost.Proofs.Refusals
import PluginHost.Proofs.Registration
import PluginHost.Proofs.Blocks
import PluginHost.Proofs.Configuration
import PluginHost.Proofs.SignatureText
import PluginHost.Proofs.Permissions
import PluginHost.Proofs.Ownership
import PluginHost.Proofs.Hosting
