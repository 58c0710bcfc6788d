import ServiceStubs.Call.Client
import ServiceStubs.Expansion.Module
import ServiceStubs.Main
import ServiceStubs.Proofs.Call.SettleOnce
import ServiceStubs.Proofs.Call.Completing
import ServiceStubs.Proofs.Call.Building
import ServiceStubs.Proofs.Call.Calling
import ServiceStubs.Proofs.Call.Spawning
import ServiceStubs.Proofs.Wire.Resolution
import ServiceStubs.Proofs.Wire.Truncated
import ServiceStubs.Proofs.Wire.RoundTrip
import ServiceStubs.Proofs.Call.Dispatch
import ServiceStubs.Proofs.Call.Ending
import ServiceStubs.Proofs.Call.Serving
import ServiceStubs.Proofs.Grammar.Identifiers
import ServiceStubs.Proofs.Except
import ServiceStubs.Proofs.Schema.Claims
import ServiceStubs.Proofs.Schema.Declarations
import ServiceStubs.Proofs.Expansion.Characters
import ServiceStubs.Proofs.Expansion.Reading
import ServiceStubs.Proofs.Expansion.Artifacts
import ServiceStubs.Proofs.Text.Docstring
import ServiceStubs.Proofs.Text.WordPattern
import ServiceStubs.Proofs.Grammar.Docstring
import ServiceStubs.Proofs.Schema.Origin
import ServiceStubs.Proofs.Expansion.Agreement
import ServiceStubs.Proofs.Expansion.Namespace
import ServiceStubs.Proofs.Expansion.ValidNames
import ServiceStubs.Proofs.Expansion.Injected
import ServiceStubs.Proofs.Schema.WireNames
import ServiceStubs.Proofs.Schema.Marked
import ServiceStubs.Proofs.Schema.Servers
import ServiceStubs.Proofs.Expansion.Blocks
import ServiceStubs.Proofs.Expansion.Counterparts
import ServiceStubs.Proofs.Files.Components
import ServiceStubs.Proofs.Files.Expanding
import ServiceStubs.Proofs.Files.FileName
import ServiceStubs.Proofs.Files.Relative
import ServiceStubs.Proofs.Run.Action
import ServiceStubs.Proofs.Run.CleanUp
import ServiceStubs.Proofs.Run.Destinations
import ServiceStubs.Proofs.Run.Reselection
import ServiceStubs.Proofs.Call.Release
import ServiceStubs.Proofs.Expansion.Arguments
import ServiceStubs.Proofs.Expansion.Members
import ServiceStubs.Proofs.Expansion.Newlines
import ServiceStubs.Proofs.Expansion.Recorded
import ServiceStubs.Proofs.Run.Writing
import ServiceStubs.Proofs.Run.Excluding
import ServiceStubs.Proofs.Grammar.Placed
import ServiceStubs.Proofs.Text.Cleaning
import ServiceStubs.Proofs.Grammar.Classes
import ServiceStubs.Proofs.Expansion.Redeclared
import ServiceStubs.Proofs.Expansion.Documented
import ServiceStubs.Proofs.Expansion.Forwarding
import ServiceStubs.Proofs.Expansion.Imported
import ServiceStubs.Proofs.Expansion.Surroundings
