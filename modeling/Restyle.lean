import Restyle.Config.Document
import Restyle.Definition.Document
import Restyle.Description
import Restyle.Recipe
import Restyle.Session.Run
import Restyle.Sink
import Restyle.Proofs.Compilation.LaterCompilation
import Restyle.Proofs.Compilation.Overlap
import Restyle.Proofs.Compilation.Rerooting
import Restyle.Proofs.Compilation.Exchange
import Restyle.Proofs.Compilation.Marks
import Restyle.Proofs.Compilation.Spellings
import Restyle.Proofs.Compilation.Order
import Restyle.Proofs.Compilation.Overwritten
import Restyle.Proofs.Compilation.Reapplication
import Restyle.Proofs.Walk.Addresses
import Restyle.Proofs.Walk.Nesting
import Restyle.Proofs.Rendering.FirstFailure
import Restyle.Proofs.Rendering.Layouts
import Restyle.Proofs.Session.DynamicText
import Restyle.Proofs.Session.Instances
import Restyle.Proofs.Session.StaticText
import Restyle.Proofs.Session.Storage
import Restyle.Proofs.Producers
import Restyle.Proofs.Session.Callbacks
import Restyle.Proofs.Session.Effects
import Restyle.Proofs.Session.Interleavings
import Restyle.Proofs.Session.TargetRequests
import Restyle.Proofs.Session.Failures
import Restyle.Proofs.Session.LoadedDefinitions
import Restyle.Proofs.Definition.Formats
import Restyle.Proofs.Definition.Tags
import Restyle.Proofs.Definition.Extension
import Restyle.Proofs.DashCase
import Restyle.Proofs.RuleSet.Edits
import Restyle.Proofs.Sink
