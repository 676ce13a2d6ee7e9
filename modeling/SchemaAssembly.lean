import SchemaAssembly.Assembly
import SchemaAssembly.Sdl
import SchemaAssembly.Value.Json
import SchemaAssembly.Proofs.GraphTypes
import SchemaAssembly.Proofs.BackReferences
import SchemaAssembly.Proofs.Image
import SchemaAssembly.Proofs.Bindings
import SchemaAssembly.Proofs.Context
import SchemaAssembly.Proofs.Calls
import SchemaAssembly.Proofs.Termination
import SchemaAssembly.Proofs.Locality
import SchemaAssembly.Proofs.Reordering
import SchemaAssembly.Proofs.Flattening
import SchemaAssembly.Proofs.Exchange
import SchemaAssembly.Proofs.Blindness
import SchemaAssembly.Proofs.Merging
import SchemaAssembly.Proofs.InPlace
import SchemaAssembly.Proofs.AllOrNothing
import SchemaAssembly.Proofs.Concatenation
import SchemaAssembly.Proofs.Grouping
import SchemaAssembly.Proofs.ListedKinds
import SchemaAssembly.Proofs.WiredScalars
import SchemaAssembly.Proofs.Translation
import SchemaAssembly.Proofs.Defaults
import SchemaAssembly.Proofs.Repetitions
import SchemaAssembly.Proofs.Wrapping
import SchemaAssembly.Proofs.WiringHistory
import SchemaAssembly.Proofs.StaticServing
import SchemaAssembly.Proofs.Signs
import SchemaAssembly.Proofs.Readability
import SchemaAssembly.Proofs.MessageText
import SchemaAssembly.Proofs.JsonText
import SchemaAssembly.Proofs.EqualValues
import SchemaAssembly.Proofs.StandardCodecs
import SchemaAssembly.Proofs.KnownScalars
import SchemaAssembly.Proofs.DepthFirst
import SchemaAssembly.Proofs.ArbitraryRoots
