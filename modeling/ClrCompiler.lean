import ClrCompiler.Main
import ClrCompiler.Decl.Lowering
import ClrCompiler.Proofs.Naming
import ClrCompiler.Proofs.Registry
import ClrCompiler.Proofs.Identity
import ClrCompiler.Proofs.Library.Build
import ClrCompiler.Proofs.Library.Lookup
import ClrCompiler.Proofs.Library.Companions
import ClrCompiler.Proofs.Library.Listing
import ClrCompiler.Proofs.Index
import ClrCompiler.Proofs.Chains
import ClrCompiler.Proofs.NameQueries
import ClrCompiler.Proofs.Decl.Requests
import ClrCompiler.Proofs.Decl.StaticPairs
import ClrCompiler.Proofs.CodeTree.Unambiguous
import ClrCompiler.Proofs.Decl.Names
import ClrCompiler.Proofs.Decl.Safety
import ClrCompiler.Proofs.Decl.Room
import ClrCompiler.Proofs.IndexHistory
import ClrCompiler.Proofs.Library.Signatures
import ClrCompiler.Proofs.Decl.Growth
import ClrCompiler.Proofs.Decl.Made
import ClrCompiler.Proofs.Decl.Appends
import ClrCompiler.Proofs.Decl.Renaming
import ClrCompiler.Proofs.Decl.Determined
import ClrCompiler.Proofs.Decl.Commute
import ClrCompiler.Proofs.Decl.StoredNames
import ClrCompiler.Proofs.RegistryHistory
import ClrCompiler.Proofs.Json.Reads
import ClrCompiler.Proofs.Metadata.RoundTrip
import ClrCompiler.Proofs.CodeTree.RoundTrip
import ClrCompiler.Proofs.Command.Action
import ClrCompiler.Proofs.Command.Sources
import ClrCompiler.Proofs.Command.Check
import ClrCompiler.Proofs.Command.SourceCount
import ClrCompiler.Proofs.Command.Render
import ClrCompiler.Proofs.Command.Symbols
import ClrCompiler.Proofs.Decl.Refusals
import ClrCompiler.Proofs.Decl.Signatures
import ClrCompiler.Proofs.Decl.PlatformNames
import ClrCompiler.Proofs.Library.TypeNames
import ClrCompiler.Proofs.Decl.EntryPoints
import ClrCompiler.Proofs.Decl.Invariant
import ClrCompiler.Proofs.Library.Members
import ClrCompiler.Proofs.CodeTree.Outline
import ClrCompiler.Proofs.CodeTree.LineCount
import ClrCompiler.Proofs.Output.Delivery
import ClrCompiler.Proofs.Command.Options
import ClrCompiler.Proofs.Nesting
import ClrCompiler.Proofs.Actualizing
import ClrCompiler.Proofs.Path
import ClrCompiler.Proofs.InternerHistory
import ClrCompiler.Proofs.TypeTexts
import ClrCompiler.Proofs.Shadowing
