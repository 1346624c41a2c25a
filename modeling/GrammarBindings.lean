import GrammarBindings.Main
import GrammarBindings.Proofs.JniSymbol.Exports
import GrammarBindings.Proofs.JniSymbol.Decoding
import GrammarBindings.Proofs.CommandLine.Rerun
import GrammarBindings.Proofs.CommandLine.Footprint
import GrammarBindings.Proofs.Delivery.Guard
import GrammarBindings.Proofs.BuildScript
import GrammarBindings.Proofs.Template.Warning
import GrammarBindings.Proofs.Kotlin.Clash
import GrammarBindings.Proofs.Recovery
import GrammarBindings.Proofs.CommandLine.Agreement
import GrammarBindings.Proofs.Delivery.Admission
import GrammarBindings.Proofs.Relocation
import GrammarBindings.Proofs.Reordering
import GrammarBindings.Proofs.Template.Replacement
import GrammarBindings.Proofs.Template.Coverage
import GrammarBindings.Proofs.Config.Writing
import GrammarBindings.Proofs.Path.Reachable
import GrammarBindings.Proofs.Path.Along
import GrammarBindings.Proofs.Delivery.Failure
import GrammarBindings.Proofs.Delivery.Repeated
import GrammarBindings.Proofs.SourceList
import GrammarBindings.Proofs.Validation
import GrammarBindings.Proofs.Template.Piecewise
import GrammarBindings.Proofs.Path.Shortest
import GrammarBindings.Proofs.JniSymbol.Alphabet
import GrammarBindings.Proofs.ClassFile
import GrammarBindings.Proofs.FaultMessage
import GrammarBindings.Proofs.Path.Normal
import GrammarBindings.Proofs.Path.Compact
import GrammarBindings.Proofs.Package
