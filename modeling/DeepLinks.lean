import DeepLinks.CommandLine.Run
import DeepLinks.Conversion
import DeepLinks.Main
import DeepLinks.Publication.Interleaving
import DeepLinks.Proofs.Faults
import DeepLinks.Proofs.BuiltTable
import DeepLinks.Proofs.Precedence
import DeepLinks.Proofs.ConsistentReads
import DeepLinks.Proofs.HostText
import DeepLinks.Proofs.SchemeText
import DeepLinks.Proofs.UrlHost
import DeepLinks.Proofs.PlainUrls
import DeepLinks.Proofs.Binding
import DeepLinks.Proofs.LinkReading
import DeepLinks.Proofs.LinkRoundTrip
import DeepLinks.Proofs.TableContents
import DeepLinks.Proofs.DotSegments
import DeepLinks.Proofs.UrlPieces
import DeepLinks.Proofs.MatchedLinks
import DeepLinks.Proofs.QueryValues
import DeepLinks.Proofs.PathShape
import DeepLinks.Proofs.LowercaseText
import DeepLinks.Proofs.Concatenation
import DeepLinks.Proofs.DeclarationOrder
import DeepLinks.Proofs.QueryKeys
import DeepLinks.Proofs.Reload
import DeepLinks.Proofs.TypedParameters
import DeepLinks.Proofs.DistinctLinks
import DeepLinks.Proofs.Delimiters
import DeepLinks.Proofs.UndeclaredKeys
import DeepLinks.Proofs.TemplateText
import DeepLinks.Proofs.ExactBinding
import DeepLinks.Proofs.Decoding
import DeepLinks.Proofs.JsonText
import DeepLinks.Proofs.Lines
import DeepLinks.Proofs.Arguments
import DeepLinks.Proofs.Commands
import DeepLinks.Proofs.CanonicalText
import DeepLinks.Proofs.StrictDecoding
import DeepLinks.Proofs.LinkRefusals
import DeepLinks.Proofs.TemplateFaults
import DeepLinks.Proofs.SearchEvents
import DeepLinks.Proofs.UnboundKeys
import DeepLinks.Proofs.ErrorLines
