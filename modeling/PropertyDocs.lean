import PropertyDocs.Main
import PropertyDocs.Scalar
import PropertyDocs.Session
import PropertyDocs.Proofs.CaptureScope
import PropertyDocs.Proofs.Bisimulation
import PropertyDocs.Proofs.ChainedLoading
import PropertyDocs.Proofs.Acceptance
import PropertyDocs.Proofs.TemplateText
import PropertyDocs.Proofs.FlatText
import PropertyDocs.Proofs.Defaults
import PropertyDocs.Proofs.Failures
import PropertyDocs.Proofs.MissingDecryptor
import PropertyDocs.Proofs.Merging
import PropertyDocs.Proofs.KeyOrder
import PropertyDocs.Proofs.Sessions
import PropertyDocs.Proofs.ExitCodes
import PropertyDocs.Proofs.FieldBoundaries
import PropertyDocs.Proofs.ConfigFolders
import PropertyDocs.Proofs.FileChains
import PropertyDocs.Proofs.Flattening
import PropertyDocs.Proofs.MaskedOutput
import PropertyDocs.Proofs.Overlays
import PropertyDocs.Proofs.Captures
import PropertyDocs.Proofs.Markers
import PropertyDocs.Proofs.TemplateConcatenation
import PropertyDocs.Proofs.ContinuationLines
import PropertyDocs.Proofs.WriteHistory
import PropertyDocs.Proofs.Inversion
import PropertyDocs.Proofs.Independence
import PropertyDocs.Proofs.Listings
import PropertyDocs.Proofs.FileLocation
import PropertyDocs.Proofs.LineCuts
import PropertyDocs.Proofs.MalformedEscapes
import PropertyDocs.Proofs.CaseEquality
import PropertyDocs.Proofs.DeclaredEncodings
import PropertyDocs.Proofs.PairedBackslashes
