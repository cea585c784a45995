import SigVal.Commons.Algorithms
import SigVal.Commons.Claims
import SigVal.Commons.SVAUtils
import SigVal.Lib.Dom
import SigVal.Lib.FailFast
import SigVal.Lib.HashMap
import SigVal.Lib.Java
import SigVal.Lib.Sort
import SigVal.Pdf.Cos
import SigVal.Svt.TokenValidator
import SigVal.Pdf.Revision
import SigVal.Pdf.SafeUpdate
import SigVal.Pdf.SignatureContext
import SigVal.Cert.ValidationStatus
import SigVal.Cert.ValidityChecker
import SigVal.Cert.StatusBacking
import SigVal.Cert.Interleaving
import SigVal.Cert.PathValidator
import SigVal.Commons.SigValResult
import SigVal.Jose.DataValidator
import SigVal.Pdf.SingleValidator
import SigVal.Pdf.TimeEvidence
import SigVal.Pdf.SvtTimestamps
import SigVal.Pdf.SvtVerifier
import SigVal.Pdf.SvtBinding
import SigVal.Cert.CrlCache
import SigVal.Cert.PathCollection
import SigVal.Cert.ResponderChain
import SigVal.Cert.TrustAnchors
import SigVal.Pdf.DocumentVerdict
import SigVal.Policy.FormatAgreement
import SigVal.Svt.ClaimsIssuer
import SigVal.Jose.Document
import SigVal.Jose.SvtClaimsIssuer
import SigVal.Jose.SvtExtension
import SigVal.Pdf.SvtClaimsIssuer
import SigVal.Cert.CrlCacheImpl
import SigVal.Cert.CrlProvenance
import SigVal.Commons.DigestNaming
import SigVal.Pdf.RevisionScan
import SigVal.Pdf.SvtAgreement
import SigVal.Report.Generator
import SigVal.Report.References
import SigVal.Xml.XadesDigests
import SigVal.Jose.TokenIssuance
import SigVal.Lib.DomChanges
import SigVal.Xml.ExtensionRun
import SigVal.Xml.LostTokens
import SigVal.Xml.TokenIssuance
import SigVal.Lib.NodeSets
import SigVal.Pdf.ByteRanges
import SigVal.Pdf.SignedFiles
import SigVal.Pdf.FormPaths
import SigVal.Pdf.IssueOrder
import SigVal.Pdf.ObjectComparison
import SigVal.Pdf.RevisionEnds
import SigVal.Pdf.UpdateLimits
import SigVal.Policy.FailClosed
import SigVal.Xml.IndependentTurns
import SigVal.Xml.Rereading
import SigVal.Xml.SvtAgreement
import SigVal.Xml.SignedOctets
import SigVal.Commons.OrderedCerts
import SigVal.Commons.TimeStampChecks
import SigVal.Svt.CertReferences
import SigVal.Svt.TokenSelection
import SigVal.Svt.ForgedTokens
import SigVal.Cert.OcspEntries
import SigVal.Policy.RevocationEvidence
import SigVal.Cert.CrlRecache
import SigVal.Cert.DistributionPoints
import SigVal.Svt.ReissuedTimes
import SigVal.Jose.SignatureTimestamps
import SigVal.Extensions.QCStatements
import SigVal.Policy.SvtResults
import SigVal.Xml.IdAttributes
import SigVal.Extensions.AuthnContext
import SigVal.Extensions.FromExtensions
import SigVal.Extensions.ParsedStatements
import SigVal.Extensions.StatementsRoundTrip
import SigVal.Xml.OrderlyTurns
import SigVal.Xml.TokenLaw
import SigVal.Extensions.ContextPrinting
import SigVal.Extensions.ContextRoundTrip
import SigVal.Pdf.MarkerScan
import SigVal.Lib.StableSort
import SigVal.Report.BestSignatureTime
import SigVal.Lib.InputStream
import SigVal.Commons.DocType
import SigVal.Pdf.IncrementalUpdates
import SigVal.Pdf.SignedVersion
import SigVal.Lib.Replacement
import SigVal.Jose.TokenRuns
import SigVal.Svt.Generations
import SigVal.Policy.LastingVerdicts
import SigVal.Cert.AcceptedPaths
import SigVal.Cert.CacheLifetime
import SigVal.Commons.DocumentResult
import SigVal.Jose.SignedDocument
import SigVal.Jose.ExtendedVerdict
import SigVal.Pdf.SvtSeal
import SigVal.Pdf.SealedVerdicts
