import QueryTypes.Declared.TypeJson
import QueryTypes.Schema.Reader
import QueryTypes.Schema.Writer
import QueryTypes.Script.TreeJson
import QueryTypes.Typing.Generation
import QueryTypes.Proofs.Resolution.DepthBudget
import QueryTypes.Proofs.Resolution.CallGuard
import QueryTypes.Proofs.Resolution.Universe
import QueryTypes.Proofs.Resolution.Termination
import QueryTypes.Proofs.Scoping.Bracketing
import QueryTypes.Proofs.Scoping.Placement
import QueryTypes.Proofs.Scoping.Grounding
import QueryTypes.Proofs.Resolution.Lexical
import QueryTypes.Proofs.Resolution.Soundness
import QueryTypes.Proofs.Resolution.FirstProvider
import QueryTypes.Proofs.Resolution.Cycles
import QueryTypes.Proofs.Resolution.Sessions
import QueryTypes.Proofs.Resolution.WrapperCalls
import QueryTypes.Proofs.Typing.DeclaredNames
import QueryTypes.Proofs.Resolution.ScopeAgreement
import QueryTypes.Proofs.Resolution.LinkedExports
import QueryTypes.Proofs.Declared.Words
import QueryTypes.Proofs.Typing.DescribedWords
import QueryTypes.Proofs.Typing.QueryCaching
import QueryTypes.Proofs.Typing.References
import QueryTypes.Proofs.Typing.RestChains
import QueryTypes.Proofs.Typing.StatisticsAgreement
import QueryTypes.Proofs.Typing.FailedQueries
import QueryTypes.Proofs.Typing.TypeMaps
import QueryTypes.Proofs.Typing.ContainedComments
import QueryTypes.Proofs.Declared.Readability
import QueryTypes.Proofs.Scoping.Declarations
import QueryTypes.Proofs.Scoping.TreeShape
import QueryTypes.Proofs.Scoping.Designation
import QueryTypes.Proofs.Resolution.Reordering
import QueryTypes.Proofs.Typing.SchemaConstruction
import QueryTypes.Proofs.Schema.RoundTrip
import QueryTypes.Proofs.Resolution.FailurePlaces
import QueryTypes.Proofs.Resolution.ExtractionReports
import QueryTypes.Proofs.Resolution.CountedReturns
import QueryTypes.Proofs.Typing.MemberKeys
import QueryTypes.Proofs.Resolution.Templates
import QueryTypes.Proofs.Typing.DocumentProjections
import QueryTypes.Proofs.Number.ScriptText
import QueryTypes.Proofs.Query.SliceBounds
import QueryTypes.Proofs.Modules.PathResolution
import QueryTypes.Proofs.Source.Positions
import QueryTypes.Proofs.Typing.ArrayPartition
import QueryTypes.Proofs.Typing.RunReplacement
import QueryTypes.Proofs.Typing.LeastNumbers
import QueryTypes.Proofs.Script.SerializedTree
