import GatewayRouting.Cli.WorkingDirectory
import GatewayRouting.Main
import GatewayRouting.Proofs.Dispatch
import GatewayRouting.Proofs.FirstSpelling
import GatewayRouting.Proofs.MethodGuards
import GatewayRouting.Proofs.NestedPaths
import GatewayRouting.Proofs.Outline
import GatewayRouting.Proofs.DirectiveReader
import GatewayRouting.Proofs.PrefixSearch
import GatewayRouting.Proofs.QuotedWords
import GatewayRouting.Proofs.ItemTokens
import GatewayRouting.Proofs.FileTree
import GatewayRouting.Proofs.FileItems
import GatewayRouting.Proofs.FileText
import GatewayRouting.Proofs.SettingLines
import GatewayRouting.Proofs.VariableCase
import GatewayRouting.Proofs.TrieNodes
import GatewayRouting.Proofs.ReachableTries
import GatewayRouting.Proofs.MapLocations
import GatewayRouting.Proofs.Decompile
import GatewayRouting.Proofs.ConflictReports
import GatewayRouting.Proofs.CommandRuns
import GatewayRouting.Proofs.JsonRoundTrip
import GatewayRouting.Proofs.VariableReports
import GatewayRouting.Proofs.MethodLists
import GatewayRouting.Proofs.ResolvedFunctions
import GatewayRouting.Proofs.TargetUrls
import GatewayRouting.Proofs.SuppliedScheme
import GatewayRouting.Proofs.ConfigFaults
import GatewayRouting.Proofs.RoutesTable
import GatewayRouting.Proofs.MapEntries
