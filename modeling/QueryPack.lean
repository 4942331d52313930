import QueryPack.Main
import QueryPack.Proofs.Convergence
import QueryPack.Proofs.CompletePack
import QueryPack.Proofs.FirstObstacle
import QueryPack.Proofs.DigestStream
import QueryPack.Proofs.OrderIndependence
import QueryPack.Proofs.ResolutionViews
import QueryPack.Proofs.ConfigurationRoundTrip
import QueryPack.Proofs.Generating
import QueryPack.Proofs.HiddenInputs
import QueryPack.Proofs.PresentationFlags
import QueryPack.Json.Reader
import QueryPack.Proofs.JsonReading
import QueryPack.Proofs.Replies
import QueryPack.Proofs.OverrideHistory
import QueryPack.Proofs.LayeredQueries
import QueryPack.Proofs.OutsidePack
import QueryPack.Proofs.Containment
import QueryPack.Proofs.ArtifactPaths
import QueryPack.Proofs.FallbackChain
import QueryPack.Proofs.OverlayLaws
import QueryPack.Proofs.OverrideAccounts
import QueryPack.Proofs.WriteViews
import QueryPack.Proofs.CoverageRows
import QueryPack.Proofs.KeptEntries
import QueryPack.Proofs.ConfigurationLoading
import QueryPack.Proofs.ConfigurationStoring
import QueryPack.Proofs.ToldTexts
