import GameFixes.Main
import GameFixes.Proofs.Catalog.Waiting
import GameFixes.Proofs.Command.OutputFiles
import GameFixes.Proofs.Installer.Canonical
import GameFixes.Proofs.Installer.Pair
import GameFixes.Proofs.Installer.Quoting
import GameFixes.Proofs.Installer.Reordering
import GameFixes.Proofs.Installer.WellFormed
import GameFixes.Proofs.Provider.Listing
import GameFixes.Proofs.Provider.History
import GameFixes.Proofs.Reconciliation.Catalog
import GameFixes.Proofs.Reconciliation.Rows
import GameFixes.Proofs.Script.Comment
import GameFixes.Proofs.Script.Equality
import GameFixes.Proofs.Script.Marker
import GameFixes.Proofs.Script.Layout
import GameFixes.Proofs.Reconciliation.MoreFixes
import GameFixes.Proofs.Provider.Matching
import GameFixes.Proofs.Text.Utf8
import GameFixes.Proofs.Checkout.Names
import GameFixes.Proofs.Catalog.Decoding
import GameFixes.Proofs.Catalog.Grouping
import GameFixes.Proofs.Layout
import GameFixes.Proofs.Layout.Choice
import GameFixes.Proofs.Script.Tracking
