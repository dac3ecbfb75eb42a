import Warden.Text.Blank
import Warden.Text.Upper
import Warden.Text.Fields
import Warden.Text.Printable
import Warden.Text.Extend
import Warden.Permission
import Warden.Error
import Warden.Action
import Warden.Keyed
import Warden.Catalog
import Warden.Table
import Warden.LogConfig
import Warden.Schema
import Warden.Declaration
import Warden.Grant
import Warden.Principal
import Warden.Double
import Warden.Double.Shortest
import Warden.Json.Value
import Warden.Json.Pretty
import Warden.Schema.Json
import Warden.Json.Reader
import Warden.Declaration.Decode
import Warden.Hooks
import Warden.Check
import Warden.Surface
import Warden.Describe
import Warden.Repository
import Warden.Scenario.Rule
import Warden.Scenario.Spec
import Warden.Scenario.Answer
import Warden.Scenario.Run
import Warden.Scenario.Repository
import Warden.Tool.Folder
import Warden.Tool
import Warden.Main
import Warden.Principal.Decode
import Warden.Proofs.Lists
import Warden.Proofs.Catalog
import Warden.Proofs.Routing
import Warden.Proofs.Table
import Warden.Proofs.Build
import Warden.Proofs.Failure
import Warden.Proofs.Surface
import Warden.Proofs.Delegation
import Warden.Proofs.Permission
import Warden.Proofs.ItemChecks
import Warden.Proofs.Grants
import Warden.Proofs.CatalogUpdates
import Warden.Proofs.Labels
import Warden.Proofs.GrantImplication
import Warden.Proofs.Lint
import Warden.Proofs.Repository
import Warden.Proofs.Tool
