import ResourceRoutes.Json.Basic
import ResourceRoutes.Json.Syntax
import ResourceRoutes.Json.Scan
import ResourceRoutes.Json.Parse
import ResourceRoutes.Json.Render
import ResourceRoutes.Decimal.Binary
import ResourceRoutes.Decimal.Shortest
import ResourceRoutes.Decimal.Layout
import ResourceRoutes.Text.Printable
import ResourceRoutes.Text.Quoted
import ResourceRoutes.Text.Blank
import ResourceRoutes.Text.Debug
import ResourceRoutes.Json.Debug
import ResourceRoutes.Json.Mismatch
import ResourceRoutes.Error
import ResourceRoutes.Config.Options
import ResourceRoutes.Config.Load
import ResourceRoutes.Auth
import ResourceRoutes.Route.Method
import ResourceRoutes.Route.Meta
import ResourceRoutes.Route.Spec
import ResourceRoutes.Controller.Validator
import ResourceRoutes.Controller.Basic
import ResourceRoutes.Tree.Setting
import ResourceRoutes.Tree.Basic
import ResourceRoutes.Tree.Visit
import ResourceRoutes.Router.Table
import ResourceRoutes.Router.Placeholder
import ResourceRoutes.Text.Percent
import ResourceRoutes.Router.Basic
import ResourceRoutes.Registration.Basic
import ResourceRoutes.Registration.Recording
import ResourceRoutes.Http.Trie
import ResourceRoutes.Http.Host
import ResourceRoutes.Http.Wire
import ResourceRoutes.Http.Serve
import ResourceRoutes.Script.Field
import ResourceRoutes.Script.Controllers
import ResourceRoutes.Script.Statement
import ResourceRoutes.Script.Report
import ResourceRoutes.Tree.Inherited
import ResourceRoutes.Script.Build
import ResourceRoutes.Script.Steps
import ResourceRoutes.Script.Answer
import ResourceRoutes.Proofs.Tree.Arena
import ResourceRoutes.Proofs.Tree.Chain
import ResourceRoutes.Proofs.Tree.Walk
import ResourceRoutes.Proofs.Tree.Trace
import ResourceRoutes.Proofs.Script.Run
import ResourceRoutes.Proofs.Router.Build
import ResourceRoutes.Proofs.Router.Index
import ResourceRoutes.Proofs.Router.Reach
import ResourceRoutes.Proofs.Router.Phase
import ResourceRoutes.Proofs.Router.Duplicates
import ResourceRoutes.Proofs.Registration.Schemas
import ResourceRoutes.Proofs.Registration.Pass
import ResourceRoutes.Proofs.Router.Placeholders
import ResourceRoutes.Proofs.Http.Mounting
import ResourceRoutes.Proofs.Tree.Inheritance
import ResourceRoutes.Proofs.Router.Names
import ResourceRoutes.Proofs.Http.Calls
import ResourceRoutes.Proofs.Text.Segment
import ResourceRoutes.Proofs.Router.Href
import ResourceRoutes.Proofs.Tree.Reached
import ResourceRoutes.Proofs.Tree.Accumulate
import ResourceRoutes.Proofs.Router.Rooted
import ResourceRoutes.Proofs.Http.PreSteps
