import ResourceRoutes.Controller.Basic
import ResourceRoutes.Auth

/-!
# Inherited options

Each node decides each option in one of three ways: it leaves it to its parent, clears it, or
sets it. A cleared option hides its ancestors' values like a set one, but reads as absent.
The options are authentication, the controller, a binding document, and a schema per
validation slot.
-/

namespace ResourceRoutes

/-- How a node decides one option. -/
inductive Setting (α : Type) where
  | inherit
  | clear
  | set (v : α)

namespace Setting

variable {α : Type}

/-- `none` while the node defers to its parent; `some` of the value (or of nothing) once it
decides. -/
def decided : Setting α → Option (Option α)
  | .inherit => none
  | .clear => some none
  | .set v => some (some v)

end Setting

/-- The options a node decides for itself. -/
structure NodeOptions where
  auth : Setting Auth
  controller : Setting Designation
  bind : Setting Json
  params : Setting Json
  query : Setting Json
  response : Setting Json
  payload : Setting Json

namespace NodeOptions

/-- Every option left to the parent. -/
def inheritAll : NodeOptions := ⟨.inherit, .inherit, .inherit, .inherit, .inherit, .inherit, .inherit⟩

/-- The schema setting of a validation slot. -/
def schema (o : NodeOptions) : Slot → Setting Json
  | .params => o.params
  | .query => o.query
  | .response => o.response
  | .payload => o.payload

/-- Replace the schema setting of a validation slot. -/
def withSchema (o : NodeOptions) (s : Slot) (v : Setting Json) : NodeOptions :=
  match s with
  | .params => { o with params := v }
  | .query => { o with query := v }
  | .response => { o with response := v }
  | .payload => { o with payload := v }

end NodeOptions

end ResourceRoutes
