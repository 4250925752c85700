/-
  Route/Middleware.lean --- what guards a route.

  WHAT THIS FILE IS FOR.  A middleware is known by the class that resolves it and by an
  nickname, and may carry attributes: `can:update,post` asks for a permission on a model.
  In a route list it stands as such a text or as an object.
-/
import RouteAudit.Json.Decode
import RouteAudit.Text.Blank
import RouteAudit.Text.Split

set_option autoImplicit false

namespace RouteAudit

open RouteAudit.Decode

/-- A middleware of a route. -/
structure Middleware where
  /-- the class it resolves to -/
  resolver : String
  /-- the short name that routes mention it by -/
  nickname : String
  attributes : List String
  deriving DecidableEq, Repr, Inhabited

namespace Middleware

/-! ## The text form -/

/-- The attributes behind the colon, trimmed, without empty ones. -/
def parseAttributes (cs : List Char) : List String :=
  (((Text.splitAll ',' cs).map Text.trimChars).filter (!·.isEmpty)).map String.ofList

/-- The middleware that a text stands for: a name, which is resolver and nickname, and
attributes behind a colon. -/
def parse (text : String) : Middleware :=
  let (name, attributes) := Text.splitOnce ':' text.toList
  let name := String.ofList (Text.trimChars name)
  { resolver := name, nickname := name, attributes := (attributes.map parseAttributes).getD [] }

/-- The nickname, and the attributes behind a colon if there are any. -/
def text (m : Middleware) : String :=
  if m.attributes.isEmpty then m.nickname else m.nickname ++ ":" ++ ",".intercalate m.attributes

/-! ## Matching -/

/-- The middleware that authorizes: `can`, or the class behind it. -/
def authorize : Middleware := ⟨"Illuminate\\Auth\\Middleware\\Authorize", "can", []⟩

/-- Whether a middleware has the resolver or the nickname of another and all its
attributes. -/
def implements (m wanted : Middleware) : Bool :=
  (m.resolver == wanted.resolver || m.nickname == wanted.nickname) &&
    wanted.attributes.all m.attributes.contains

/-- Whether a middleware implements one of several. -/
def implementsAny (m : Middleware) (wanted : List Middleware) : Bool :=
  wanted.any m.implements

/-! ## The JSON form -/

/-- The object that says all of a middleware. -/
def toJson (m : Middleware) : Json :=
  .object [("resolver", .string m.resolver), ("alias", .string m.nickname),
    ("attributes", .ofList .string m.attributes)]

/-- The fields of the object form; without a nickname the resolver is taken for it. -/
def record : Record Json Middleware :=
  (fun resolver nickname attributes => ⟨resolver, nickname.getD resolver, attributes⟩)
    <$> .required "resolver" Json.format.string
    <*> .optional "alias" none (Json.format.option Json.format.string)
    <*> .optional "attributes" [] (Json.format.list Json.format.string)

/-- The middleware that a text or an object stands for. -/
def ofJson : Json → Except Problem Middleware
  | .string s => .ok (parse s)
  | .object members =>
    match record.decode Json.format "struct variant" (.object members) with
    | .ok m => .ok m
    | .error _ => .error (.noVariant "MiddlewareRecord")
  | _ => .error (.noVariant "MiddlewareRecord")

end Middleware

end RouteAudit
