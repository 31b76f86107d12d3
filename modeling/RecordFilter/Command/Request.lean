import RecordFilter.Command.Arguments
import RecordFilter.Command.Fault
import RecordFilter.Query.Literal
import RecordFilter.Query.Request

/-!
# Requests of the command line

* `Command.namedEntry` — one named binding, split at its first equals sign.
* `QueryArguments.request` — the request of query arguments. Switches count before named options,
  and of several named entries with one key the last counts.
-/

namespace RecordFilter.Command

/-- **One named binding**: the key before the first equals sign, and the literal after it. -/
def namedEntry (entry : String) : Except Fault (String × Json) :=
  match Text.splitOnce? '=' entry with
  | some (key, value) => .ok (key, Json.ofLiteral value)
  | none => .error (.malformedNamed entry)

/-- An error of the engine as a fault of the command. -/
def ofEngine {α : Type} (result : Except Error α) : Except Fault α := result.mapError .engine

namespace QueryArguments

/-- The request with the named entries, before the switches that replace named options. -/
def namedRequest (a : QueryArguments) : Except Fault Request := do
  let request := ((Request.ofQuery a.query).bindAll (a.bind.map Json.ofLiteral)).withFirst a.first
  let request := request.withDebug a.debug
  let named ← a.named.mapM namedEntry
  if named.isEmpty then return request
  else ofEngine (request.withMap (Dict.ofList named))

/-- The projection of the switches: one field by itself, or several. -/
def projection (a : QueryArguments) : Option Pluck :=
  match a.pluck with
  | [] => none
  | [field] => some (.field field)
  | fields => some (.fields fields)

/-- **The request of query arguments.** -/
def request (a : QueryArguments) : Except Fault Request := do
  let request ← a.namedRequest
  let request := if a.first then request.withFirst true else request
  let request := if a.debug then request.withDebug true else request
  let request := match a.projection with
    | some pluck => request.withPluck pluck
    | none => request
  return match a.default with
    | some text => request.withDefault (Json.ofLiteral text)
    | none => request

end QueryArguments

end RecordFilter.Command
