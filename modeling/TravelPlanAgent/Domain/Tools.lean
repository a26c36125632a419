import TravelPlanAgent.Domain.Trip

/-!
# Tools

A tool answers with data or with an error.  The gateway asks for several things at once; the
answers themselves are not under the program's control.

* `ToolResult`: one answer.
* `ToolGateway`: how the providers answer.
* `ToolGateway.searchPois`, `ToolGateway.getRoutes`: the calls that the workflows make.
-/

universe u

namespace TravelPlanAgent

open Calendar

/-- The answer of a tool. -/
inductive ToolResult (α : Type u) where
  | success (data : α) (fetchedAt expiresAt : Option DateTime)
  | failed (code safeMessage : String)

/-- How the providers answer.  A call may also raise, for example when a budget is exceeded. -/
structure ToolGateway where
  searchPoi : POISearchQuery → Result (ToolResult (List POIFacts))
  getRoute : RouteQuery → Result (ToolResult RouteResult)

namespace ToolGateway

variable (gateway : ToolGateway)

/-- `search_pois`: one answer for each query. -/
def searchPois (queries : List POISearchQuery) : Result (List (ToolResult (List POIFacts))) :=
  queries.mapM gateway.searchPoi

/-- `get_routes`: one answer for each route key. -/
def getRoutes (queries : List RouteQuery) : Result (Dict String (ToolResult RouteResult)) := do
  let unique := Dict.ofList (queries.map fun query => (routeKey query, query))
  let answers ← unique.entries.mapM fun (key, query) => do
    return (key, ← gateway.getRoute query)
  return Dict.ofList answers

end ToolGateway

/-- Merge the facts of successful searches; one failed search raises. -/
def foundFacts (results : List (ToolResult (List POIFacts))) : Result (List POIFacts) := do
  let found ← results.mapM fun result =>
    match result with
    | .success facts _ _ => .ok facts
    | .failed _ _ => .error .toolUnavailable
  return found.flatten

/-- Store the answers of a route lookup; one failed lookup raises. -/
def storeRoutes (routes : Routes) (answers : Dict String (ToolResult RouteResult)) :
    Result Routes := do
  let loaded ← answers.entries.mapM fun (key, result) =>
    match result with
    | .success route _ _ => .ok (key, route)
    | .failed _ _ => .error .toolUnavailable
  return loaded.foldl (fun routes entry => routes.set entry.1 entry.2) routes

end TravelPlanAgent
