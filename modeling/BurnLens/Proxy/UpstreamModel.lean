import BurnLens.Proxy.Interceptor

/-! # The model that the upstream reads

A provider reads the model from a segment of the URL path or from the body.  This module states
where, independently of the proxy's own hooks, and says what the provider reads after routing
rewrote the request.
-/

namespace BurnLens.Proxy

open Library Providers

def named (name : Str) : Option Str := if name = [] then none else some name

/-- What is behind the proxy: `httpx`, and the reading of bodies that are no JSON. -/
structure Upstream where
  -- path and query that are sent for the text of a URL, without dot segments and fragments;
  -- nothing where `httpx` raises
  target : Str → Option Str
  -- the field "model" of a form
  formModel : List UInt8 → Option Str

def jsonModel (body : Body) : Option Str :=
  match Fields.get? body.fields "model" with
  | some (.str (c :: model)) => some (c :: model)
  | _ => none

def bodyModel (upstream : Upstream) (body : Body) : Option Str :=
  match body.json with
  | some _ => jsonModel body
  | none => (upstream.formModel body.bytes).bind named

/-- The path segment that names the model; a tuned model of Google has a path of its own. -/
def pathSegment (provider : Provider) (path : Str) : Option Str :=
  match provider with
  | .google =>
    (readAfter "/models/" googleModelInPath.stops path).or
      (readAfter "/tunedModels/" googleModelInPath.stops path)
  | .azure => readAfter "/deployments/" (fun c => c = '/') path
  | .bedrock => readAfter "/model/" bedrockModelInPath.stops path
  | _ => none

/-- A deployment of Azure stands for the model that the user or an alias maps it to. -/
def standsFor (provider : Provider) (environ : Environ) (name : Str) : Str :=
  if provider = .azure then canonicalModel environ name else name

theorem standsFor_of_ne {provider : Provider} {environ : Environ} (other : provider ≠ .azure) :
    standsFor provider environ = id :=
  funext fun _ => if_neg other

/-- The model that the provider reads from a URL path and a body: the decoded path segment, or
    the body where the path has none.  Bedrock does not look into the body. -/
def upstreamModel (upstream : Upstream) (provider : Provider) (environ : Environ) (path : Str)
    (body : Body) : Option Str :=
  match pathSegment provider path with
  | some segment => (named (unquote segment)).map (standsFor provider environ)
  | none =>
    if provider = .bedrock then none
    else (bodyModel upstream body).map (standsFor provider environ)

/-- The path rewrite of routing meets the segment that the provider reads. -/
def pathReached (provider : Provider) (path : Str) : Bool :=
  match provider with
  | .google => googleModelInPath.meets "/models/" path
  | .bedrock => bedrockModelInPath.meets "/model/" path
  | _ => false

/-- The body rewrite of routing changes what the provider reads. -/
def bodyReached (provider : Provider) (path : Str) (body : Body) : Bool :=
  (pathSegment provider path).isNone && provider ≠ .bedrock && Fields.has body.fields "model"

def routingReaches (provider : Provider) (path : Str) (body : Body) : Bool :=
  pathReached provider path || bodyReached provider path body

theorem reroute_eq (dumps : Json → List UInt8) (body : Body) (routedModel : Json) :
    body.reroute dumps routedModel =
      if Fields.has body.fields "model" then
        ⟨dumps (.obj (Fields.set body.fields "model" routedModel)),
          some (.obj (Fields.set body.fields "model" routedModel))⟩
      else body := by
  obtain ⟨bytes, json⟩ := body
  cases json with
  | none => rfl
  | some value => cases value <;> rfl

theorem bodyModel_reroute (upstream : Upstream) (dumps : Json → List UInt8) (body : Body)
    {target : Str} (nonempty : target ≠ []) :
    bodyModel upstream (body.reroute dumps (.str target)) =
      if Fields.has body.fields "model" then some target else bodyModel upstream body := by
  rw [reroute_eq]
  by_cases present : Fields.has body.fields "model" = true
  · rw [if_pos present, if_pos present]
    generalize body.fields = fields at present
    simp only [bodyModel, jsonModel, Body.fields]
    rw [Fields.get?_set_self present]
    cases target with
    | nil => exact absurd rfl nonempty
    | cons c target => rfl
  · rw [if_neg present, if_neg present]

/-! ## The path after routing -/

theorem googleModelInPath_marked : ∀ initial ∈ googleModelInPath.initials,
    "/models/".toList <:+ initial := by
  decide

theorem google_pathSegment_sub {target : Str} (path : Str)
    (clean : ∀ c ∈ target, c ≠ '?' ∧ c ≠ '/' ∧ c ≠ ':' ∧ c ≠ '%') :
    pathSegment .google (googleModelInPath.sub target path) =
      if googleModelInPath.meets "/models/" path then some target else pathSegment .google path := by
  have reread := PathPattern.read_sub path googleModelInPath_marked ⟨"/models", rfl⟩ rfl rfl
    (fun c member => ⟨(clean c member).1,
      by simp [googleModelInPath, (clean c member).2.1, (clean c member).2.2.1]⟩)
  cases read : readAfter "/models/" googleModelInPath.stops path with
  | some segment =>
    simp only [pathSegment, reread, read]
    split <;> rfl
  | none =>
    -- the rewrite only reaches the query, so a tuned model stays where it is
    have same := PathPattern.before_sub target path googleModelInPath_marked read
    have unread : readAfter "/models/" googleModelInPath.stops (googleModelInPath.sub target path) =
        none := by
      rw [readAfter, same]; exact read
    rw [unread, read] at reread
    have unmet : ¬googleModelInPath.meets "/models/" path = true := by
      intro meets
      rw [if_pos meets] at reread
      cases reread
    rw [if_neg unmet, pathSegment, pathSegment, unread, read, readAfter, readAfter, same]

theorem bedrock_pathSegment_sub {target : Str} (path : Str)
    (clean : ∀ c ∈ target, c ≠ '?' ∧ c ≠ '/' ∧ c ≠ ':' ∧ c ≠ '%') :
    pathSegment .bedrock (bedrockModelInPath.sub target path) =
      if bedrockModelInPath.meets "/model/" path then some target
      else pathSegment .bedrock path := by
  refine PathPattern.read_sub path (by decide) ⟨"/model", rfl⟩ rfl rfl fun c member => ?_
  exact ⟨(clean c member).1, by simp [bedrockModelInPath, (clean c member).2.1]⟩

theorem pathSegment_rewrite {target : Str} (provider : Provider) (path : Str)
    (clean : ∀ c ∈ target, c ≠ '?' ∧ c ≠ '/' ∧ c ≠ ':' ∧ c ≠ '%') :
    pathSegment provider (provider.rewritePathForRouting path target) =
      if pathReached provider path then some target else pathSegment provider path := by
  cases provider with
  | google => exact google_pathSegment_sub path clean
  | bedrock => exact bedrock_pathSegment_sub path clean
  | _ => rfl

/-- After routing the provider reads the target where routing reaches the model, and what it
    would have read before anywhere else. -/
theorem upstreamModel_rerouted {provider : Provider} {environ : Environ} {name target : Str}
    (upstream : Upstream) (dumps : Json → List UInt8) (path : Str) (body : Body)
    (mapped : getDowngradeModel name = some target) :
    upstreamModel upstream provider environ (provider.rewritePathForRouting path target)
        (body.reroute dumps (.str target)) =
      if routingReaches provider path body then some (standsFor provider environ target)
      else upstreamModel upstream provider environ path body := by
  obtain ⟨nonempty, clean⟩ := getDowngradeModel_clean mapped
  have decoded : unquote target = target :=
    unquote_eq_self fun escape => (clean _ escape).2.2.2 rfl
  rw [upstreamModel, pathSegment_rewrite provider path clean, routingReaches]
  cases reached : pathReached provider path with
  | true => simp [decoded, named, nonempty]
  | false =>
    rw [bodyModel_reroute upstream dumps body nonempty, upstreamModel, bodyReached]
    cases segment : pathSegment provider path with
    | some segment => simp
    | none =>
      -- the path names no model: the body decides, except for Bedrock
      generalize Fields.has body.fields "model" = present
      by_cases inPath : provider = .bedrock
      · simp [inPath]
      · cases present <;> simp [inPath]

end BurnLens.Proxy
