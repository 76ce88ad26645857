import BurnLens.Library.Json
import BurnLens.Library.Percent
import BurnLens.Library.Segments

/-! # Provider plugins

The registered providers with their configuration, and the hooks through which the proxy finds
the model of a request, rewrites it in a URL, recognises a stream and resolves the upstream
URL.  Everything that speaks the OpenAI wire format shares the OpenAI hooks.
-/

namespace BurnLens.Providers

open Library

abbrev Environ := Str → Option Str

inductive Provider where
  | openai
  | anthropic
  | google
  | azure
  | bedrock
  | groq
  | together
  | mistral
  | xai
  | deepseek
deriving DecidableEq, Repr

structure ProviderConfig where
  name : Str
  proxyPath : Str
  upstreamUrl : Str
  authHeader : Str
  pricingKey : Str
  -- Does the reported input-token count already include the cached tokens?
  promptTokensIncludeCache : Bool

/-- `OpenAICompatibleProvider(name, upstream_url)`. -/
def openaiCompatible (name upstreamUrl : Str) : ProviderConfig :=
  { name, proxyPath := "/proxy/" ++ name, upstreamUrl, authHeader := "Authorization",
    pricingKey := name, promptTokensIncludeCache := true }

namespace Provider

def config : Provider → ProviderConfig
  | openai =>
    { name := "openai", proxyPath := "/proxy/openai", upstreamUrl := "https://api.openai.com",
      authHeader := "Authorization", pricingKey := "openai", promptTokensIncludeCache := true }
  | anthropic =>
    { name := "anthropic", proxyPath := "/proxy/anthropic",
      upstreamUrl := "https://api.anthropic.com", authHeader := "x-api-key",
      pricingKey := "anthropic", promptTokensIncludeCache := false }
  | google =>
    { name := "google", proxyPath := "/proxy/google",
      upstreamUrl := "https://generativelanguage.googleapis.com",
      authHeader := "x-goog-api-key", pricingKey := "google", promptTokensIncludeCache := true }
  | azure =>
    { name := "azure", proxyPath := "/proxy/azure", upstreamUrl := "", authHeader := "api-key",
      pricingKey := "openai", promptTokensIncludeCache := true }
  | bedrock =>
    { name := "bedrock", proxyPath := "/proxy/bedrock", upstreamUrl := "",
      authHeader := "Authorization", pricingKey := "bedrock", promptTokensIncludeCache := false }
  | groq => openaiCompatible "groq" "https://api.groq.com/openai"
  | together => openaiCompatible "together" "https://api.together.xyz"
  | mistral => openaiCompatible "mistral" "https://api.mistral.ai"
  | xai => openaiCompatible "xai" "https://api.x.ai"
  | deepseek => openaiCompatible "deepseek" "https://api.deepseek.com"

def name (provider : Provider) : Str := provider.config.name

end Provider

def allProviders : List Provider :=
  [.openai, .anthropic, .google, .groq, .together, .mistral, .xai, .deepseek, .azure, .bedrock]

/-- `all_providers().get(name)`. -/
def registered (name : Str) : Option Provider := allProviders.find? fun p => p.name = name

/-! ## The model of a request -/

def azureAliases : List (Str × Str) :=
  [("gpt-35-turbo", "gpt-3.5-turbo"),
   ("gpt-35-turbo-16k", "gpt-3.5-turbo-16k"),
   ("gpt-35-turbo-instruct", "gpt-3.5-turbo-instruct")]

/-- `_deployment_map()`: the pairs of BURNLENS_AZURE_DEPLOYMENTS, a later one of the same name
    replacing an earlier one. -/
def deploymentMap (environ : Environ) : List (Str × Str) :=
  (((environ "BURNLENS_AZURE_DEPLOYMENTS").getD []).splitOn ',').filterMap fun pair =>
    match afterFirst "=" pair with
    | some model =>
      let deployment := strip (before '=' pair)
      if deployment ≠ [] ∧ strip model ≠ [] then some (deployment, strip model) else none
    | none => none

/-- `mapping.get(deployment, deployment)` on the user's map over the aliases. -/
def canonicalModel (environ : Environ) (deployment : Str) : Str :=
  match (deploymentMap environ).reverse.lookup deployment with
  | some model => model
  | none => (azureAliases.lookup deployment).getD deployment

/-- `AzureOpenAIProvider.extract_model`; a list or an object is no dictionary key. -/
def extractModelAzure (environ : Environ) (body : Fields) (path : Str) : Except PyError Json :=
  let deployment :=
    (body.getD "model" .null).orElse
      (((nextPart "deployments" ((before '?' path).splitOn '/')).map Json.str).getD .null)
  if deployment.truthy then
    match deployment with
    | .str deployment => .ok (.str (canonicalModel environ deployment))
    | .arr _ | .obj _ => .error .typeError
    | deployment => .ok deployment
  else .ok .null

/-- `GoogleProvider.extract_model`: the parts are those of the whole path, its query included. -/
def extractModelGoogle (body : Fields) (path : Str) : Json :=
  match nextPart "models" (path.splitOn '/') with
  | some part => .str (before ':' part)
  | none => body.getD "model" .null

def extractModelBedrock (body : Fields) (path : Str) : Json :=
  match nextPart "model" ((before '?' path).splitOn '/') with
  | some part => .str (unquote part)
  | none => (body.getD "modelId" .null).orElse (body.getD "model" .null)

/-- `provider.extract_model(request_body, request_path)`, null for `None`. -/
def Provider.extractModel (provider : Provider) (environ : Environ) (body : Fields) (path : Str) :
    Except PyError Json :=
  match provider with
  | .google => .ok (extractModelGoogle body path)
  | .azure => extractModelAzure environ body path
  | .bedrock => .ok (extractModelBedrock body path)
  | _ => .ok (body.getD "model" .null)

/-! ## Routing, streaming and the upstream URL -/

/-- `(/(?:v1|v1beta)/models/)([^:/]+)(:(?:generateContent|streamGenerateContent))`. -/
def googleModelInPath : PathPattern where
  initials := ["/v1/models/", "/v1beta/models/"]
  stops c := c = ':' || c = '/'
  follows rest := startsWith ":generateContent" rest || startsWith ":streamGenerateContent" rest

/-- `(/model/)([^/]+)(/[A-Za-z-]+)`. -/
def bedrockModelInPath : PathPattern where
  initials := ["/model/"]
  stops c := c = '/'
  follows
    | '/' :: c :: _ => ('A' ≤ c && c ≤ 'Z') || ('a' ≤ c && c ≤ 'z') || c = '-'
    | _ => false

def Provider.rewritePathForRouting (provider : Provider) (path routedModel : Str) : Str :=
  match provider with
  | .google => googleModelInPath.sub routedModel path
  | .bedrock => bedrockModelInPath.sub routedModel path
  | _ => path

def Provider.isStreaming (provider : Provider) (body : Fields) (path : Str) : Bool :=
  let flag := (body.getD "stream" (.bool false)).truthy
  match provider with
  | .google => contains ":streamGenerateContent" path || flag
  | .bedrock => contains "/converse-stream" path || contains "/invoke-with-response-stream" path
  | _ => flag

/-- `provider.upstream_base`; Azure and Bedrock raise without their environment variable. -/
def Provider.upstreamBase (provider : Provider) (environ : Environ) : Except PyError Str :=
  match provider with
  | .azure =>
    let endpoint := ((environ "BURNLENS_AZURE_ENDPOINT").getD []).rdropWhile (· = '/')
    if endpoint = [] then .error .runtimeError else .ok endpoint
  | .bedrock =>
    let region := strip ((environ "BURNLENS_BEDROCK_REGION").getD [])
    if region = [] then .error .runtimeError
    else .ok ("https://bedrock-runtime." ++ region ++ ".amazonaws.com".toList)
  | provider => .ok provider.config.upstreamUrl

def Provider.resolveUpstreamUrl (provider : Provider) (environ : Environ) (path : Str) :
    Except PyError Str := do
  return (← provider.upstreamBase environ) ++ path

def headersToStrip : List Str :=
  ["x-burnlens-tag-feature", "x-burnlens-tag-team", "x-burnlens-tag-customer", "x-burnlens-key"]

end BurnLens.Providers
